import LuaMarkup.Command.Arguments
import LuaMarkup.Log.Logging
import LuaMarkup.Settings.Load
import LuaMarkup.Text.Utf8

/-!
The command line at work on a host, with settings that have been loaded and a library for pages.
-/

namespace LuaMarkup.Command

/-- What a run can break off with. -/
inductive Crash where
  | settings (cause : Settings.LoadError)
  | help (cause : TemplateError)
  | file (cause : FileError)
  | encoding (cause : Text.Utf8Error)
  | token (cause : ResolveError)
  | page (cause : Page.Error)
  | stream (cause : StreamError)
deriving DecidableEq, Repr

def Crash.message : Crash → Text
  | .settings cause => cause.message
  | .help cause => cause.message
  | .file cause => cause.message
  | .encoding cause => cause.message.toList
  | .token cause => cause.message.toList
  | .page cause => cause.message.toList
  | .stream cause => cause.message

inductive Outcome where
  | exit (status : Nat)
  | crash (cause : Crash)
deriving DecidableEq, Repr

/-- Why a command does not end well. The system refuses something, the console ends the program,
or something else happens, which nothing is done about. -/
inductive Failure where
  | refused (message : Text)
  | ended
  | crash (cause : Crash)
deriving DecidableEq, Repr

namespace Failure

def ofFile : FileError → Failure
  | .zeroInPath => .crash (.file .zeroInPath)
  | e => .refused e.message

def ofStream : StreamError → Failure
  | .refused refusal => .refused refusal.message
  | e => .crash (.stream e)

def ofReport : ReportError → Failure
  | .stream e => .ofStream e
  | .ended => .ended

end Failure

/-- The text of a file that has been read. -/
def decode : Except FileError (List UInt8) → Except Failure Text
  | .error e => .error (.ofFile e)
  | .ok bytes => (Text.ofBytes bytes).mapError fun cause => .crash (.encoding cause)

/-- What is shown when a file has been written. -/
def announcement (name : Text) : Text := "[green]Wrote[/] ".toList ++ name

/-- What is shown when something is refused. -/
def complaint (message : Text) : Text := "[red]Error:[/] ".toList ++ message

variable {m : Type → Type} [Monad m] [Host m]

/-- Steps that end with the first failure. -/
abbrev Steps (m : Type → Type) (α : Type) : Type := ExceptT Failure m α

/-- The text of a file, or of the standard input if its name is `-`. All line ends are LF. -/
def readInput (name : Text) : Steps m Text :=
  if name = ['-'] then do
    ofExcept (((← Host.input).mapError .ofStream).map Text.unifyLineEnds)
  else do ofExcept ((decode (← Host.read (.ofText name))).map Text.unifyLineEnds)

def writeOutput (text : Text) : (output : Option Text) → Steps m Unit
  | none => do ofExcept ((← Host.print text).mapError fun e => .ofStream e.cause)
  | some name => do
    ofExcept ((← Host.write (.ofText name) text).mapError fun e => .ofFile e.cause)
    ofExcept ((← Host.report (announcement name)).mapError .ofReport)

def logTrace (logging : Logging) (trace : Bool) (hits : List Match) : m Unit :=
  if trace then logging.logAll (hits.map .ofMatch) else pure ()

/-- The markup of a source as it is printed. -/
def sourceMarkup (source : Text) : Except Crash Text :=
  ((highlight source).map (· ++ ['\n'])).mapError .token

/-- The markup of a page, and what is reported besides. -/
def pageMarkup (lib : Html.Library) (cssClass : Text) (seed : Nat) (html : Text) :
    Page.Report × Except Crash Text :=
  let (done, result) := Page.highlight lib cssClass (Page.nonces seed) html
  (done, result.mapError .page)

/-- Does what a command asks for. -/
def perform (lib : Html.Library) (logging : Logging) (trace : Bool) : Command → Steps m Unit
  | .source file => do
    let source ← readInput file
    ExceptT.lift (logTrace logging trace (highlightTrace source))
    let markup ← ofExcept ((sourceMarkup source).mapError .crash)
    writeOutput markup none
  | .page file output cssClass => do
    let html ← readInput file
    let (done, result) := pageMarkup lib cssClass (← Host.seed) html
    ExceptT.lift (logTrace logging trace done.trace)
    ExceptT.lift (logging.logAll done.log)
    let markup ← ofExcept (result.mapError .crash)
    writeOutput markup output

/-- Performs a command. Where the system refuses something the reason is shown. -/
def finish (lib : Html.Library) (logging : Logging) (invocation : Invocation) : m Outcome := do
  match ← (perform lib logging invocation.trace invocation.command).run with
  | .ok () => return .exit 0
  | .error (.crash cause) => return .crash cause
  | .error .ended => return .exit 1
  | .error (.refused message) =>
    match ← Host.report (complaint message) with
    | .ok () => return .exit 1
    | .error .ended => return .exit 1
    | .error (.stream cause) => return .crash (.stream cause)

/-- Tracing asks for records of the lowest level. -/
def logSettings (settings : Settings) (trace : Bool) : LogSettings :=
  if trace then { settings.log with level := .debug } else settings.log

/-- Sets up the log and performs a command. That the log cannot be set up is not reported. -/
def start (lib : Html.Library) (logging : Logging) (settings : Settings)
    (invocation : Invocation) : m Outcome := do
  match ← logging.setUp (logSettings settings invocation.trace) with
  | .error cause => return .crash (.file cause)
  | .ok logging => finish lib logging invocation

/-- Prints a help text, or not if the system refuses it. -/
def printHelp (text : Text) : m Outcome := do
  match ← Host.print text with
  | .error ⟨.raised e, _⟩ => return .crash (.stream (.raised e))
  | _ => return .exit 0

/-- Runs a command line. -/
def run (lib : Html.Library) (loaded : Settings.Loaded) (arguments : List Text) :
    m Outcome := do
  let logging : Logging := {}
  logging.logAll loaded.warnings
  match loaded.settings with
  | .error cause => return .crash (.settings cause)
  | .ok settings =>
    logging.log loaded.record
    match Invocation.ofArguments settings arguments with
    | .error (.help topic) =>
      match topic.help settings.highlight.cssClass with
      | .ok text => printHelp text
      | .error cause => return .crash (.help cause)
    | .error (.misuse topic cause) =>
      Host.printError (topic.complaint cause)
      return .exit 2
    | .ok invocation => start lib logging settings invocation

end LuaMarkup.Command
