import LuaMarkup.Host.FileError

/-!
What a program is given to work with: files, the standard streams and a console. The program
requests and the host answers.
-/

namespace LuaMarkup

/-- What a host adds to a line of a log file: the time, and the number of the line of the
program that it comes from. -/
structure Stamp where
  time : Text
  line : Text
deriving DecidableEq, Repr

/-- An error that does not come from the system, by the name of its kind. -/
structure Raised where
  kind : String
  message : Text
deriving DecidableEq, Repr

/-- Why a stream fails. -/
inductive StreamError where
  | refused (refusal : Refusal)
  | raised (error : Raised)
deriving DecidableEq, Repr

def StreamError.message : StreamError → Text
  | .refused refusal => refusal.message
  | .raised error => error.message

/-- Why a text is not where it was to be put, and whether the place has been touched: then some
of the text may be there, and what was there may be gone. -/
structure Broken (ε : Type) where
  cause : ε
  begun : Bool
deriving DecidableEq, Repr

/-- Why a console does not show a message. -/
inductive ReportError where
  | stream (cause : StreamError)
  /-- Nobody listens any more, and the console ends the program with status 1. -/
  | ended
deriving DecidableEq, Repr

inductive Request where
  /-- An absolute path, from which the others start. -/
  | workDirectory
  | read (path : FilePath)
  /-- Puts a text in the place of what a file holds. -/
  | write (path : FilePath) (text : Text)
  /-- Adds a text at the end of a file. -/
  | append (path : FilePath) (text : Text)
  | makeDirectory (path : FilePath)
  | isDirectory (path : FilePath)
  /-- All of the standard input. -/
  | input
  | print (text : Text)
  /-- Prints on the stream for errors. That it fails makes no difference. -/
  | printError (text : Text)
  /-- Shows a message with markup on the console, which is the stream for errors. -/
  | report (message : Text)
  | stamp
  /-- A number that cannot be told beforehand. -/
  | seed
deriving DecidableEq, Repr

/-- What a request is answered with. -/
abbrev Request.Answer : Request → Type
  | .workDirectory => Except FileError FilePath
  | .read _ => Except FileError (List UInt8)
  | .write _ _ => Except (Broken FileError) Unit
  | .append _ _ => Except FileError Unit
  | .makeDirectory _ => Except FileError Unit
  | .isDirectory _ => Bool
  | .input => Except StreamError Text
  | .print _ => Except (Broken StreamError) Unit
  | .printError _ => Unit
  | .report _ => Except ReportError Unit
  | .stamp => Stamp
  | .seed => Nat

class Host (m : Type → Type) where
  ask : (request : Request) → m request.Answer

namespace Host

variable {m : Type → Type} [Host m]

def workDirectory : m (Except FileError FilePath) := ask .workDirectory

def read (path : FilePath) : m (Except FileError (List UInt8)) := ask (.read path)

def write (path : FilePath) (text : Text) : m (Except (Broken FileError) Unit) :=
  ask (.write path text)

def append (path : FilePath) (text : Text) : m (Except FileError Unit) :=
  ask (.append path text)

def makeDirectory (path : FilePath) : m (Except FileError Unit) := ask (.makeDirectory path)

def isDirectory (path : FilePath) : m Bool := ask (.isDirectory path)

def input : m (Except StreamError Text) := ask .input

def print (text : Text) : m (Except (Broken StreamError) Unit) := ask (.print text)

def printError (text : Text) : m Unit := ask (.printError text)

def report (message : Text) : m (Except ReportError Unit) := ask (.report message)

def stamp : m Stamp := ask .stamp

def seed : m Nat := ask .seed

variable [Monad m]

/-- Makes a directory. One that is there already will do. -/
def ensureDirectory (path : FilePath) : m (Except FileError Unit) := do
  match ← Host.makeDirectory path with
  | .ok () => return .ok ()
  | .error e =>
    if e.isMissing ∨ e = .zeroInPath then return .error e
    else return if ← Host.isDirectory path then .ok () else .error e

/-- Makes a directory and before it those of the `depth` above that are not there. -/
def ensureDirectories : (depth : Nat) → FilePath → m (Except FileError Unit)
  | 0, path => ensureDirectory path
  | depth + 1, path => do
    match ← ensureDirectory path with
    | .ok () => return .ok ()
    | .error e =>
      if e.isMissing ∧ path.parent ≠ path then
        match ← ensureDirectories depth path.parent with
        | .ok () => ensureDirectory path
        | .error e => return .error e
      else return .error e

/-- The path as seen from the root. -/
def absolute (path : FilePath) : m (Except FileError FilePath) := do
  if path.isAbsolute then return .ok path
  else return (← workDirectory).map path.absolute

/-- A host goes on working for steps that may fail for reasons of their own. -/
instance {ε : Type} : Host (ExceptT ε m) where
  ask request := ExceptT.lift (ask request)

end Host
end LuaMarkup
