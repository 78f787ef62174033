import LuaMarkup.Command.Run
import LuaMarkup.Host.Terminal
import LuaMarkup.Html.Standard
import Std.Time.Format

/-!
The program on the system that it runs on.
-/

namespace LuaMarkup.Main

def pathString (path : FilePath) : String := String.ofList path.toText

/-- The code and the text of an error of the system. The code may come negated. -/
def systemError? : IO.Error → Option (UInt32 × String)
  | .alreadyExists _ code text | .noFileOrDirectory _ code text
  | .invalidArgument _ code text | .permissionDenied _ code text
  | .resourceExhausted _ code text | .inappropriateType _ code text
  | .noSuchThing _ code text | .interrupted _ code text | .otherError code text
  | .resourceBusy code text | .resourceVanished code text | .unsupportedOperation code text
  | .hardwareFault code text | .unsatisfiedConstraints code text | .illegalOperation code text
  | .protocolError code text | .timeExpired code text => some (code, text)
  | .unexpectedEof | .userError _ => none

def refusalOf (error : IO.Error) : Refusal :=
  match systemError? error with
  | some (code, text) =>
    let code := if code < 0x80000000 then code else 0 - code
    let known : List Refusal :=
      [.noSuchFile, .fileExists, .notADirectory, .isADirectory, .nameTooLong]
    (known.find? (·.code == code.toNat)).getD (.other code.toNat text)
  | none => .other 0 error.toString

/-- An action on a path, the errors of the system taken as values. -/
def attempt {α : Type} (path : FilePath) (action : String → IO α) :
    IO (Except FileError α) := do
  if '\x00' ∈ path.toText then return .error .zeroInPath
  match ← (action (pathString path)).toBaseIO with
  | .ok a => return .ok a
  | .error e => return .error (.refused (refusalOf e) path)

/-- An action on a stream, the errors of the system taken as values. -/
def attemptStream {α : Type} (action : IO α) : IO (Except StreamError α) := do
  match ← action.toBaseIO with
  | .ok a => return .ok a
  | .error e => return .error (.refused (refusalOf e))

def currentDirectory : IO (Except FileError FilePath) := do
  match ← IO.currentDir.toBaseIO with
  | .ok directory => return .ok (.ofText directory.toString.toList)
  | .error e => return .error (.broken (refusalOf e))

/-- Puts a text in the place of what a file holds. The file is emptied when it is opened. -/
def write (path : FilePath) (text : Text) : IO (Except (Broken FileError) Unit) := do
  match ← attempt path (IO.FS.Handle.mk · .write) with
  | .error cause => return .error { cause, begun := false }
  | .ok handle =>
    match ← (handle.putStr (String.ofList text)).toBaseIO with
    | .ok () => return .ok ()
    | .error e => return .error { cause := .broken (refusalOf e), begun := true }

/-- That printing is refused does not say how much of the text is there. -/
def print (text : Text) : IO (Except (Broken StreamError) Unit) := do
  let printed ← attemptStream (IO.print (String.ofList text))
  return printed.mapError fun cause => { cause, begun := true }

def input : IO (Except StreamError Text) := do
  match ← attemptStream (IO.FS.readBinFile "/dev/stdin") with
  | .ok bytes => return Terminal.decode bytes.toList
  | .error cause => return .error cause

def report (message : Text) : IO (Except ReportError Unit) := do
  match Terminal.layout message with
  | .ok text => return (← attemptStream (IO.eprint (String.ofList text))).mapError .stream
  | .error e => return .error e

def stamp : IO Stamp := do
  let now ← Std.Time.PlainDateTime.now
  return { time := (now.format "uuuu-MM-dd HH:mm:ss").toList, line := ['0'] }

instance : Host IO where
  ask
    | .workDirectory => currentDirectory
    | .read path => attempt path fun p => do return (← IO.FS.readBinFile p).toList
    | .write path text => write path text
    | .append path text => attempt path fun p => do
      (← IO.FS.Handle.mk p .append).putStr (String.ofList text)
    | .makeDirectory path => attempt path fun p => IO.FS.createDir p
    | .isDirectory path => do ((← IO.currentDir) / pathString path).isDir
    | .input => input
    | .print text => print text
    | .printError text => do
      let _ ← attemptStream (IO.eprint (String.ofList text))
    | .report message => report message
    | .stamp => stamp
    | .seed => do
      return (← IO.getRandomBytes 8).toList.foldl (fun n b => 256 * n + b.toNat) 0

/-- The variables of the environment, as the system lists them: each ends in a zero byte. -/
def environment : IO (List Variable) := do
  let bytes := (← IO.FS.readBinFile "/proc/self/environ").toList
  let entries := (bytes.splitOn 0).filterMap fun entry => (Text.ofBytes entry).toOption
  return entries.filterMap fun entry =>
    let name := entry.takeWhile (· != '=')
    (entry.drop name.length).tail?.map fun value => { name, value := some value }

def settingsFile : String := ".env"

def sources : IO Settings.Sources := do
  let directory := (← currentDirectory).toOption.getD (.ofText ['/'])
  let path := (FilePath.ofText settingsFile.toList).absolute directory
  let file :=
    match ← (IO.FS.readFile settingsFile).toBaseIO with
    | .ok text => some (path, text.toList)
    | .error _ => none
  return { environment := ← environment, file }

end LuaMarkup.Main

open LuaMarkup in
def main (arguments : List String) : IO UInt32 := do
  let loaded := (← Main.sources).loaded
  match ← Command.run Html.standard loaded (arguments.map (·.toList)) with
  | .exit status => return status.toUInt32
  | .crash cause =>
    IO.eprintln (String.ofList cause.message)
    return 1
