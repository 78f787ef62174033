import LuaMarkup.Settings.Variables

/-!
The settings of a run: those of the environment before those of a file, and for the rest the
defaults. Once loaded they are held.
-/

namespace LuaMarkup.Settings

structure Sources where
  environment : List Variable := []
  /-- The file of variables, if there is one, and what is in it. -/
  file : Option (FilePath × Text) := none

inductive LoadError where
  | unreadable (cause : Unreadable)
  | invalid (faults : List Invalid)
deriving DecidableEq, Repr

def LoadError.message : LoadError → Text
  | .unreadable cause => cause.message.toList
  | .invalid faults =>
    List.intercalate ['\n'] (faults.map fun i =>
      (String.intercalate "." i.location).toList ++ ": ".toList ++ i.fault.message.toList)

namespace Sources

def content (sources : Sources) : EnvFile.Content :=
  match sources.file with
  | some (_, text) => EnvFile.read sources.environment (Text.unifyLineEnds text)
  | none => { vars := [], invalidLines := [] }

/-- Says from which file the settings were loaded. -/
def record (sources : Sources) : Log.Record :=
  { logger := "lualight.config"
    level := .info
    message :=
      match sources.file with
      | some (path, _) => "Settings loaded .env from: ".toList ++ path.toText
      | none => "Settings: no .env file found, using env vars and defaults".toList }

/-- Warns of the lines that are no statements. -/
def warnings (sources : Sources) : List Log.Record :=
  sources.content.invalidLines.map fun line =>
    { logger := "lualight.config"
      level := .warning
      message := "python-dotenv could not parse statement starting at line ".toList ++
        Nat.toDigits 10 line }

end Sources

/-- Both parts are read from the environment before any is read from the file. -/
def load (sources : Sources) : Except LoadError Settings := do
  let outer := fold sources.environment
  let inner := fold sources.content.vars
  let read (source : Source) (vars : List (Text × Json)) (part : Part) :=
    (ofVariables source vars part).mapError LoadError.unreadable
  let highlight ← read .environment outer .highlight
  let log ← read .environment outer .log
  let highlight' ← read .file inner .highlight
  let log' ← read .file inner .log
  let value : Part → Option Json
    | .highlight => overlay? highlight' highlight
    | .log => overlay? log' log
  (ofParts value).mapError LoadError.invalid

/-- What loading the settings comes to, and what is logged of it. -/
structure Loaded where
  warnings : List Log.Record
  /-- Says from where they were loaded. -/
  record : Log.Record
  settings : Except LoadError Settings

def Sources.loaded (sources : Sources) : Loaded :=
  { warnings := sources.warnings, record := sources.record, settings := load sources }

/-- The settings in use, once they have been loaded. -/
structure Store where
  held : Option Settings := none
deriving DecidableEq, Repr

namespace Store

/-- The settings in use, which are loaded if none are held, and what is logged. -/
def get (store : Store) (sources : Sources) :
    Except LoadError (Settings × List Log.Record × Store) :=
  match store.held with
  | some settings => .ok (settings, [], store)
  | none => (load sources).map fun settings =>
      (settings, [sources.record], { held := some settings })

def clear (_ : Store) : Store := {}

end Store
end LuaMarkup.Settings
