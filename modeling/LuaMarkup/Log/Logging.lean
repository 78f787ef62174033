import LuaMarkup.Host.Basic
import LuaMarkup.Settings.Basic

/-!
Logging: records go to sinks, each of which takes those of its own level and above. Before it
has been set up there are no sinks, and warnings are printed bare.
-/

namespace LuaMarkup

inductive Log.Sink where
  | console (threshold : Level)
  /-- A file takes records of all levels. -/
  | file (path : FilePath)
deriving DecidableEq, Repr

namespace Log.Sink

def threshold : Sink → Level
  | .console threshold => threshold
  | .file _ => .debug

end Log.Sink

namespace Log.Record

def consoleLine (r : Record) : Text :=
  r.level.name.toList ++ ": ".toList ++ r.message ++ ['\n']

def levelWidth : Nat := 8

def fileLine (stamp : Stamp) (r : Record) : Text :=
  let level := r.level.name.toList
  let bar := " | ".toList
  stamp.time ++ bar ++ level ++ List.replicate (levelWidth - level.length) ' ' ++ bar ++
    r.logger.toList ++ [':'] ++ stamp.line ++ bar ++ r.message ++ ['\n']

end Log.Record

structure Logging where
  threshold : Log.Level := .warning
  sinks : List Log.Sink := []
deriving DecidableEq, Repr

namespace Logging

open Log (Level Sink Record)

def takes (threshold : Level) (r : Record) : Bool :=
  threshold.severity ≤ r.level.severity

/-- The sinks that a record goes to. -/
def sinksFor (logging : Logging) (r : Record) : List Sink :=
  if takes logging.threshold r then logging.sinks.filter fun s => takes s.threshold r else []

variable {m : Type → Type} [Monad m] [Host m]

/-- Hands a record to a sink. A file that fails now drops it. -/
def emit (r : Record) : Sink → m Unit
  | .console _ => Host.printError r.consoleLine
  | .file path => do
    let _ ← Host.append path (r.fileLine (← Host.stamp))

def log (logging : Logging) (r : Record) : m Unit :=
  if logging.sinks.isEmpty then
    if takes logging.threshold r then Host.printError (r.message ++ ['\n']) else pure ()
  else (logging.sinksFor r).forM (emit r)

def logAll (logging : Logging) (records : List Record) : m Unit :=
  records.forM logging.log

/-- Says where the log file is. -/
def configuredRecord (file : FilePath) : Record :=
  { logger := "root", level := .info
    message := "Logging configured. Log file: ".toList ++ file.toText }

/-- Adds the sinks that the settings ask for: the console, and the log file after the
directories above it have been made. A log file takes everything, and so the console alone
keeps to the level. -/
def setUp (logging : Logging) (settings : LogSettings) : m (Except FileError Logging) := do
  let console : Sink := .console settings.level
  match settings.file with
  | none => return .ok { threshold := settings.level, sinks := logging.sinks ++ [console] }
  | some path =>
    match ← Host.ensureDirectories path.parent.names.length path.parent with
    | .error e => return .error e
    | .ok () =>
      match ← Host.absolute path with
      | .error e => return .error e
      | .ok shown =>
        let file := shown.normalised
        match ← Host.append file [] with
        | .error e => return .error e
        | .ok () =>
          let logging : Logging :=
            { threshold := .debug, sinks := logging.sinks ++ [console, .file file] }
          logging.log (configuredRecord shown)
          return .ok logging

end Logging
end LuaMarkup
