import LuaMarkup.FilePath
import LuaMarkup.Log.Record
import LuaMarkup.Page.Highlight

/-!
The settings, and what can be wrong with a value given for one of them.
-/

namespace LuaMarkup

structure HighlightSettings where
  /-- The class of the elements that are highlighted. -/
  cssClass : Text := Page.defaultClass.toList
  /-- Whether each match is logged. -/
  trace : Bool := false
deriving DecidableEq, Repr

structure LogSettings where
  level : Log.Level := .info
  file : Option FilePath := none
deriving DecidableEq, Repr

structure Settings where
  highlight : HighlightSettings := {}
  log : LogSettings := {}
deriving DecidableEq, Repr

namespace Settings

/-- The parts of the settings that variables address. -/
inductive Part where
  | highlight
  | log
deriving DecidableEq, Repr

def Part.name : Part → String
  | .highlight => "highlight"
  | .log => "log"

/-- What a part is called where a value of another shape is refused. -/
def Part.title : Part → String
  | .highlight => "HighlightConfig"
  | .log => "LoggingConfig"

inductive Fault where
  | notText
  | notFlag
  | unknownFlag
  | notPath
  | notObject (part : Part)
  | notOneWord
  | unknownLevel
deriving DecidableEq, Repr

def Fault.message : Fault → String
  | .notText => "Input should be a valid string"
  | .notFlag => "Input should be a valid boolean"
  | .unknownFlag => "Input should be a valid boolean, unable to interpret input"
  | .notPath => "Input is not a valid path for <class 'pathlib.Path'>"
  | .notObject part => s!"Input should be a valid dictionary or instance of {part.title}"
  | .notOneWord => "Value error, HIGHLIGHT__CSS_CLASS must be a single class name"
  | .unknownLevel =>
    "Value error, LOG__LEVEL must be one of " ++
      String.intercalate ", " (Log.Level.all.map (·.name))

/-- A fault and where it lies, the outer name first. -/
structure Invalid where
  location : List String
  fault : Fault
deriving DecidableEq, Repr

/-- A value, or all that is wrong with what it was to be read from. -/
abbrev Checked (α : Type) : Type := Except (List Invalid) α

namespace Checked

/-- Both values. The faults of the two come in order. -/
def both {α β : Type} : Checked α → Checked β → Checked (α × β)
  | .ok a, .ok b => .ok (a, b)
  | .ok _, .error e => .error e
  | .error e, .ok _ => .error e
  | .error e, .error e' => .error (e ++ e')

/-- The faults moved under a name. -/
def under {α : Type} (name : String) : Checked α → Checked α
  | .ok a => .ok a
  | .error faults => .error (faults.map fun i => { i with location := name :: i.location })

end Checked
end Settings
end LuaMarkup
