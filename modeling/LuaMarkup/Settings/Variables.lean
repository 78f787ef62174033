import LuaMarkup.Settings.EnvFile
import LuaMarkup.Settings.Value

/-!
Settings from variables. `PART` holds a JSON object for a part of the settings, and `PART__NAME`
a text for one member of it; `PART__NAME__NAME` goes deeper. Names are read in any case.
-/

namespace LuaMarkup.Settings

/-- The pieces of a name between double underscores. -/
def splitName : Text → List Text
  | '_' :: '_' :: rest => [] :: splitName rest
  | c :: rest =>
    match splitName rest with
    | piece :: pieces => (c :: piece) :: pieces
    | [] => [[c]]
  | [] => [[]]

def member? (members : List (Text × Json)) (name : Text) : Option Json :=
  (members.find? (·.1 == name)).map (·.2)

/-- Members with a value at the end of a path of names. Nothing is placed below a value that has
no members. -/
def place (value : Json) : (path : List Text) → List (Text × Json) → List (Text × Json)
  | [], members => members
  | [name], members => Json.insert members name value
  | name :: path, members =>
    match member? members name with
    | none => Json.insert members name (.object (place value path []))
    | some (.object inner) => Json.insert members name (.object (place value path inner))
    | some _ => members

mutual
/-- A new value over an old one. Only objects are taken together. -/
def overlayValue : Option Json → Json → Json
  | some (.object old), .object new => .object (overlay old new)
  | _, new => new

/-- Members with other members laid over them. -/
def overlay (members : List (Text × Json)) : List (Text × Json) → List (Text × Json)
  | [] => members
  | (name, value) :: rest =>
    overlay (Json.insert members name (overlayValue (member? members name) value)) rest
end

/-- Members under the names that the settings have for them. -/
def rename (members : List (Text × Json)) : List (Text × Json) :=
  members.foldl (fun done (name, value) =>
    let lower := Text.lowerAscii name
    let known := ["css_class", "trace", "level", "file"].any (·.toList == lower)
    Json.insert done (if known then lower else name) value) []

/-- Variables under names in lower case, each name once, with its last value. -/
def fold (vars : List Variable) : List (Text × Json) :=
  vars.foldl (fun done v =>
    Json.insert done (Text.lowerAscii v.name) ((v.value.map Json.string).getD .null)) []

def nested (vars : List (Text × Json)) (part : Part) : List (Text × Json) :=
  vars.foldl (fun members (name, value) =>
    match Text.after? (part.name.toList ++ ['_', '_']) name with
    | some rest => place value (splitName rest) members
    | none => members) []

/-- Where variables come from. -/
inductive Source where
  | environment
  | file
deriving DecidableEq, Repr

def Source.name : Source → String
  | .environment => "EnvSettingsSource"
  | .file => "DotEnvSettingsSource"

/-- A variable for a whole part that holds no JSON value. -/
structure Unreadable where
  part : Part
  source : Source
deriving DecidableEq, Repr

def Unreadable.message (e : Unreadable) : String :=
  s!"error parsing value for field \"{e.part.name}\" from source \"{e.source.name}\""

/-- What variables say about a part of the settings. JSON null says nothing, not even through
the variables for single members. -/
def ofVariables (source : Source) (vars : List (Text × Json)) (part : Part) :
    Except Unreadable (Option Json) :=
  let members := nested vars part
  match member? vars part.name.toList with
  | some (.string text) =>
    match Json.parse? text with
    | none => .error { part, source }
    | some .null => .ok none
    | some (.object whole) => .ok (some (.object (rename (overlay whole members))))
    | some value => .ok (some value)
  | _ => .ok (if members.isEmpty then none else some (.object (rename members)))

/-- One value laid over another where both are there. -/
def overlay? : (base upper : Option Json) → Option Json
  | base, none => base
  | base, some upper => some (overlayValue base upper)

end LuaMarkup.Settings
