import LuaMarkup.Text.Basic

/-!
File paths. A path is a root and the names that follow it. Empty names and `.` say nothing and
are dropped when a path is read; `..` is kept, since what it leads to depends on the files.
-/

namespace LuaMarkup

/-- Where a path starts. Two slashes are a root of their own, more of them are one. -/
inductive FilePath.Root where
  | relative
  | slash
  | twoSlashes
deriving DecidableEq, Repr

structure FilePath where
  root : FilePath.Root
  names : List Text
deriving DecidableEq, Repr

namespace FilePath

def Root.ofText : Text → Root
  | '/' :: '/' :: '/' :: _ => .slash
  | '/' :: '/' :: _ => .twoSlashes
  | '/' :: _ => .slash
  | _ => .relative

def Root.toText : Root → Text
  | .relative => []
  | .slash => ['/']
  | .twoSlashes => ['/', '/']

/-- The parts between the slashes of a text. -/
def split : Text → List Text
  | [] => [[]]
  | c :: rest =>
    if c = '/' then [] :: split rest
    else
      match split rest with
      | part :: parts => (c :: part) :: parts
      | [] => [[c]]

/-- The name that leads to the directory above. -/
def above : Text := ['.', '.']

/-- Whether a part of a path is a name that it goes through. -/
def isName (part : Text) : Bool := part != [] && part != ['.']

def ofText (text : Text) : FilePath :=
  { root := .ofText text, names := (split text).filter isName }

def toText (path : FilePath) : Text :=
  if path.root = .relative ∧ path.names = [] then ['.']
  else path.root.toText ++ List.intercalate ['/'] path.names

/-- The path without its last name. A path without names is its own parent. -/
def parent (path : FilePath) : FilePath :=
  { path with names := path.names.dropLast }

def isAbsolute (path : FilePath) : Bool := path.root != .relative

/-- The path as seen from a directory. -/
def absolute (path directory : FilePath) : FilePath :=
  if path.isAbsolute then path else { directory with names := directory.names ++ path.names }

/-- Names with each `..` taken together with the name before it, as if no name were a link.
Above the root there is only the root. -/
def foldParents (names : List Text) : List Text :=
  names.foldl (fun done name => if name = above then done.dropLast else done ++ [name]) []

/-- An absolute path without `..`. -/
def normalised (path : FilePath) : FilePath :=
  { path with names := foldParents path.names }

end FilePath
end LuaMarkup
