import LuaMarkup.Host.Terminal

/-!
A host held in memory: a tree of files, and what has been written to the streams.
-/

namespace LuaMarkup

/-- The names from the root to a place. -/
abbrev Location : Type := List Text

inductive FileTree.Entry where
  | directory
  | file (content : List UInt8)
deriving DecidableEq, Repr

/-- The places of a tree other than its root, and what is there. -/
structure FileTree where
  entries : List (Location × FileTree.Entry) := []
deriving DecidableEq, Repr

namespace FileTree

def entry? (tree : FileTree) : Location → Option Entry
  | [] => some .directory
  | place => (tree.entries.find? (·.1 == place)).map (·.2)

/-- The tree with an entry at a place. What was there before gives way, and the order of the
entries stays. -/
def insert (tree : FileTree) (place : Location) (entry : Entry) : FileTree :=
  if tree.entries.any (·.1 == place) then
    ⟨tree.entries.map fun e => if e.1 = place then (place, entry) else e⟩
  else ⟨tree.entries ++ [(place, entry)]⟩

def maxName : Nat := 255

def maxPath : Nat := 4095

/-- The place where names lead from another place. All on the way must be directories, but
nothing need be at the end of it. -/
def follow (tree : FileTree) : Location → List Text → Except Refusal Location
  | place, [] => .ok place
  | place, name :: names =>
    match tree.entry? place with
    | none => .error .noSuchFile
    | some (.file _) => .error .notADirectory
    | some .directory =>
      if name = FilePath.above then follow tree place.dropLast names
      else if maxName < (Text.toBytes name).length then .error .nameTooLong
      else follow tree (place ++ [name]) names

/-- The place of a path that starts from a directory. -/
def locate (tree : FileTree) (directory : Location) (path : FilePath) :
    Except FileError Location :=
  let text := path.toText
  if '\x00' ∈ text then .error .zeroInPath
  else if maxPath < (Text.toBytes text).length then .error (.refused .nameTooLong path)
  else
    (tree.follow (if path.isAbsolute then [] else directory) path.names).mapError
      (.refused · path)

end FileTree

structure Memory where
  files : FileTree := {}
  /-- Where paths that are not absolute start. -/
  workDirectory : Location := []
  input : List UInt8 := []
  output : Text := []
  errors : Text := []
  stamp : Stamp
  seed : Nat := 0
deriving DecidableEq, Repr

namespace Memory

def read (memory : Memory) (path : FilePath) : Except FileError (List UInt8) := do
  let place ← memory.files.locate memory.workDirectory path
  match memory.files.entry? place with
  | some (.file content) => .ok content
  | some .directory => .error (.refused .isADirectory path)
  | none => .error (.refused .noSuchFile path)

/-- Changes the content of a file. A file that is not there comes to be, with nothing in it to
start from. -/
def change (memory : Memory) (path : FilePath) (f : List UInt8 → List UInt8) :
    Except FileError Memory := do
  let place ← memory.files.locate memory.workDirectory path
  match memory.files.entry? place with
  | some (.file content) =>
    .ok { memory with files := memory.files.insert place (.file (f content)) }
  | none => .ok { memory with files := memory.files.insert place (.file (f [])) }
  | some .directory => .error (.refused .isADirectory path)

def makeDirectory (memory : Memory) (path : FilePath) : Except FileError Memory := do
  let place ← memory.files.locate memory.workDirectory path
  match memory.files.entry? place with
  | some _ => .error (.refused .fileExists path)
  | none => .ok { memory with files := memory.files.insert place .directory }

def isDirectory (memory : Memory) (path : FilePath) : Bool :=
  match memory.files.locate memory.workDirectory path with
  | .ok place => memory.files.entry? place == some .directory
  | .error _ => false

/-- An action that leaves the memory as it is where it fails. -/
def act (f : Memory → Except FileError Memory) : StateM Memory (Except FileError Unit) :=
  fun memory =>
    match f memory with
    | .ok memory => (.ok (), memory)
    | .error e => (.error e, memory)

/-- Puts a text in the place of what a file holds. Nothing is touched where it is refused. -/
def write (path : FilePath) (text : Text) : StateM Memory (Except (Broken FileError) Unit) := do
  let written ← act (·.change path fun _ => Text.toBytes text)
  return written.mapError fun cause => { cause, begun := false }

/-- The memory with more printed on the stream for errors. -/
def saying (said : Text) (memory : Memory) : Memory :=
  { memory with errors := memory.errors ++ said }

def report (message : Text) : StateM Memory (Except ReportError Unit) :=
  match Terminal.layout message with
  | .ok text => fun memory => (.ok (), memory.saying text)
  | .error e => return .error e

instance : Host (StateM Memory) where
  ask
    | .workDirectory => fun memory =>
      (.ok { root := .slash, names := memory.workDirectory }, memory)
    | .read path => fun memory => (memory.read path, memory)
    | .write path text => write path text
    | .append path text => act (·.change path fun content => content ++ Text.toBytes text)
    | .makeDirectory path => act (·.makeDirectory path)
    | .isDirectory path => fun memory => (memory.isDirectory path, memory)
    | .input => fun memory => (Terminal.decode memory.input, memory)
    | .print text => fun memory => (.ok (), { memory with output := memory.output ++ text })
    | .printError text => fun memory => ((), memory.saying text)
    | .report message => report message
    | .stamp => fun memory => (memory.stamp, memory)
    | .seed => fun memory => (memory.seed, memory)

end Memory
end LuaMarkup
