import LuaMarkup.Html.Node

/-!
The tree of a page that is being read. Its nodes have numbers, in the order in which they are
made, and may still be moved. Node 0 is the page itself.
-/

namespace LuaMarkup.Html

namespace Scaffold

/-- What a node is, apart from the nodes in it. -/
inductive Kind where
  | page
  | text (content : Text)
  | comment (content : Text)
  | instruction (target content : Text)
  | doctype (name : String)
  | element (tag : Tag) (attributes : List Attribute)
deriving DecidableEq, Repr

structure Cell where
  kind : Kind
  parent : Option Nat := none
  children : Array Nat := #[]
deriving DecidableEq, Repr

/-- A place for a node: last in its parent, or before one of the nodes there. -/
structure Place where
  parent : Nat
  before : Option Nat := none
deriving DecidableEq, Repr

end Scaffold

structure Scaffold where
  cells : Array Scaffold.Cell := #[{ kind := .page }]
deriving DecidableEq, Repr

namespace Scaffold

/-- The number of the next node that is made. -/
def next (s : Scaffold) : Nat := s.cells.size

def kind? (s : Scaffold) (id : Nat) : Option Kind :=
  s.cells[id]?.map Cell.kind

def attributesOf (s : Scaffold) (id : Nat) : List Attribute :=
  match s.kind? id with
  | some (.element _ attributes) => attributes
  | _ => []

def parentOf (s : Scaffold) (id : Nat) : Option Nat :=
  s.cells[id]?.bind Cell.parent

def childrenOf (s : Scaffold) (id : Nat) : Array Nat :=
  (s.cells[id]?.map Cell.children).getD #[]

def modify (s : Scaffold) (id : Nat) (f : Cell → Cell) : Scaffold :=
  ⟨s.cells.modify id f⟩

/-- Makes a node that has no place yet. -/
def make (s : Scaffold) (kind : Kind) : Scaffold :=
  ⟨s.cells.push { kind }⟩

/-- Takes a node out of its place. -/
def detach (s : Scaffold) (id : Nat) : Scaffold :=
  match s.parentOf id with
  | some parent =>
    (s.modify parent fun cell => { cell with children := cell.children.erase id }).modify id
      fun cell => { cell with parent := none }
  | none => s

/-- Puts a node that has no place into one. -/
def attach (s : Scaffold) (id : Nat) (place : Place) : Scaffold :=
  let index := place.before.bind (s.childrenOf place.parent).idxOf?
  let s := s.modify id fun cell => { cell with parent := some place.parent }
  match index with
  | some index =>
    s.modify place.parent fun cell =>
      { cell with
        children := (cell.children.take index).push id ++ cell.children.drop index }
  | none =>
    s.modify place.parent fun cell => { cell with children := cell.children.push id }

def move (s : Scaffold) (id : Nat) (place : Place) : Scaffold :=
  (s.detach id).attach id place

/-- The node before a place. -/
def previous? (s : Scaffold) (place : Place) : Option Nat :=
  let siblings := s.childrenOf place.parent
  match place.before.bind siblings.idxOf? with
  | some index => if index = 0 then none else siblings[index - 1]?
  | none => siblings.back?

/-- Makes a node at a place. -/
def add (s : Scaffold) (kind : Kind) (place : Place) : Scaffold :=
  let id := s.next
  (s.make kind).attach id place

/-- Text at a place. It joins a text before it. -/
def addText (s : Scaffold) (content : Text) (place : Place) : Scaffold :=
  match s.previous? place with
  | some last =>
    match s.kind? last with
    | some (.text _) =>
      s.modify last fun cell =>
        match cell.kind with
        | .text found => { cell with kind := .text (found ++ content) }
        | _ => cell
    | _ => s.add (.text content) place
  | none => s.add (.text content) place

/-- Moves all that is in one node to the end of another. -/
def moveChildren (s : Scaffold) (source target : Nat) : Scaffold :=
  (s.childrenOf source).foldl (fun s id => s.move id ⟨target, none⟩) s

/-- Adds the attributes that an element does not have. -/
def mergeAttributes (s : Scaffold) (id : Nat) (attributes : List Attribute) : Scaffold :=
  s.modify id fun cell =>
    match cell.kind with
    | .element tag found =>
      let fresh := attributes.filter fun a => !found.any (·.name == a.name)
      { cell with kind := .element tag (found ++ fresh) }
    | _ => cell

/-- A node with all that is in it, down to a depth. -/
def node? (s : Scaffold) : (depth : Nat) → Nat → Option Node
  | 0, _ => none
  | depth + 1, id =>
    s.cells[id]?.bind fun cell =>
      match cell.kind with
      | .page => none
      | .text content => some (.text content)
      | .comment content => some (.comment content)
      | .instruction target content => some (.instruction target content)
      | .doctype name => some (.doctype name)
      | .element tag attributes =>
        let inner := cell.children.toList.filterMap (node? s depth)
        some (if tag = ⟨.html, "template"⟩ then .template attributes inner
          else .element tag attributes inner)

/-- The nodes of the page. No node lies deeper than there are nodes. -/
def toNodes (s : Scaffold) : List Node :=
  (s.childrenOf 0).toList.filterMap (s.node? s.cells.size)

end Scaffold
end LuaMarkup.Html
