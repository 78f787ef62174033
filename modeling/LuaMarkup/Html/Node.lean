import LuaMarkup.Text.Basic

/-!
The trees that pages are read into.
-/

namespace LuaMarkup.Html

/-- An attribute may be written without a value. -/
structure Attribute where
  name : String
  value : Option Text
deriving DecidableEq, Repr

inductive Namespace where
  | html
  | svg
  | mathml
deriving DecidableEq, Repr

structure Tag where
  space : Namespace
  name : String
deriving DecidableEq, Repr

def Tag.template : Tag := { space := .html, name := "template" }

inductive Node where
  | text (content : Text)
  | comment (content : Text)
  /-- An instruction to whoever processes the page, with the name of what it is for. -/
  | instruction (target content : Text)
  | doctype (name : String)
  | element (tag : Tag) (attributes : List Attribute) (children : List Node)
  /-- A template keeps its content apart: it is printed, and nothing else looks into it. -/
  | template (attributes : List Attribute) (content : List Node)
deriving Repr

/-- The attributes of an element by name. -/
def Attribute.get? (name : String) (attributes : List Attribute) : Option Text :=
  (attributes.find? (·.name == name)).bind (·.value)

/-- Gives a new value to the attribute of that name, in its place. -/
def Attribute.set (name : String) (value : Text) (attributes : List Attribute) :
    List Attribute :=
  attributes.map fun a => if a.name = name then { a with value := some value } else a

def Attribute.erase (name : String) (attributes : List Attribute) : List Attribute :=
  attributes.filter (·.name != name)

namespace Node

def attributes : Node → List Attribute
  | .element _ attributes _ | .template attributes _ => attributes
  | _ => []

def mapAttributes (f : List Attribute → List Attribute) : Node → Node
  | .element tag attributes children => .element tag (f attributes) children
  | .template attributes content => .template (f attributes) content
  | node => node

def children : Node → List Node
  | .element _ _ children => children
  | _ => []

/-- A node with other children. Only elements have them. -/
def withChildren (children : List Node) : Node → Node
  | .element tag attributes _ => .element tag attributes children
  | node => node

mutual
/-- All text below a node in document order. Comments give none. -/
def textContent : Node → Text
  | .text content => content
  | .element _ _ children => textOfAll children
  | _ => []

def textOfAll : List Node → Text
  | [] => []
  | node :: rest => node.textContent ++ textOfAll rest
end

/-- Where a node stands below the top of a tree: the index among its siblings at each level,
from the top down. -/
abbrev Path := List Nat

/-- Whether the node at a path lies below the node at another one. -/
def Path.isAbove (above path : Path) : Bool :=
  above.length < path.length && above.isPrefixOf path

def at? : List Node → Path → Option Node
  | _, [] => none
  | nodes, [index] => nodes[index]?
  | nodes, index :: next :: rest =>
    nodes[index]?.bind fun node => at? node.children (next :: rest)

/-- Changes the node at a path and nothing else. -/
def modifyAt (f : Node → Node) : List Node → Path → List Node
  | nodes, [] => nodes
  | nodes, [index] => nodes.modify index f
  | nodes, index :: next :: rest =>
    nodes.modify index fun node => node.withChildren (modifyAt f node.children (next :: rest))

end Node

structure Document where
  nodes : List Node
  /-- The page is of the old kind, in which class names agree in any ASCII case. -/
  old : Bool
deriving Repr

/-- A page in which a node is changed. -/
def Document.modifyAt (f : Node → Node) (document : Document) (path : Node.Path) : Document :=
  { document with nodes := Node.modifyAt f document.nodes path }

end LuaMarkup.Html
