import LuaMarkup.Html.Document

/-!
Selectors, and the places of elements that they are asked about.
-/

namespace LuaMarkup

inductive AttributeTest where
  | present
  | equal
  /-- One of the words of the value. -/
  | word
  /-- The value up to a hyphen. -/
  | language
  | start
  | ending
  | part
deriving DecidableEq, Repr

/-- Whether the letters of an attribute value count in either case. -/
inductive LetterCase where
  /-- As the attribute has it. -/
  | usual
  | ignored
  | exact
deriving DecidableEq, Repr

/-- What an element is, apart from its name and its place. -/
inductive State where
  | active
  | blank
  | checked
  | disabled
  | empty
  | enabled
  | focus
  | hover
  | link
  | optional
  | placeholderShown
  | readOnly
  | readWrite
  | required
  | root
deriving DecidableEq, Repr

/-- The numbers `step * n + start` for the natural numbers `n`. -/
structure Series where
  step : Int
  start : Int
deriving DecidableEq, Repr

/-- From where siblings are counted. -/
inductive Side where
  | first
  | last
deriving DecidableEq, Repr

/-- How an element stands to the one on its left in a selector. -/
inductive Combinator where
  | descendant
  | child
  | next
  | later
  /-- A cell of a table to its column. Columns are no elements around their cells. -/
  | column
deriving DecidableEq, Repr

mutual
inductive Simple where
  | any
  | type (name : String)
  | class (name : Text)
  | id (name : Text)
  | attribute (name : String) (test : AttributeTest) (value : Text) (letters : LetterCase)
  | state (state : State)
  /-- Text that stands directly in the element. -/
  | contains (part : Text) (anyCase : Bool)
  /-- The number of the element among the siblings that match. -/
  | nthChild (side : Side) (series : Series) (among : List Complex)
  /-- The number of the element among the siblings of its type. -/
  | nthOfType (side : Side) (series : Series)
  | is (choices : List Complex)
  | not (choices : List Complex)
  /-- Elements that stand to this one as one of the chains says, which go from left to right. -/
  | has (chains : List (List Link))

/-- Simple selectors that hold of one element together, and what is asked of the elements
around, from right to left. -/
structure Complex where
  subject : List Simple
  context : List Link

/-- A step from one element to another, and what is asked of that one. -/
structure Link where
  combinator : Combinator
  compound : List Simple
end

/-- Simple selectors that hold of one element together. -/
abbrev Compound := List Simple

/-- A list of selectors, of which an element matches any number. -/
abbrev Selector := List Complex

/-- The selector with more links, from left to right. -/
def Complex.extend (complex : Complex) (links : List Link) : Complex :=
  links.foldl
    (fun c link => ⟨link.compound, ⟨link.combinator, c.subject⟩ :: c.context⟩) complex

def Series.contains (series : Series) (number : Nat) : Bool :=
  let distance := (number : Int) - series.start
  if series.step = 0 then distance = 0
  else distance % series.step = 0 ∧ 0 ≤ distance / series.step

/-- An element among its siblings; those before it are listed from the nearest on. -/
structure Standing where
  node : Html.Node
  before : List Html.Node
  after : List Html.Node

/-- An element and the elements around it, outwards. -/
abbrev Lineage := List Standing

namespace Standing

def tag? : Html.Node → Option Html.Tag
  | .element tag _ _ => some tag
  | .template _ _ => some ⟨.html, "template"⟩
  | _ => none

def isElement (node : Html.Node) : Bool := (tag? node).isSome

/-- The elements that are passed on the way through the siblings on one side of a node. `place`
takes a node, the siblings still to come and those passed, each from the nearest on. -/
def passing (place : Html.Node → List Html.Node → List Html.Node → Standing) (node : Html.Node)
    (passed : List Html.Node) : List Html.Node → List Standing
  | [] => []
  | sibling :: coming =>
    let others := passing place sibling (node :: passed) coming
    if isElement sibling then place sibling coming (node :: passed) :: others else others

/-- The element siblings before an element, from the nearest on. -/
def earlier (s : Standing) : List Standing :=
  passing (fun node before after => ⟨node, before, after⟩) s.node s.after s.before

/-- The element siblings after an element, from the nearest on. -/
def later (s : Standing) : List Standing :=
  passing (fun node after before => ⟨node, before, after⟩) s.node s.before s.after

def onSide (side : Side) (s : Standing) : List Standing :=
  match side with
  | .first => s.earlier
  | .last => s.later

def sameTag (s other : Standing) : Bool := tag? s.node == tag? other.node

end Standing

namespace Lineage

/-- The elements around an element, each with those around itself. -/
def ancestors : Lineage → List Lineage
  | [] => []
  | _ :: [] => []
  | _ :: up => up :: ancestors up

mutual
/-- The elements below one, in document order. -/
def descendantsOf (lineage : Lineage) : Html.Node → List Lineage
  | .element _ _ children => descendantsIn lineage [] children
  | _ => []

def descendantsIn (around : Lineage) (before : List Html.Node) :
    List Html.Node → List Lineage
  | [] => []
  | node :: after =>
    let lineage := ⟨node, before, after⟩ :: around
    let below := descendantsOf lineage node
    (if Standing.isElement node then lineage :: below else below) ++
      descendantsIn around (node :: before) after
end

def childrenIn (around : Lineage) (before : List Html.Node) : List Html.Node → List Lineage
  | [] => []
  | node :: after =>
    let others := childrenIn around (node :: before) after
    if Standing.isElement node then (⟨node, before, after⟩ :: around) :: others else others

def descendants : Lineage → List Lineage
  | s :: up => descendantsOf (s :: up) s.node
  | [] => []

def children : Lineage → List Lineage
  | s :: up => childrenIn (s :: up) [] s.node.children
  | [] => []

/-- The siblings on one side of an element, from the nearest on. -/
def onSide (side : Side) : Lineage → List Lineage
  | s :: up => (s.onSide side).map (· :: up)
  | [] => []

end Lineage

namespace Combinator

/-- The elements to the left of an element at its right. -/
def left (combinator : Combinator) (lineage : Lineage) : List Lineage :=
  match combinator with
  | .descendant => lineage.ancestors
  | .child => lineage.ancestors.take 1
  | .next => (lineage.onSide .first).take 1
  | .later => lineage.onSide .first
  | .column => []

/-- The elements to the right of an element at its left. -/
def right (combinator : Combinator) (lineage : Lineage) : List Lineage :=
  match combinator with
  | .descendant => lineage.descendants
  | .child => lineage.children
  | .next => (lineage.onSide .last).take 1
  | .later => lineage.onSide .last
  | .column => []

end Combinator
end LuaMarkup
