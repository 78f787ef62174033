import LuaMarkup.Html.Scaffold
import LuaMarkup.Html.Vocabulary

/-!
A page while it is being read: the tree so far, the elements that are still open, and the
formatting elements that are to be opened again.
-/

namespace LuaMarkup.Html

structure OpenElement where
  id : Nat
  tag : Tag
deriving DecidableEq, Repr

/-- A formatting element that no end tag has closed, or the edge of an element that keeps
formatting inside. -/
inductive Formatting where
  | edge
  | element (id : Nat) (name : String)
deriving DecidableEq, Repr

/-- What the next token may be and where it goes. -/
inductive Mode where
  | initial
  | beforeHtml
  | beforeHead
  | inHead
  | inHeadNoscript
  | afterHead
  | inBody
  | inText
  | inTable
  | inTableText
  | inCaption
  | inColumnGroup
  | inTableBody
  | inRow
  | inCell
  | inTemplate
  | afterBody
  | inFrameset
  | afterFrameset
  | afterAfterBody
  | afterAfterFrameset
deriving DecidableEq, Repr

structure Reading where
  mode : Mode := .initial
  /-- The mode to go back to after text. -/
  returnMode : Mode := .inBody
  textMode : TextMode := .markup false
  tree : Scaffold := {}
  /-- The open elements, the innermost first and `html` last. -/
  opened : List OpenElement := []
  /-- The formatting elements, the last one first. -/
  formatting : List Formatting := []
  /-- The modes of the open templates, the innermost first. -/
  templateModes : List Mode := []
  head : Option Nat := none
  form : Option Nat := none
  /-- A frameset may still take the place of the body. -/
  framesetAllowed : Bool := true
  /-- What has no place in a table goes before it. -/
  fostering : Bool := false
  /-- Text in a table that has no place yet. -/
  tableText : Text := []
  /-- The text that follows loses a line feed at its start. -/
  dropLineFeed : Bool := false
  old : Bool := false

namespace Reading

def currentIsOneOf (r : Reading) (names : List String) : Bool :=
  match r.opened with
  | e :: _ => e.tag.isHtmlOneOf names
  | [] => false

/-! Places -/

/-- The place before the table that is open, for what has none in it. -/
def fosterPlace : List OpenElement → Scaffold → Scaffold.Place
  | [], _ => ⟨0, none⟩
  | [e], _ => ⟨e.id, none⟩
  | e :: above :: rest, tree =>
    if e.tag.isHtml "template" then ⟨e.id, none⟩
    else if e.tag.isHtml "table" then
      match tree.parentOf e.id with
      | some parent => ⟨parent, some e.id⟩
      | none => ⟨above.id, none⟩
    else fosterPlace (above :: rest) tree

/-- The place for a node that belongs into an element. -/
def placeIn (r : Reading) (e : OpenElement) : Scaffold.Place :=
  if r.fostering && e.tag.isHtmlOneOf ["table", "tbody", "tfoot", "thead", "tr"] then
    fosterPlace r.opened r.tree
  else ⟨e.id, none⟩

/-- The place for the next node. -/
def nextPlace (r : Reading) : Scaffold.Place :=
  match r.opened with
  | e :: _ => r.placeIn e
  | [] => ⟨0, none⟩

def insertAt (r : Reading) (kind : Scaffold.Kind) (place : Scaffold.Place) : Reading :=
  { r with tree := r.tree.add kind place }

def insert (r : Reading) (kind : Scaffold.Kind) : Reading :=
  let place := r.nextPlace
  r.insertAt kind place

/-- Text in the current element. The page itself has none. -/
def insertText (r : Reading) (content : Text) : Reading :=
  if content.isEmpty then r
  else
    let place := r.nextPlace
    if place.parent = 0 then r else { r with tree := r.tree.addText content place }

/-- Opens an element inside of the current one. -/
def openElement (r : Reading) (tag : Tag) (attributes : List Attribute) : Reading :=
  let opened := ⟨r.tree.next, tag⟩ :: r.opened
  { r.insert (.element tag attributes) with opened }

def openHtml (r : Reading) (name : String) (attributes : List Attribute) : Reading :=
  r.openElement ⟨.html, name⟩ attributes

/-- An element without content. -/
def insertVoid (r : Reading) (name : String) (attributes : List Attribute) : Reading :=
  r.insert (.element ⟨.html, name⟩ attributes)

/-- Closes the current element. -/
def close (r : Reading) : Reading :=
  { r with opened := r.opened.drop 1 }

/-- Closes elements until `stop` holds of the current one. -/
def closeUntil (r : Reading) (stop : OpenElement → Bool) : Reading :=
  { r with opened := r.opened.dropWhile (!stop ·) }

/-- Closes elements up to and including the innermost one of which `last` holds. -/
def closeThrough (r : Reading) (last : OpenElement → Bool) : Reading :=
  (r.closeUntil last).close

def closeThroughName (r : Reading) (name : String) : Reading :=
  r.closeThrough (·.tag.isHtml name)

def closeThroughOneOf (r : Reading) (names : List String) : Reading :=
  r.closeThrough (·.tag.isHtmlOneOf names)

/-- An element is no longer open, while those in it may be. -/
def forget (r : Reading) (id : Nat) : Reading :=
  { r with opened := r.opened.filter (·.id != id) }

/-! Scopes -/

/-- Whether an open element has one of the names, with none before it that ends the search. -/
def hasWithin (r : Reading) (ends : Tag → Bool) (names : List String) : Bool :=
  match r.opened.find? fun e => e.tag.isHtmlOneOf names || ends e.tag with
  | some e => e.tag.isHtmlOneOf names
  | none => false

def inScope (r : Reading) (names : List String) : Bool :=
  r.hasWithin Tag.endsScope names

/-- Whether that very element is in scope. -/
def isInScope (r : Reading) (id : Nat) : Bool :=
  match r.opened.find? fun e => e.id == id || e.tag.endsScope with
  | some e => e.id == id
  | none => false

def inListScope (r : Reading) (name : String) : Bool :=
  r.hasWithin (fun tag => tag.endsScope || tag.isHtmlOneOf ["ol", "ul"]) [name]

def inButtonScope (r : Reading) (name : String) : Bool :=
  r.hasWithin (fun tag => tag.endsScope || tag.isHtml "button") [name]

def inTableScope (r : Reading) (names : List String) : Bool :=
  r.hasWithin (·.isHtmlOneOf ["html", "table", "template"]) names

def hasTemplate (r : Reading) : Bool :=
  r.opened.any (·.tag.isHtml "template")

/-- Closes elements whose end tags may be left out, but for those named `except`. -/
def closeImplied (r : Reading) (except : List String) : Reading :=
  r.closeUntil fun e =>
    !e.tag.isHtmlOneOf impliedEndNames || e.tag.isHtmlOneOf except

def closeParagraph (r : Reading) : Reading :=
  if r.inButtonScope "p" then (r.closeImplied ["p"]).closeThroughName "p" else r

/-! Formatting -/

def isOpen (r : Reading) (id : Nat) : Bool :=
  r.opened.any (·.id == id)

/-- Whether an entry needs no opening, nor does any entry before it. -/
def settles (r : Reading) : Formatting → Bool
  | .edge => true
  | .element id _ => r.isOpen id

/-- Opens an element for an entry again and puts the entry of the new element on the list. -/
def reopen (r : Reading) : Formatting → Reading
  | .edge => r
  | .element id name =>
    let attributes := r.tree.attributesOf id
    let formatting := .element r.tree.next name :: r.formatting
    { r.openHtml name attributes with formatting }

/-- Opens the formatting elements again that were closed with the block around them. -/
def reopenFormatting (r : Reading) : Reading :=
  let closed := r.formatting.takeWhile (!r.settles ·)
  closed.reverse.foldl reopen { r with formatting := r.formatting.drop closed.length }

def sameFormatting (tree : Scaffold) (name : String) (attributes : List Attribute) :
    Formatting → Bool
  | .edge => false
  | .element id other =>
    let found := tree.attributesOf id
    other == name && found.length == attributes.length && attributes.all found.contains

/-- The list without the earliest of three entries alike after the last edge. -/
def dropThird (isAlike : Formatting → Bool) : (alike : Nat) → List Formatting → List Formatting
  | _, [] => []
  | _, .edge :: rest => .edge :: rest
  | alike, entry :: rest =>
    if isAlike entry then
      if alike = 2 then rest else entry :: dropThird isAlike (alike + 1) rest
    else entry :: dropThird isAlike alike rest

/-- Opens a formatting element. -/
def openFormatting (r : Reading) (name : String) (attributes : List Attribute) : Reading :=
  let earlier := dropThird (sameFormatting r.tree name attributes) 0 r.formatting
  let formatting := .element r.tree.next name :: earlier
  { r.openHtml name attributes with formatting }

def addEdge (r : Reading) : Reading :=
  { r with formatting := .edge :: r.formatting }

def clearToEdge (r : Reading) : Reading :=
  { r with formatting := (r.formatting.dropWhile (· ≠ .edge)).drop 1 }

def Formatting.isOf (id : Nat) : Formatting → Bool
  | .element other _ => other == id
  | .edge => false

/-- The entry of that name after the last edge. -/
def formattingEntry? (r : Reading) (name : String) : Option Nat :=
  (r.formatting.takeWhile (· ≠ .edge)).findSome? fun entry =>
    match entry with
    | .element id other => if other = name then some id else none
    | .edge => none

def dropEntry (r : Reading) (id : Nat) : Reading :=
  { r with formatting := r.formatting.filter (!Formatting.isOf id ·) }

/-- Any end tag without rules of its own: closes the innermost element of the name, unless a
special element lies in between. -/
def closeOther (r : Reading) (name : String) : Reading :=
  match r.opened.find? fun e => e.tag.isHtml name || e.tag.isSpecial with
  | some e =>
    if e.tag.isHtml name then (r.closeImplied [name]).closeThrough (·.id == e.id) else r
  | none => r

/-- What becomes of the elements between a formatting element and the block in it. -/
structure Regrouping where
  tree : Scaffold
  formatting : List Formatting
  /-- The element that goes into the next one outwards. -/
  last : Nat
  /-- The new elements between the two, the innermost first. -/
  between : List OpenElement := []
  /-- The entry before which, on the list, the new formatting element goes. -/
  mark : Option Nat := none

/-- One of the elements between, the `count`th outwards from the block. -/
def Regrouping.step (block : Nat) (g : Regrouping) (count : Nat) (e : OpenElement) :
    Regrouping :=
  let listed := g.formatting.any (Formatting.isOf e.id)
  if 3 < count ∨ !listed then
    { g with formatting := g.formatting.filter (!Formatting.isOf e.id ·) }
  else
    let id := g.tree.next
    let tree := g.tree.make (.element e.tag (g.tree.attributesOf e.id))
    { tree := tree.move g.last ⟨id, none⟩
      formatting := g.formatting.map fun entry =>
        if Formatting.isOf e.id entry then .element id e.tag.name else entry
      last := id
      between := g.between ++ [⟨id, e.tag⟩]
      mark := if g.last = block then some id else g.mark }

/-- The entry of a new element in its place on the list, without that of the element that it
stands for. -/
def replaceEntry (formatting : List Formatting) (before : Option Nat) (stale : Nat)
    (entry : Formatting) : List Formatting :=
  match before with
  | none => formatting.map fun e => if Formatting.isOf stale e then entry else e
  | some id =>
    (formatting.filter (!Formatting.isOf stale ·)).flatMap fun e =>
      if Formatting.isOf id e then [entry, e] else [e]

/-- Closes a formatting element around a block that stays open: the block moves out of it, and
what is in the block gets a formatting element of its own. `inner` are the elements in the
block, `between` those around it up to the formatting element, and `outer` those around that. -/
def regroup (r : Reading) (id : Nat) (name : String) (inner : List OpenElement)
    (block : OpenElement) (between outer : List OpenElement) : Reading :=
  let start : Regrouping := { tree := r.tree, formatting := r.formatting, last := block.id }
  let g := between.zipIdx.foldl (fun g (e, index) => g.step block.id (index + 1) e) start
  let place :=
    match outer with
    | above :: _ => { r with tree := g.tree }.placeIn above
    | [] => ⟨0, none⟩
  let tree := g.tree.move g.last place
  let new := tree.next
  let tree := (tree.make (.element ⟨.html, name⟩ (r.tree.attributesOf id))).moveChildren
    block.id new
  { r with
    tree := tree.attach new ⟨block.id, none⟩
    formatting := replaceEntry g.formatting g.mark id (.element new name)
    opened := inner ++ [⟨new, ⟨.html, name⟩⟩, block] ++ g.between ++ outer }

/-- The last element of a list of which a condition holds, with what is before and after it. -/
def splitLast? (p : OpenElement → Bool) (elements : List OpenElement) :
    Option (List OpenElement × OpenElement × List OpenElement) :=
  let after := elements.reverse.takeWhile (!p ·)
  match elements.reverse.drop after.length with
  | e :: before => some (before.reverse, e, after.reverse)
  | [] => none

/-- The end tag of a formatting element, which may close several around blocks. -/
def closeFormattingWith (name : String) : (rounds : Nat) → Reading → Reading
  | 0, r => r
  | rounds + 1, r =>
    match r.formattingEntry? name with
    | none => r.closeOther name
    | some id =>
      if !r.isOpen id then r.dropEntry id
      else if !r.isInScope id then r
      else
        let inside := r.opened.takeWhile (·.id != id)
        match splitLast? (·.tag.isSpecial) inside with
        | none => (r.closeThrough (·.id == id)).dropEntry id
        | some (inner, block, between) =>
          let outer := (r.opened.drop inside.length).drop 1
          closeFormattingWith name rounds (r.regroup id name inner block between outer)

def closeFormatting (r : Reading) (name : String) : Reading :=
  match r.opened with
  | e :: _ =>
    if e.tag.isHtml name && !r.formatting.any (Formatting.isOf e.id) then r.close
    else closeFormattingWith name 8 r
  | [] => r

end Reading
end LuaMarkup.Html
