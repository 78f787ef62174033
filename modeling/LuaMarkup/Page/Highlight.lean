import LuaMarkup.Forest
import LuaMarkup.Highlight
import LuaMarkup.Html.Library
import LuaMarkup.Html.Style
import LuaMarkup.Log.Record
import LuaMarkup.Marker
import LuaMarkup.Page.Extent
import LuaMarkup.Text.Quoted

/-!
Pages with their code elements highlighted. The content of each selected element is replaced by
a marker, the page is printed, and the markers give way to markup, which the printer therefore
does not escape. Pages are read, searched and printed by a library.
-/

namespace LuaMarkup.Page

def defaultClass : String := "language-lua"

inductive Error where
  | badSelector
  | noFreeNonce
  | token (cause : ResolveError)
  | splice (cause : SpliceError)
deriving DecidableEq, Repr

def Error.message : Error → String
  | .badSelector => "Can't parse CSS selector."
  | .noFreeNonce => "no nonce is free on this page"
  | .token cause => cause.message
  | .splice cause => cause.message

/-- What is reported besides the page. -/
structure Report where
  log : List Log.Record
  trace : List Match
  /-- How many nonces were drawn. -/
  draws : Nat
deriving DecidableEq, Repr

def Report.empty : Report := { log := [], trace := [], draws := 0 }

/-- A page in which some elements have been marked. -/
structure Marking where
  nodes : List Html.Node
  /-- The markup of each marked element, at the index in its marker. -/
  markups : Array Text
  trace : List Match

namespace Marking

/-- An element with a marker for its content and without white-space styling. -/
def marked (nonce : Text) (index : Nat) (node : Html.Node) : Html.Node :=
  (node.withChildren [.text (Marker.write nonce index)]).mapAttributes
    Html.Style.dropWhiteSpace

/-- Marks the elements in turn. The text of an element is read when its turn comes. -/
def run (lib : Html.Library) (nonce : Text) :
    List Html.Node.Path → Marking → Marking × Option ResolveError
  | [], r => (r, none)
  | path :: paths, r =>
    let source := ((Html.Node.at? r.nodes path).bind lib.text?).getD []
    let trace := r.trace ++ highlightTrace source
    match highlight source with
    | .error cause => ({ r with trace }, some cause)
    | .ok markup =>
      run lib nonce paths
        { nodes := Html.Node.modifyAt (marked nonce r.markups.size) r.nodes path
          markups := r.markups.push markup
          trace }

end Marking

/-- The elements of a selection that do not lie in another one. -/
def targets (selected : List Html.Node.Path) : List Html.Node.Path :=
  outermost Html.Node.Path.isAbove selected

/-- Reports how many elements were highlighted. -/
def countRecord (cssClass : Text) (count : Nat) : Log.Record :=
  { logger := "lualight.page"
    level := .info
    message := "Highlighted ".toList ++ Nat.toDigits 10 count ++
      " element(s) with class ".toList ++ Text.quoted cssClass }

/-- Whether there is nothing on the page. -/
def isBlank (html : Text) : Bool := html.all Text.isBlank

/-- All of a full document, or what the body holds of a fragment that has one. -/
def print? (lib : Html.Library) (full : Bool) (document : Html.Document) : Option Text :=
  match if full then none else lib.body? document with
  | some body => lib.printInner? document body
  | none => lib.print? document

/-- The page with the elements of a class highlighted. A blank page stays as it is, and so does
one that is not printed. -/
def highlight (lib : Html.Library) (cssClass : Text) (nonces : Nat → Text) (html : Text) :
    Report × Except Error Text :=
  if isBlank html then (.empty, .ok html)
  else
    let document := lib.parse html
    match lib.select? document ('.' :: cssClass) with
    | none => (.empty, .error .badSelector)
    | some selected =>
      let paths := targets selected
      match Marker.freeNonce? nonces html with
      | none => (.empty, .error .noFreeNonce)
      | some (nonce, draws) =>
        let (r, failed) :=
          Marking.run lib nonce paths { nodes := document.nodes, markups := #[], trace := [] }
        match failed with
        | some cause => ({ log := [], trace := r.trace, draws }, .error (.token cause))
        | none =>
          let report : Report :=
            { log := [countRecord cssClass paths.length], trace := r.trace, draws }
          match print? lib (isFullDocument html) { document with nodes := r.nodes } with
          | none => (report, .ok html)
          | some printed =>
            match Marker.splice r.markups nonce printed with
            | .ok page => (report, .ok page)
            | .error cause => (report, .error (.splice cause))

/-- The nonces of a supply: hexadecimal numerals of sixteen digits, counted up from `seed`. -/
def nonces (seed draw : Nat) : Text :=
  Text.hex 16 ((seed + draw) % 0x10000000000000000)

end LuaMarkup.Page
