import LuaMarkup.Html.Document
import LuaMarkup.Html.Library
import LuaMarkup.Html.Printer
import LuaMarkup.Selector.Matching
import LuaMarkup.Selector.Reader

/-!
A library for pages in the syntax of the web. Text and attribute values are escaped, the text of
raw text elements is not, and void elements print neither content nor end tag.
-/

namespace LuaMarkup.Html

/-- The elements whose text is printed as it is. -/
def rawTextNames : List String :=
  ["style", "script", "xmp", "iframe", "noembed", "noframes", "plaintext"]

def voidNames : List String :=
  ["area", "base", "basefont", "bgsound", "br", "col", "embed", "frame", "hr", "img", "input",
    "keygen", "link", "meta", "param", "source", "track", "wbr"]

def Tag.isVoid (tag : Tag) : Bool :=
  tag.space == .html && voidNames.contains tag.name

def escapeText (content : Text) : Text :=
  content.flatMap fun c =>
    if c = '&' then "&amp;".toList
    else if c = '<' then "&lt;".toList
    else if c = '>' then "&gt;".toList
    else if c = '\u00a0' then "&nbsp;".toList
    else [c]

def escapeValue (value : Text) : Text :=
  (escapeText value).flatMap fun c => if c = '"' then "&quot;".toList else [c]

/-- An attribute without a value is printed with an empty one. -/
def Attribute.print (a : Attribute) : Text :=
  ' ' :: a.name.toList ++ "=\"".toList ++ escapeValue (a.value.getD []) ++ ['"']

namespace Standard

def holdsRawText (parent : Option Tag) : Bool :=
  (parent.map fun tag => rawTextNames.contains tag.name).getD false

def leaf (parent : Option Tag) : Node → Text
  | .text content => if holdsRawText parent then content else escapeText content
  | .comment content => "<!--".toList ++ content ++ "-->".toList
  | .instruction target content =>
    "<?".toList ++ target ++ [' '] ++ content ++ "?>".toList
  | .doctype name => "<!DOCTYPE ".toList ++ name.toList ++ ['>']
  | .element .. | .template .. => []

def printer : Printer where
  startTag tag attributes := '<' :: tag.name.toList ++ attributes.flatMap Attribute.print
  shows tag := !tag.isVoid
  endTag tag := if tag.isVoid then [] else "</".toList ++ tag.name.toList ++ ['>']
  leaf := leaf

/-- The children of a node as markup. -/
def printInner (node : Node) : Text :=
  match node with
  | .element tag _ children => printer.printAll (some tag) children
  | _ => []

end Standard

def standard : Library where
  parse := Document.parse
  select? document selector := (Selector.parse? selector).map (·.select document)
  text? node := some node.textContent
  body? := Document.bodyPath?
  print? document := some (Standard.printer.printAll none document.nodes)
  printInner? document path := (Node.at? document.nodes path).map Standard.printInner

end LuaMarkup.Html
