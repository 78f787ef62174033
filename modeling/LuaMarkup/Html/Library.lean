import LuaMarkup.Html.Printer

/-!
What is asked of a library for pages: to read a page into a tree, to find elements and their text
in it, and to print it. The trees are plain data, and so is what is changed in them. What is relied
on is `Library.Lawful`, and `Library.ShowsBody` for the whole of a page.
-/

namespace LuaMarkup.Html

structure Library where
  parse : (page : Text) → Document
  /-- The elements that match a selector, if the text is one. -/
  select? : Document → (selector : Text) → Option (List Node.Path)
  /-- The text in a node. -/
  text? : Node → Option Text
  /-- Where the body of a page is. -/
  body? : Document → Option Node.Path
  /-- A page as markup. -/
  print? : Document → Option Text
  /-- What the node at a path holds, as markup. -/
  printInner? : Document → Node.Path → Option Text

/-- A library whose pages are trees of text that are printed part by part. -/
structure Library.Lawful (lib : Library) (printer : Printer) : Prop where
  /-- The text in a node is what its text nodes hold, in document order. -/
  text_eq : ∀ node, (lib.text? node).getD [] = node.textContent
  /-- The parts of a page are printed one behind the other. -/
  print_eq : ∀ document, lib.print? document = some (printer.printAll none document.nodes)
  /-- What an element holds is printed as it is in the page. -/
  printInner_eq : ∀ {document path tag attributes children},
    Node.at? document.nodes path = some (.element tag attributes children) →
      lib.printInner? document path = some (printer.printAll (some tag) children)
  /-- ASCII letters and digits are printed as they are, wherever they stand. -/
  leaf_eq : ∀ parent content, (∀ c ∈ content, c.isAlphanum) →
    printer.leaf parent (.text content) = content
  /-- The body is an element of the page. -/
  body_element : ∀ {document path}, lib.body? document = some path →
    ∃ tag attributes children,
      Node.at? document.nodes path = some (.element tag attributes children)
  /-- The body stays what it is when a node is given a text to hold and other attributes. It is
  lost with what the node held before. -/
  body_modifyAt : ∀ document content f, ∀ path ≠ [],
    lib.body? (document.modifyAt
        (fun node => (node.withChildren [.text content]).mapAttributes f) path) =
      (lib.body? document).filter fun body => !Node.Path.isAbove path body

/-- The body and the elements around it print their children. -/
def Library.ShowsBody (lib : Library) (printer : Printer) : Prop :=
  ∀ {document body above tag attributes children}, lib.body? document = some body →
    above <+: body → Node.at? document.nodes above = some (.element tag attributes children) →
      printer.shows tag

end LuaMarkup.Html
