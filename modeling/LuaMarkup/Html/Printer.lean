import LuaMarkup.Html.Node

/-!
Trees as markup. A tree is printed as its parts one behind the other; a printer says what is
printed for each part by itself.
-/

namespace LuaMarkup.Html

structure Printer where
  /-- A start tag up to the angle that ends it. -/
  startTag : Tag → List Attribute → Text
  /-- Whether the children of an element are printed. -/
  shows : Tag → Bool
  /-- What is printed behind the children. -/
  endTag : Tag → Text
  /-- A node that is no element, in an element of that tag if it is in one. -/
  leaf : (parent : Option Tag) → Node → Text

namespace Printer

variable (printer : Printer)

mutual
/-- A node as markup. A template has its content printed in the place of its children. -/
def print (parent : Option Tag) : Node → Text
  | .element tag attributes children =>
    printer.startTag tag attributes ++ '>' ::
      ((if printer.shows tag then printAll (some tag) children else []) ++ printer.endTag tag)
  | .template attributes content =>
    printer.startTag .template attributes ++ '>' ::
      (printAll (some .template) content ++ printer.endTag .template)
  | node => printer.leaf parent node

def printAll (parent : Option Tag) : List Node → Text
  | [] => []
  | node :: rest => print parent node ++ printAll parent rest
end

end Printer
end LuaMarkup.Html
