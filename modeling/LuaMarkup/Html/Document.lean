import LuaMarkup.Html.Placement

/-!
Pages read into trees, and where their body is.
-/

namespace LuaMarkup.Html

namespace Reading

/-- Reads tokens to the end of the text. Every token takes at least one character. -/
def readAll : (fuel : Nat) → Reading → Text → Reading
  | 0, r, _ => r
  | fuel + 1, r, text =>
    match Token.next? r.currentTextMode text with
    | none => r.place .pageEnd
    | some (token, rest) => readAll fuel (r.place token) rest

def toDocument (r : Reading) : Document :=
  { nodes := r.tree.toNodes, old := r.old }

end Reading

namespace Document

/-- Reads a page. -/
def parse (page : Text) : Document :=
  let text := Text.unifyLineEnds page
  (({} : Reading).readAll (text.length + 1) text).toDocument

def isElement (name : String) : Node → Bool
  | .element tag _ _ => tag.isHtml name
  | _ => false

/-- The path of the first body in the first `html` element. -/
def bodyPath? (document : Document) : Option Node.Path := do
  let i ← document.nodes.findIdx? (isElement "html")
  let html ← document.nodes[i]?
  let j ← html.children.findIdx? (isElement "body")
  return [i, j]

end Document
end LuaMarkup.Html
