import LuaMarkup.Html.Placement.Frameset
import LuaMarkup.Html.Placement.Table

/-!
Where the tokens of a page go: the choice between the rules of the modes and those for foreign
elements.
-/

namespace LuaMarkup.Html.Reading

/-! Foreign elements -/

/-- Whether markup in a foreign element is read as outside of it. -/
def holdsMarkup (tree : Scaffold) (e : OpenElement) : Bool :=
  match e.tag.space with
  | .html => false
  | .svg => svgTextNames.contains e.tag.name
  | .mathml =>
    e.tag.name == "annotation-xml" &&
      match Attribute.get? "encoding" (tree.attributesOf e.id) with
      | some value =>
        ["text/html", "application/xhtml+xml"].contains (String.ofList (Text.lowerAscii value))
      | none => false

/-- Whether a foreign element holds text that is read as outside of it. -/
def holdsText (e : OpenElement) : Bool :=
  e.tag.space == .mathml && mathTextNames.contains e.tag.name

/-- Whether a token in this element is read by the rules for foreign elements. -/
def isForeignFor (tree : Scaffold) (e : OpenElement) (token : Token) : Bool :=
  match token with
  | .textRun _ => e.tag.space != .html && !holdsText e && !holdsMarkup tree e
  | .startTag name _ _ =>
    e.tag.space != .html && !holdsMarkup tree e &&
      !(holdsText e && name != "mglyph" && name != "malignmark") &&
      !(e.tag.space == .mathml && e.tag.name == "annotation-xml" && name == "svg")
  | .pageEnd => false
  | _ => e.tag.space != .html

/-- Closes foreign elements down to one inside of which markup is read as usual. -/
def closeForeign (r : Reading) : Reading :=
  r.closeUntil fun e => e.tag.space == .html || holdsMarkup r.tree e || holdsText e

def isBreakout (name : String) (attributes : List Attribute) : Bool :=
  breakoutNames.contains name ||
    (name == "font" && attributes.any fun a => ["color", "face", "size"].contains a.name)

/-- The rules of the mode for a token. -/
def placeByMode (r : Reading) (token : Token) : Placed :=
  match r.mode with
  | .initial => r.placeInitial token
  | .beforeHtml => r.placeBeforeHtml token
  | .beforeHead => r.placeBeforeHead token
  | .inHead => r.placeInHead token
  | .inHeadNoscript => r.placeInHeadNoscript token
  | .afterHead => r.placeAfterHead token
  | .inBody => r.placeInBody token
  | .inText => r.placeInText token
  | .inTable => r.placeInTable token
  | .inTableText => r.placeInTableText token
  | .inCaption => r.placeInCaption token
  | .inColumnGroup => r.placeInColumnGroup token
  | .inTableBody => r.placeInTableBody token
  | .inRow => r.placeInRow token
  | .inCell => r.placeInCell token
  | .inTemplate => r.placeInTemplate token
  | .afterBody => r.placeAfterBody token
  | .inFrameset => r.placeInFrameset token
  | .afterFrameset => r.placeAfterFrameset token
  | .afterAfterBody => r.placeAfterAfterBody token
  | .afterAfterFrameset => r.placeAfterAfterFrameset token

/-- The end tag of a foreign element. -/
def endForeign (r : Reading) (name : String) (token : Token) : Placed :=
  match r.opened.find? fun e =>
      e.tag.space == .html || Token.lowerName e.tag.name.toList == name with
  | some e =>
    if e.tag.space == .html then r.placeByMode token
    else .taken (r.closeThrough (·.id == e.id))
  | none => .taken r

def placeForeign (r : Reading) (space : Namespace) (token : Token) : Placed :=
  match token with
  | .textRun content =>
    .taken
      { r.insertText (Token.replaceZero content) with
        framesetAllowed := r.framesetAllowed && content.all Text.isMarkupSpace }
  | .comment content => .taken (r.insert (.comment content))
  | .instruction target content => .taken (r.insert (.instruction target content))
  | .doctype _ | .pageEnd => .taken r
  | .startTag name attributes selfClosing =>
    if isBreakout name attributes then r.closeForeign.placeByMode token
    else .taken (r.openForeign space name attributes selfClosing)
  | .endTag name =>
    if name = "br" ∨ name = "p" then r.closeForeign.placeByMode token
    else r.endForeign name token

/-- The token where it belongs, or what is left of it. -/
def placeOnce (r : Reading) (token : Token) : Placed :=
  match r.opened with
  | e :: _ =>
    if isForeignFor r.tree e token then r.placeForeign e.tag.space token
    else r.placeByMode token
  | [] => r.placeByMode token

def placeWith : (fuel : Nat) → Reading → Token → Reading
  | 0, r, _ => r
  | fuel + 1, r, token =>
    match r.placeOnce token with
    | .taken r => r
    | .left r token => placeWith fuel r token

/-- A line feed at the start of text is dropped if the element asks for it. -/
def withoutLineFeed (r : Reading) (token : Token) : Reading × Token :=
  match token with
  | .textRun [] => (r, token)
  | .textRun ('\n' :: rest) =>
    ({ r with dropLineFeed := false }, .textRun (if r.dropLineFeed then rest else '\n' :: rest))
  | _ => ({ r with dropLineFeed := false }, token)

/-- Places a token. Each time that a token is left, elements are closed or a mode nearer to
the one that takes it is entered. -/
def place (r : Reading) (token : Token) : Reading :=
  let (r, token) := r.withoutLineFeed token
  placeWith (2 * r.opened.length + 16) r token

/-- How text is read where the reading stands. -/
def currentTextMode (r : Reading) : TextMode :=
  match r.textMode with
  | .markup _ =>
    .markup (match r.opened with | e :: _ => e.tag.space != .html | [] => false)
  | mode => mode

end LuaMarkup.Html.Reading
