import LuaMarkup.Html.OpenElements

/-!
What the rules for the tokens of a page share. A rule either takes a token or changes the
reading and leaves the token, or what remains of it, to the rules of the new mode.
-/

namespace LuaMarkup.Html

inductive Placed where
  | taken (r : Reading)
  | left (r : Reading) (token : Token)

namespace Reading

/-- Adds attributes to the open elements of a name. -/
def mergeInto (r : Reading) (name : String) (attributes : List Attribute) : Reading :=
  match r.opened.find? (·.tag.isHtml name) with
  | some e => { r with tree := r.tree.mergeAttributes e.id attributes }
  | none => r

def mergeHtml (r : Reading) (attributes : List Attribute) : Reading :=
  if r.hasTemplate then r else r.mergeInto "html" attributes

/-- Opens an element whose content is text. -/
def openText (r : Reading) (name : String) (attributes : List Attribute) (textMode : TextMode) :
    Reading :=
  { r.openHtml name attributes with textMode, returnMode := r.mode, mode := .inText }

def openRaw (r : Reading) (name : String) (attributes : List Attribute) : Reading :=
  r.openText name attributes (.raw name)

/-- Text in a mode that takes blanks at its start and leaves the rest. -/
def placeBlanks (r : Reading) (content : Text) (accept : Reading → Text → Reading)
    (leave : Reading → Text → Placed) : Placed :=
  let blanks := content.takeWhile Text.isMarkupSpace
  let rest := content.dropWhile Text.isMarkupSpace
  let r := if blanks.isEmpty then r else accept r blanks
  if rest.isEmpty then .taken r else leave r rest

/-- The mode that the open elements ask for. -/
def modeOf (r : Reading) : Mode :=
  (r.opened.findSome? fun e =>
    if e.tag.space ≠ .html then none
    else
      match e.tag.name with
      | "td" | "th" => some .inCell
      | "tr" => some .inRow
      | "tbody" | "thead" | "tfoot" => some .inTableBody
      | "caption" => some .inCaption
      | "colgroup" => some .inColumnGroup
      | "table" => some .inTable
      | "template" => some (r.templateModes.headD .inBody)
      | "head" => some .inHead
      | "body" => some .inBody
      | "frameset" => some .inFrameset
      | "html" => some (if r.head.isSome then .afterHead else .beforeHead)
      | _ => none).getD .inBody

def resetMode (r : Reading) : Reading :=
  { r with mode := r.modeOf }

def openTemplate (r : Reading) (attributes : List Attribute) : Reading :=
  { (r.openHtml "template" attributes).addEdge with
    mode := .inTemplate
    templateModes := .inTemplate :: r.templateModes
    framesetAllowed := false }

def closeTemplate (r : Reading) : Reading :=
  if r.hasTemplate then
    let r := ((r.closeImplied []).closeThroughName "template").clearToEdge
    { r with templateModes := r.templateModes.drop 1 }.resetMode
  else r

/-- A start tag of those that may stand in a head. -/
def startHeadContent (r : Reading) (name : String) (attributes : List Attribute) : Reading :=
  match name with
  | "title" => r.openText name attributes (.escapable name)
  | "style" | "noframes" => r.openRaw name attributes
  | "script" => r.openText name attributes .script
  | "template" => r.openTemplate attributes
  | _ => r.insertVoid name attributes

end Reading
end LuaMarkup.Html
