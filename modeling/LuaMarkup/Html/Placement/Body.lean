import LuaMarkup.Html.Placement.Head

/-!
The rules in the body of a page and after it.
-/

namespace LuaMarkup.Html.Reading

/-- Closes the list item that a new one follows. -/
def closeItem (r : Reading) (names : List String) : Reading :=
  match r.opened.find? fun e =>
      e.tag.isHtmlOneOf names ||
        (e.tag.isSpecial && !e.tag.isHtmlOneOf ["address", "div", "p"]) with
  | some e =>
    if e.tag.isHtmlOneOf names then (r.closeImplied [e.tag.name]).closeThroughName e.tag.name
    else r
  | none => r

/-- The start tag of a foreign element. -/
def openForeign (r : Reading) (space : Namespace) (name : String)
    (attributes : List Attribute) (selfClosing : Bool) : Reading :=
  let r := r.openElement ⟨space, foreignTagName space name⟩ (foreignAttributes space attributes)
  if selfClosing then r.close else r

/-- Takes formatting of that name away before a new element of it opens. -/
def dropFormatting (r : Reading) (name : String) : Reading :=
  match r.formattingEntry? name with
  | some id => ((r.closeFormatting name).dropEntry id).forget id
  | none => r

def startForm (r : Reading) (attributes : List Attribute) : Reading :=
  if r.form.isSome && !r.hasTemplate then r
  else
    let r := r.closeParagraph
    { r.openHtml "form" attributes with
      form := if r.hasTemplate then r.form else some r.tree.next }

def startButton (r : Reading) (attributes : List Attribute) : Reading :=
  let r := if r.inScope ["button"] then (r.closeImplied []).closeThroughName "button" else r
  r.reopenFormatting.openHtml "button" attributes

def startNoBreak (r : Reading) (attributes : List Attribute) : Reading :=
  let r := r.reopenFormatting
  let r := if r.inScope ["nobr"] then (r.closeFormatting "nobr").reopenFormatting else r
  r.openFormatting "nobr" attributes

/-- A frameset takes the place of the body as long as that has nothing in it that counts. -/
def startFrameset (r : Reading) (attributes : List Attribute) : Reading :=
  match r.opened.reverse with
  | html :: body :: _ =>
    if body.tag.isHtml "body" && r.framesetAllowed then
      { { r with tree := r.tree.detach body.id, opened := [html] }.openHtml "frameset"
          attributes with
        mode := .inFrameset }
    else r
  | _ => r

def isHiddenInput (attributes : List Attribute) : Bool :=
  ((Attribute.get? "type" attributes).map Text.lowerAscii) == some "hidden".toList

def inSelect (r : Reading) : Bool := r.inScope ["select"]

def startInput (r : Reading) (attributes : List Attribute) : Reading :=
  (if r.inSelect then r.closeThroughName "select" else r).reopenFormatting.insertVoid "input"
    attributes

def startSelect (r : Reading) (attributes : List Attribute) : Reading :=
  if r.inSelect then r.closeThroughName "select"
  else r.reopenFormatting.openHtml "select" attributes

def startOption (r : Reading) (attributes : List Attribute) : Reading :=
  (if r.inSelect then r.closeImplied ["optgroup"]
    else if r.currentIsOneOf ["option"] then r.close
    else r).reopenFormatting.openHtml "option" attributes

def startOptionGroup (r : Reading) (attributes : List Attribute) : Reading :=
  (if r.inSelect then r.closeImplied []
    else if r.currentIsOneOf ["option"] then r.close
    else r).reopenFormatting.openHtml "optgroup" attributes

def startRule (r : Reading) (attributes : List Attribute) : Reading :=
  let r := r.closeParagraph
  (if r.inSelect then r.closeImplied [] else r).insertVoid "hr" attributes

/-- Start tags after which no frameset takes the place of the body. -/
def bodyContentNames : List String :=
  ["applet", "area", "br", "button", "dd", "dt", "embed", "hr", "iframe", "image", "img",
    "keygen", "li", "listing", "marquee", "object", "pre", "select", "table", "textarea", "wbr",
    "xmp"]

/-- A start tag in the body. -/
def startInBody (r : Reading) (name : String) (attributes : List Attribute)
    (selfClosing : Bool) : Reading :=
  let opened := fun (r : Reading) => r.openHtml name attributes
  match name with
  | "html" => r.mergeHtml attributes
  | "body" =>
    if r.hasTemplate then r
    else { r.mergeInto "body" attributes with framesetAllowed := false }
  | "frameset" => r.startFrameset attributes
  | "p" => opened r.closeParagraph
  | "pre" | "listing" => { opened r.closeParagraph with dropLineFeed := true }
  | "form" => r.startForm attributes
  | "li" => opened (r.closeItem ["li"]).closeParagraph
  | "dd" | "dt" => opened (r.closeItem ["dd", "dt"]).closeParagraph
  | "plaintext" => { opened r.closeParagraph with textMode := .plain }
  | "button" => r.startButton attributes
  | "a" => (r.dropFormatting "a").reopenFormatting.openFormatting "a" attributes
  | "nobr" => r.startNoBreak attributes
  | "applet" | "marquee" | "object" => (opened r.reopenFormatting).addEdge
  | "table" =>
    { opened (if r.old then r else r.closeParagraph) with mode := .inTable }
  | "area" | "br" | "embed" | "img" | "keygen" | "wbr" =>
    r.reopenFormatting.insertVoid name attributes
  | "image" => r.reopenFormatting.insertVoid "img" attributes
  | "input" => r.startInput attributes
  | "param" | "source" | "track" => r.insertVoid name attributes
  | "hr" => r.startRule attributes
  | "textarea" =>
    { r.openText name attributes (.escapable name) with dropLineFeed := true }
  | "xmp" => r.closeParagraph.reopenFormatting.openRaw name attributes
  | "iframe" | "noembed" => r.openRaw name attributes
  | "select" => r.startSelect attributes
  | "option" => r.startOption attributes
  | "optgroup" => r.startOptionGroup attributes
  | "rb" | "rtc" => opened (if r.inScope ["ruby"] then r.closeImplied [] else r)
  | "rp" | "rt" => opened (if r.inScope ["ruby"] then r.closeImplied ["rtc"] else r)
  | "math" => r.reopenFormatting.openForeign .mathml name attributes selfClosing
  | "svg" => r.reopenFormatting.openForeign .svg name attributes selfClosing
  | "frame" | "head" => r
  | _ =>
    if headContentNames.contains name then r.startHeadContent name attributes
    else if blockNames.contains name then opened r.closeParagraph
    else if headingNames.contains name then
      let r := r.closeParagraph
      opened (if r.currentIsOneOf headingNames then r.close else r)
    else if formattingNames.contains name then
      r.reopenFormatting.openFormatting name attributes
    else if tablePartNames.contains name then r
    else opened r.reopenFormatting

/-- Whether a start tag rules a frameset out. -/
def startsBodyContent (name : String) (attributes : List Attribute) : Bool :=
  bodyContentNames.contains name || (name == "input" && !isHiddenInput attributes)

/-- The end tag of a form. Elements in it that are open stay open. -/
def endForm (r : Reading) : Reading :=
  if r.hasTemplate then
    if r.inScope ["form"] then (r.closeImplied []).closeThroughName "form" else r
  else
    match r.form with
    | some id =>
      let r := { r with form := none }
      if r.isInScope id then (r.closeImplied []).forget id else r
    | none => r

/-- An end tag in the body, other than that of the body itself. -/
def endInBody (r : Reading) (name : String) : Reading :=
  match name with
  | "template" => r.closeTemplate
  | "form" => r.endForm
  | "p" =>
    (if r.inButtonScope "p" then r else r.openHtml "p" []).closeParagraph
  | "li" =>
    if r.inListScope "li" then (r.closeImplied ["li"]).closeThroughName "li" else r
  | "br" => { r.reopenFormatting.insertVoid "br" [] with framesetAllowed := false }
  | "applet" | "marquee" | "object" =>
    if r.inScope [name] then ((r.closeImplied []).closeThroughName name).clearToEdge else r
  | _ =>
    if (["button", "listing", "pre", "select"] ++ blockNames).contains name then
      if r.inScope [name] then (r.closeImplied []).closeThroughName name else r
    else if name = "dd" ∨ name = "dt" then
      if r.inScope [name] then (r.closeImplied [name]).closeThroughName name else r
    else if headingNames.contains name then
      if r.inScope headingNames then (r.closeImplied []).closeThroughOneOf headingNames else r
    else if formattingNames.contains name then r.closeFormatting name
    else r.closeOther name

/-- Characters of code zero are left out. -/
def placeInBody (r : Reading) (token : Token) : Placed :=
  match token with
  | .textRun content =>
    let content := content.filter (· ≠ '\x00')
    let r := if content.isEmpty then r else r.reopenFormatting.insertText content
    .taken
      { r with framesetAllowed := r.framesetAllowed && content.all Text.isMarkupSpace }
  | .comment content => .taken (r.insert (.comment content))
  | .instruction target content => .taken (r.insert (.instruction target content))
  | .doctype _ => .taken r
  | .startTag name attributes selfClosing =>
    let r := r.startInBody name attributes selfClosing
    .taken
      { r with
        framesetAllowed := r.framesetAllowed && !startsBodyContent name attributes }
  | .endTag name =>
    if name = "body" ∨ name = "html" then
      if r.inScope ["body"] then
        let r := { r with mode := .afterBody }
        if name = "body" then .taken r else .left r token
      else .taken r
    else .taken (r.endInBody name)
  | .pageEnd => if r.hasTemplate then .left r.closeTemplate token else .taken r

def placeInText (r : Reading) (token : Token) : Placed :=
  let closed := { r.close with mode := r.returnMode, textMode := .markup false }
  match token with
  | .textRun content => .taken (r.insertText content)
  | .pageEnd => .left closed token
  | _ => .taken closed

/-- The place for what follows the body inside of `html`. -/
def endOfHtml (r : Reading) : Scaffold.Place :=
  ⟨(r.opened.getLast?.map (·.id)).getD 0, none⟩

def placeAfterBody (r : Reading) (token : Token) : Placed :=
  let back (r : Reading) (token : Token) : Placed := .left { r with mode := .inBody } token
  match token with
  | .textRun content =>
    r.placeBlanks content (fun r blanks => r.reopenFormatting.insertText blanks)
      fun r rest => back r (.textRun rest)
  | .comment content => .taken (r.insertAt (.comment content) r.endOfHtml)
  | .instruction target content =>
    .taken (r.insertAt (.instruction target content) r.endOfHtml)
  | .doctype _ => .taken r
  | .startTag "html" attributes _ => .taken (r.mergeHtml attributes)
  | .endTag "html" => .taken { r with mode := .afterAfterBody }
  | .pageEnd => .taken r
  | token => back r token

def placeAfterAfterBody (r : Reading) (token : Token) : Placed :=
  let back (r : Reading) (token : Token) : Placed := .left { r with mode := .inBody } token
  match token with
  | .textRun content =>
    r.placeBlanks content (fun r blanks => r.reopenFormatting.insertText blanks)
      fun r rest => back r (.textRun rest)
  | .comment content => .taken (r.insertAt (.comment content) ⟨0, none⟩)
  | .instruction target content =>
    .taken (r.insertAt (.instruction target content) ⟨0, none⟩)
  | .doctype _ => .taken r
  | .startTag "html" attributes _ => .taken (r.mergeHtml attributes)
  | .pageEnd => .taken r
  | token => back r token

end LuaMarkup.Html.Reading
