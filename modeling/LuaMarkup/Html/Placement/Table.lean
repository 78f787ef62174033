import LuaMarkup.Html.Placement.Body

/-!
The rules in tables and templates.
-/

namespace LuaMarkup.Html.Reading

/-- Closes elements down to the table, or to the template or page around it. -/
def clearToTable (r : Reading) : Reading :=
  r.closeUntil (·.tag.isHtmlOneOf ["table", "template", "html"])

def clearToSection (r : Reading) : Reading :=
  r.closeUntil (·.tag.isHtmlOneOf ["tbody", "tfoot", "thead", "template", "html"])

def clearToRow (r : Reading) : Reading :=
  r.closeUntil (·.tag.isHtmlOneOf ["tr", "template", "html"])

/-- What has no place in a table is read as in the body and goes before the table. -/
def placeBeforeTable (r : Reading) (token : Token) : Placed :=
  match { r with fostering := true }.placeInBody token with
  | .taken r => .taken { r with fostering := false }
  | .left r token => .left { r with fostering := false } token

def placeInTable (r : Reading) (token : Token) : Placed :=
  match token with
  | .textRun content =>
    if content.isEmpty then .taken r
    else if r.currentIsOneOf ["table", "tbody", "template", "tfoot", "thead", "tr"] then
      .left { r with mode := .inTableText, returnMode := r.mode, tableText := [] } token
    else r.placeBeforeTable token
  | .comment _ | .instruction .. | .doctype _ | .pageEnd => r.placeInBody token
  | .startTag name attributes _ =>
    if name = "caption" then
      .taken { (r.clearToTable.addEdge).openHtml name attributes with mode := .inCaption }
    else if name = "colgroup" then
      .taken { r.clearToTable.openHtml name attributes with mode := .inColumnGroup }
    else if name = "col" then
      .left { r.clearToTable.openHtml "colgroup" [] with mode := .inColumnGroup } token
    else if tableSectionNames.contains name then
      .taken { r.clearToTable.openHtml name attributes with mode := .inTableBody }
    else if ["td", "th", "tr"].contains name then
      .left { r.clearToTable.openHtml "tbody" [] with mode := .inTableBody } token
    else if name = "table" then
      if r.inTableScope ["table"] then .left (r.closeThroughName "table").resetMode token
      else .taken r
    else if ["style", "script", "template"].contains name then r.placeInHead token
    else if name = "input" ∧ isHiddenInput attributes then
      .taken (r.insertVoid name attributes)
    else if name = "form" then
      if r.hasTemplate || r.form.isSome then .taken r
      else .taken { (r.openHtml name attributes).close with form := some r.tree.next }
    else r.placeBeforeTable token
  | .endTag name =>
    if name = "table" then
      if r.inTableScope ["table"] then .taken (r.closeThroughName "table").resetMode
      else .taken r
    else if (["body", "html"] ++ tablePartNames).contains name then .taken r
    else if name = "template" then r.placeInHead token
    else r.placeBeforeTable token

/-- Text of a table waits for what follows it: with anything but blanks in it, it has no place
there. -/
def placeInTableText (r : Reading) (token : Token) : Placed :=
  match token with
  | .textRun content =>
    .taken { r with tableText := r.tableText ++ content.filter (· ≠ '\x00') }
  | token =>
    let r := { r with mode := r.returnMode }
    let content := r.tableText
    let placed := { r with tableText := [] }
    if content.all Text.isMarkupSpace then .left (placed.insertText content) token
    else
      match placed.placeBeforeTable (.textRun content) with
      | .taken r | .left r _ => .left r token

def placeInCaption (r : Reading) (token : Token) : Placed :=
  let closed : Reading :=
    { ((r.closeImplied []).closeThroughName "caption").clearToEdge with mode := .inTable }
  let ended (left : Bool) : Placed :=
    if r.inTableScope ["caption"] then (if left then .left closed token else .taken closed)
    else .taken r
  match token with
  | .startTag name _ _ =>
    if tablePartNames.contains name then ended true else r.placeInBody token
  | .endTag name =>
    if name = "caption" then ended false
    else if name = "table" then ended true
    else if (["body", "html"] ++ tablePartNames).contains name then .taken r
    else r.placeInBody token
  | token => r.placeInBody token

def placeInColumnGroup (r : Reading) (token : Token) : Placed :=
  let next (r : Reading) (token : Token) : Placed :=
    if r.currentIsOneOf ["colgroup"] then .left { r.close with mode := .inTable } token
    else .taken r
  match token with
  | .textRun content =>
    r.placeBlanks content insertText fun r rest => next r (.textRun rest)
  | .comment _ | .instruction .. | .doctype _ | .pageEnd => r.placeInBody token
  | .startTag name attributes _ =>
    if name = "html" then .taken (r.mergeHtml attributes)
    else if name = "col" then .taken (r.insertVoid name attributes)
    else if name = "template" then r.placeInHead token
    else next r token
  | .endTag name =>
    if name = "colgroup" then
      if r.currentIsOneOf ["colgroup"] then .taken { r.close with mode := .inTable }
      else .taken r
    else if name = "col" then .taken r
    else if name = "template" then r.placeInHead token
    else next r token

def placeInTableBody (r : Reading) (token : Token) : Placed :=
  let closed : Reading := { r.clearToSection.close with mode := .inTable }
  match token with
  | .startTag name attributes _ =>
    if name = "tr" then
      .taken { r.clearToSection.openHtml name attributes with mode := .inRow }
    else if name = "td" ∨ name = "th" then
      .left { r.clearToSection.openHtml "tr" [] with mode := .inRow } token
    else if tablePartNames.contains name then
      if r.inTableScope tableSectionNames then .left closed token else .taken r
    else r.placeInTable token
  | .endTag name =>
    if tableSectionNames.contains name then
      if r.inTableScope [name] then .taken closed else .taken r
    else if name = "table" then
      if r.inTableScope tableSectionNames then .left closed token else .taken r
    else if (["body", "html"] ++ tablePartNames).contains name then .taken r
    else r.placeInTable token
  | token => r.placeInTable token

def placeInRow (r : Reading) (token : Token) : Placed :=
  let closed : Reading := { r.clearToRow.close with mode := .inTableBody }
  let ended (left : Bool) : Placed :=
    if r.inTableScope ["tr"] then (if left then .left closed token else .taken closed)
    else .taken r
  match token with
  | .startTag name attributes _ =>
    if name = "td" ∨ name = "th" then
      .taken ({ r.clearToRow.openHtml name attributes with mode := .inCell }.addEdge)
    else if tablePartNames.contains name then ended true
    else r.placeInTable token
  | .endTag name =>
    if name = "tr" then ended false
    else if name = "table" then ended true
    else if tableSectionNames.contains name then
      if r.inTableScope [name] then ended true else .taken r
    else if (["body", "html"] ++ tablePartNames).contains name then .taken r
    else r.placeInTable token
  | token => r.placeInTable token

def closeCell (r : Reading) : Reading :=
  { ((r.closeImplied []).closeThroughOneOf ["td", "th"]).clearToEdge with mode := .inRow }

def placeInCell (r : Reading) (token : Token) : Placed :=
  match token with
  | .startTag name _ _ =>
    if tablePartNames.contains name then
      if r.inTableScope ["td", "th"] then .left r.closeCell token else .taken r
    else r.placeInBody token
  | .endTag name =>
    if name = "td" ∨ name = "th" then
      if r.inTableScope [name] then
        .taken { ((r.closeImplied []).closeThroughName name).clearToEdge with mode := .inRow }
      else .taken r
    else if ["body", "caption", "col", "colgroup", "html"].contains name then .taken r
    else if (["table", "tr"] ++ tableSectionNames).contains name then
      if r.inTableScope [name] then .left r.closeCell token else .taken r
    else r.placeInBody token
  | token => r.placeInBody token

def placeInTemplate (r : Reading) (token : Token) : Placed :=
  let switch (mode : Mode) : Placed :=
    .left { r with mode, templateModes := mode :: r.templateModes.drop 1 } token
  match token with
  | .startTag name _ _ =>
    if headContentNames.contains name then r.placeInHead token
    else if (["caption", "colgroup"] ++ tableSectionNames).contains name then switch .inTable
    else if name = "col" then switch .inColumnGroup
    else if name = "tr" then switch .inTableBody
    else if name = "td" ∨ name = "th" then switch .inRow
    else switch .inBody
  | .endTag name => if name = "template" then r.placeInHead token else .taken r
  | token => r.placeInBody token

end LuaMarkup.Html.Reading
