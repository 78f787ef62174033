import LuaMarkup.Html.Placement.Basic

/-!
The rules up to the body of a page.
-/

namespace LuaMarkup.Html.Reading

def placeInitial (r : Reading) (token : Token) : Placed :=
  let next := { r with mode := .beforeHtml }
  match token with
  | .textRun content =>
    let rest := content.dropWhile Text.isMarkupSpace
    if rest.isEmpty then .taken r else .left { next with old := true } (.textRun rest)
  | .comment content => .taken (r.insert (.comment content))
  | .instruction target content => .taken (r.insert (.instruction target content))
  | .doctype declaration =>
    .taken { next.insert (.doctype declaration.name) with old := declaration.isOld }
  | token => .left { next with old := true } token

/-- End tags that open what is missing around them; others are dropped before the body. -/
def bodyEndNames : List String := ["body", "html", "br"]

def placeBeforeHtml (r : Reading) (token : Token) : Placed :=
  let next := { r with mode := .beforeHead }
  let implied (token : Token) : Placed := .left (next.openHtml "html" []) token
  match token with
  | .textRun content =>
    let rest := content.dropWhile Text.isMarkupSpace
    if rest.isEmpty then .taken r else implied (.textRun rest)
  | .comment content => .taken (r.insert (.comment content))
  | .instruction target content => .taken (r.insert (.instruction target content))
  | .doctype _ => .taken r
  | .startTag "html" attributes _ => .taken (next.openHtml "html" attributes)
  | .endTag name => if ("head" :: bodyEndNames).contains name then implied token else .taken r
  | token => implied token

def placeBeforeHead (r : Reading) (token : Token) : Placed :=
  let opened (attributes : List Attribute) : Reading :=
    { r.openHtml "head" attributes with mode := .inHead, head := some r.tree.next }
  let implied (token : Token) : Placed := .left (opened []) token
  match token with
  | .textRun content =>
    let rest := content.dropWhile Text.isMarkupSpace
    if rest.isEmpty then .taken r else implied (.textRun rest)
  | .comment content => .taken (r.insert (.comment content))
  | .instruction target content => .taken (r.insert (.instruction target content))
  | .doctype _ => .taken r
  | .startTag "html" attributes _ => .taken (r.mergeHtml attributes)
  | .startTag "head" attributes _ => .taken (opened attributes)
  | .endTag name => if ("head" :: bodyEndNames).contains name then implied token else .taken r
  | token => implied token

def placeInHead (r : Reading) (token : Token) : Placed :=
  let next (r : Reading) (token : Token) : Placed :=
    .left { r.close with mode := .afterHead } token
  match token with
  | .textRun content =>
    r.placeBlanks content insertText fun r rest => next r (.textRun rest)
  | .comment content => .taken (r.insert (.comment content))
  | .instruction target content => .taken (r.insert (.instruction target content))
  | .doctype _ => .taken r
  | .startTag name attributes _ =>
    if name = "html" then .taken (r.mergeHtml attributes)
    else if name = "head" then .taken r
    else if name = "noscript" then
      .taken { r.openHtml name attributes with mode := .inHeadNoscript }
    else if headContentNames.contains name then .taken (r.startHeadContent name attributes)
    else next r token
  | .endTag name =>
    if name = "head" then .taken { r.close with mode := .afterHead }
    else if name = "template" then .taken r.closeTemplate
    else if bodyEndNames.contains name then next r token
    else .taken r
  | .pageEnd => next r token

def placeInHeadNoscript (r : Reading) (token : Token) : Placed :=
  let next (r : Reading) (token : Token) : Placed :=
    .left { r.close with mode := .inHead } token
  match token with
  | .textRun content =>
    r.placeBlanks content insertText fun r rest => next r (.textRun rest)
  | .comment content => .taken (r.insert (.comment content))
  | .instruction target content => .taken (r.insert (.instruction target content))
  | .doctype _ => .taken r
  | .startTag name attributes _ =>
    if name = "html" then .taken (r.mergeHtml attributes)
    else if name = "head" ∨ name = "noscript" then .taken r
    else if ["basefont", "bgsound", "link", "meta", "noframes", "style"].contains name then
      .taken (r.startHeadContent name attributes)
    else next r token
  | .endTag name =>
    if name = "noscript" then .taken { r.close with mode := .inHead }
    else if name = "br" then next r token
    else .taken r
  | .pageEnd => next r token

/-- Content of the head after its end tag. -/
def startLateContent (r : Reading) (name : String) (attributes : List Attribute) : Reading :=
  match r.head with
  | some id =>
    ({ r with opened := ⟨id, ⟨.html, "head"⟩⟩ :: r.opened }.startHeadContent name
      attributes).forget id
  | none => r.startHeadContent name attributes

def placeAfterHead (r : Reading) (token : Token) : Placed :=
  let implied (r : Reading) (token : Token) : Placed :=
    .left { r.openHtml "body" [] with mode := .inBody } token
  match token with
  | .textRun content =>
    r.placeBlanks content insertText fun r rest => implied r (.textRun rest)
  | .comment content => .taken (r.insert (.comment content))
  | .instruction target content => .taken (r.insert (.instruction target content))
  | .doctype _ => .taken r
  | .startTag name attributes _ =>
    if name = "html" then .taken (r.mergeHtml attributes)
    else if name = "body" then
      .taken { r.openHtml name attributes with mode := .inBody, framesetAllowed := false }
    else if name = "frameset" then
      .taken { r.openHtml name attributes with mode := .inFrameset }
    else if name = "head" then .taken r
    else if headContentNames.contains name then .taken (r.startLateContent name attributes)
    else implied r token
  | .endTag name =>
    if name = "template" then .taken r.closeTemplate
    else if bodyEndNames.contains name then implied r token
    else .taken r
  | .pageEnd => implied r token

end LuaMarkup.Html.Reading
