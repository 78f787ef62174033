import LuaMarkup.Html.Placement.Head

/-!
The rules in framesets and after them. Of text only the blanks have a place there.
-/

namespace LuaMarkup.Html.Reading

def insertBlanks (r : Reading) (content : Text) : Reading :=
  r.insertText (content.filter Text.isMarkupSpace)

def placeInFrameset (r : Reading) (token : Token) : Placed :=
  match token with
  | .textRun content => .taken (r.insertBlanks content)
  | .comment content => .taken (r.insert (.comment content))
  | .instruction target content => .taken (r.insert (.instruction target content))
  | .startTag name attributes _ =>
    match name with
    | "html" => .taken (r.mergeHtml attributes)
    | "frameset" => .taken (r.openHtml name attributes)
    | "frame" => .taken (r.insertVoid name attributes)
    | "noframes" => r.placeInHead token
    | _ => .taken r
  | .endTag "frameset" =>
    if r.currentIsOneOf ["html"] then .taken r
    else
      let r := r.close
      .taken (if r.currentIsOneOf ["frameset"] then r else { r with mode := .afterFrameset })
  | .endTag _ | .doctype _ | .pageEnd => .taken r

def placeAfterFrameset (r : Reading) (token : Token) : Placed :=
  match token with
  | .textRun content => .taken (r.insertBlanks content)
  | .comment content => .taken (r.insert (.comment content))
  | .instruction target content => .taken (r.insert (.instruction target content))
  | .startTag "html" attributes _ => .taken (r.mergeHtml attributes)
  | .startTag "noframes" _ _ => r.placeInHead token
  | .endTag "html" => .taken { r with mode := .afterAfterFrameset }
  | .startTag .. | .endTag _ | .doctype _ | .pageEnd => .taken r

def placeAfterAfterFrameset (r : Reading) (token : Token) : Placed :=
  match token with
  | .textRun content =>
    let blanks := content.filter Text.isMarkupSpace
    .taken (if blanks.isEmpty then r else r.reopenFormatting.insertText blanks)
  | .comment content => .taken (r.insertAt (.comment content) ⟨0, none⟩)
  | .instruction target content =>
    .taken (r.insertAt (.instruction target content) ⟨0, none⟩)
  | .startTag "html" attributes _ => .taken (r.mergeHtml attributes)
  | .startTag "noframes" _ _ => r.placeInHead token
  | .startTag .. | .endTag _ | .doctype _ | .pageEnd => .taken r

end LuaMarkup.Html.Reading
