import LuaMarkup.Text.Blank

/-!
Whether a page is written as a full document or as a fragment of one.
-/

namespace LuaMarkup.Page

/-- A full document begins, blanks aside, with a document type or an `html` tag. -/
def isFullDocument (html : Text) : Bool :=
  let start := Text.lowerAscii (Text.trimStart html)
  "<!doctype".toList.isPrefixOf start || "<html".toList.isPrefixOf start

end LuaMarkup.Page
