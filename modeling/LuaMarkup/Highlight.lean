import LuaMarkup.Classify

/-!
Highlighting of Lua source as markup. The source is escaped and classified, its tokens are
expanded, and the line end that escaping added is dropped. An unterminated string or comment
stays plain text.
-/

namespace LuaMarkup

def classifySource (source : Text) : Classified :=
  classify Rule.all (escapeSource source Table.empty)

def highlight (source : Text) : Except ResolveError Text := do
  let classified := classifySource source
  let markup ← classified.table.resolve classified.text
  return Text.dropEnd lineEnd markup

/-- The matches made in highlighting a source. -/
def highlightTrace (source : Text) : List Match :=
  (classifySource source).trace

end LuaMarkup
