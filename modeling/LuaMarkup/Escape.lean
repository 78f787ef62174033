import LuaMarkup.Table

/-!
Source text is made safe for markup before it is classified: `&` and `<` become character
references, layout becomes markup, and every `$` of the source is parked in the table so that
none can be read as the start of a token.
-/

namespace LuaMarkup

/-- Ends every line, the last one included. -/
def lineEnd : Text := "<br>".toList

def tabSpaces : Text := "    ".toList

def spaceMarkup : Text := "<wbr>&nbsp;".toList

/-- A working text and the table that its tokens point into. -/
structure Draft where
  text : Text
  table : Table
deriving DecidableEq, Repr

namespace Escape

/-- The working text before its sentinels are parked. -/
def markup (source : Text) : Text :=
  let safe := Text.replaceChar '<' "&lt;".toList (Text.replaceChar '&' "&amp;".toList source)
  let lines := Text.replaceChar '\n' lineEnd (Text.joinLineEnds (safe ++ lineEnd))
  Text.replaceChar ' ' spaceMarkup (Text.replaceChar '\t' tabSpaces lines)

/-- The sentinels of a text as tokens numbered from `next`. -/
def numberSentinels (next : Nat) : Text → Text
  | [] => []
  | c :: rest =>
    if c = sentinel then Token.write next ++ numberSentinels (next + 1) rest
    else c :: numberSentinels next rest

end Escape

/-- The working text of a source, with each of its sentinels stored in the table. -/
def escapeSource (source : Text) (table : Table) : Draft :=
  let text := Escape.markup source
  if text.contains sentinel then
    { text := Escape.numberSentinels table.size text
      table := table.append (List.replicate (text.count sentinel) [sentinel]) }
  else { text, table }

end LuaMarkup
