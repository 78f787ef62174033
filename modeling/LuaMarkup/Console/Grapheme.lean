import LuaMarkup.Console.Width

/-!
Texts as they are seen on a console: characters that are shown as one, and the columns that they
take. A joiner shows the character after it together with the one before, and a picture mark asks
for the wide form of the character before it.
-/

namespace LuaMarkup.Console

def joiner : Char := '\u200d'

def pictureMark : Char := '\ufe0f'

/-- The columns of a text. `shown` is the last character that takes a column, as long as no mark
has made it wider. -/
def widthAfter (shown : Option Char) : Text → Nat
  | [] => 0
  | c :: rest =>
    if c = joiner then
      match rest with
      | _ :: rest => widthAfter shown rest
      | [] => 0
    else if c = pictureMark then
      match shown with
      | some d => (if isWidened d then 1 else 0) + widthAfter none rest
      | none => widthAfter none rest
    else
      charWidth c + widthAfter (if charWidth c = 0 then shown else some c) rest

def width (text : Text) : Nat := widthAfter none text

/-- Characters that are shown as one. -/
structure Grapheme where
  text : Text
  width : Nat
deriving DecidableEq, Repr

namespace Grapheme

/-- The graphemes of a text. `last` is the one that is being read, and `shown` its character that
takes columns, as long as no mark has made it wider. -/
def readAfter (last : Grapheme) (shown : Option Char) : Text → List Grapheme
  | [] => [last]
  | c :: rest =>
    if c = joiner then
      match rest with
      | d :: rest => readAfter { last with text := last.text ++ [c, d] } shown rest
      | [] => [{ last with text := last.text ++ [c] }]
    else if c = pictureMark then
      if shown.any isWidened then
        readAfter { text := last.text ++ [c], width := last.width + 1 } none rest
      else readAfter { last with text := last.text ++ [c] } shown rest
    else if charWidth c = 0 then readAfter { last with text := last.text ++ [c] } shown rest
    else last :: readAfter { text := [c], width := charWidth c } (some c) rest

def ofText : Text → List Grapheme
  | [] => []
  | c :: rest =>
    let width := if c = joiner ∨ c = pictureMark then 0 else charWidth c
    readAfter { text := [c], width } (if width = 0 then none else some c) rest

end Grapheme
end LuaMarkup.Console
