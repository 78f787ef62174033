import LuaMarkup.Text.Basic
import LuaMarkup.Text.Printable

/-!
The quoted form of a text in messages. It stands in single quotes, or in double quotes where
the text has a single quote and no double quote. The quote, backslashes and unprintable
characters are written as escapes.
-/

namespace LuaMarkup.Text

/-- A number in lower-case hexadecimal, filled up with zeros to a width. -/
def hex (width n : Nat) : Text :=
  let digits := Nat.toDigits 16 n
  List.replicate (width - digits.length) '0' ++ digits

def quoteChar (quote c : Char) : Text :=
  if c = quote || c = '\\' then ['\\', c]
  else if c = '\n' then ['\\', 'n']
  else if c = '\r' then ['\\', 'r']
  else if c = '\t' then ['\\', 't']
  else if isPrintable c then [c]
  else if c.toNat < 0x100 then '\\' :: 'x' :: hex 2 c.toNat
  else if c.toNat < 0x10000 then '\\' :: 'u' :: hex 4 c.toNat
  else '\\' :: 'U' :: hex 8 c.toNat

def quoteMark (text : Text) : Char :=
  if '\'' ∈ text ∧ '"' ∉ text then '"' else '\''

def quoted (text : Text) : Text :=
  let quote := quoteMark text
  quote :: text.flatMap (quoteChar quote) ++ [quote]

end LuaMarkup.Text
