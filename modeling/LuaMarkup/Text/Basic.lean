/-!
Text as a list of characters, and the replacements, cuts and searches that the other modules
make on it.
-/

namespace LuaMarkup

abbrev Text := List Char

namespace Text

/-- Every `c` gives way to `replacement`, which is not searched again. -/
def replaceChar (c : Char) (replacement : Text) (text : Text) : Text :=
  text.flatMap fun d => if d = c then replacement else [d]

/-- CR LF becomes LF. A CR that stands alone stays. -/
def joinLineEnds : Text → Text
  | '\r' :: '\n' :: rest => '\n' :: joinLineEnds rest
  | c :: rest => c :: joinLineEnds rest
  | [] => []

/-- CR LF and a CR that stands alone both become LF. -/
def unifyLineEnds : Text → Text
  | '\r' :: '\n' :: rest => '\n' :: unifyLineEnds rest
  | '\r' :: rest => '\n' :: unifyLineEnds rest
  | c :: rest => c :: unifyLineEnds rest
  | [] => []

/-- What follows `start` in `text`, if `text` begins with it. -/
def after? : (start text : Text) → Option Text
  | [], text => some text
  | _ :: _, [] => none
  | c :: start, d :: text => if c = d then after? start text else none

/-- Whether `part` occurs somewhere in `text`. -/
def hasPart (part : Text) : Text → Bool
  | [] => (after? part []).isSome
  | c :: text => (after? part (c :: text)).isSome || hasPart part text

/-- `text` without `ending`, if it ends in it. -/
def dropEnd (ending text : Text) : Text :=
  if ending.isSuffixOf text then text.take (text.length - ending.length) else text

/-- The ASCII letters in lower case; all else as it is. -/
def lowerAscii (text : Text) : Text :=
  text.map Char.toLower

/-- The pieces of a text between the separators. -/
def pieces (separator : Char) (text : Text) : List Text :=
  text.foldr (fun c parts =>
    if c = separator then [] :: parts
    else
      match parts with
      | part :: rest => (c :: part) :: rest
      | [] => [[c]]) [[]]

def hexDigit (c : Char) : Nat :=
  if c.isDigit then c.toNat - '0'.toNat else c.toNat - 'A'.toNat + 10

/-- The character of a code point in hexadecimal with capital letters. -/
def codePoint (digits : Text) : Char :=
  Char.ofNat (digits.foldl (fun n c => 16 * n + hexDigit c) 0)

theorem length_after?_le {start text rest : Text} (h : after? start text = some rest) :
    rest.length + start.length = text.length := by
  induction start generalizing text with
  | nil => cases text <;> simp_all [after?]
  | cons c start ih =>
    cases text with
    | nil => simp [after?] at h
    | cons d text =>
      by_cases hc : c = d
      · have := ih (by simpa [after?, hc] using h)
        simp only [List.length_cons]
        omega
      · simp [after?, hc] at h

end Text
end LuaMarkup
