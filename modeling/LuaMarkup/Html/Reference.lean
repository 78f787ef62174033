import LuaMarkup.Html.NamedReference

/-!
Character references in text and in attribute values. A reference that is not well formed
stays as it is written.
-/

namespace LuaMarkup.Html.Reference

def replacement : Char := '\ufffd'

/-- The characters that the numbers 128 to 159 stand for; the others of them stand for
themselves. -/
def windowsTable : List (Nat × Char) :=
  [(0x80, '€'), (0x82, '‚'), (0x83, 'ƒ'), (0x84, '„'), (0x85, '…'), (0x86, '†'), (0x87, '‡'),
    (0x88, 'ˆ'), (0x89, '‰'), (0x8a, 'Š'), (0x8b, '‹'), (0x8c, 'Œ'), (0x8e, 'Ž'), (0x91, '‘'),
    (0x92, '’'), (0x93, '“'), (0x94, '”'), (0x95, '•'), (0x96, '–'), (0x97, '—'), (0x98, '˜'),
    (0x99, '™'), (0x9a, 'š'), (0x9b, '›'), (0x9c, 'œ'), (0x9e, 'ž'), (0x9f, 'Ÿ')]

/-- The character of a numeric reference. Zero, surrogates and numbers beyond the last code
point give the replacement character. -/
def ofNumber (n : Nat) : Char :=
  if n = 0 ∨ (0xd800 ≤ n ∧ n < 0xe000) ∨ 0x10ffff < n then replacement
  else (windowsTable.lookup n).getD (Char.ofNat n)

def digitValue (c : Char) : Nat :=
  if c.isDigit then c.toNat - '0'.toNat else c.toLower.toNat - 'a'.toNat + 10

def isHexDigit (c : Char) : Bool :=
  c.isDigit || ('a' ≤ c.toLower && c.toLower ≤ 'f')

/-- A number in a base, as the character it refers to, with what follows it and the semicolon
after it. -/
def number? (base : Nat) (isDigit : Char → Bool) (text : Text) : Option (Text × Text) :=
  let digits := text.takeWhile isDigit
  if digits.isEmpty then none
  else
    let rest := text.dropWhile isDigit
    let n := digits.foldl (fun n c => base * n + digitValue c) 0
    some ([ofNumber n], if rest.head? = some ';' then rest.drop 1 else rest)

/-- A name at the start of a text, with the text it stands for, what follows it, and whether it
ended in a semicolon. -/
structure NameMatch where
  length : Nat
  value : Text
  rest : Text
  closed : Bool

def matchName? (text : Text) (reference : NamedReference) : Option NameMatch := do
  let rest ← Text.after? reference.name text
  if rest.head? = some ';' then
    some { length := reference.name.length + 1, value := reference.value, rest := rest.drop 1,
           closed := true }
  else if reference.bare then
    some { length := reference.name.length, value := reference.value, rest, closed := false }
  else none

/-- The longest name at the start of a text. -/
def longestName? (text : Text) : Option NameMatch :=
  NamedReference.all.foldl (fun best reference =>
    match matchName? text reference with
    | none => best
    | some found =>
      match best with
      | some other => if other.length < found.length then some found else best
      | none => some found) none

/-- In an attribute value a name without its semicolon is no reference before `=`, a letter or
a digit. -/
def named? (inValue : Bool) (text : Text) : Option (Text × Text) := do
  let found ← longestName? text
  let continued :=
    match found.rest.head? with
    | some c => c == '=' || c.isAlphanum
    | none => false
  if inValue && !found.closed && continued then none
  else some (found.value, found.rest)

/-- The reference after an ampersand, with what follows it. -/
def read? (inValue : Bool) (text : Text) : Option (Text × Text) :=
  match text with
  | '#' :: 'x' :: digits | '#' :: 'X' :: digits => number? 16 isHexDigit digits
  | '#' :: digits => number? 10 Char.isDigit digits
  | c :: _ => if c.isAlphanum then named? inValue text else none
  | [] => none

/-- A text with its references replaced. `fuel` bounds the characters that are read. -/
def decodeWith (inValue : Bool) : (fuel : Nat) → Text → Text
  | 0, text => text
  | _, [] => []
  | fuel + 1, c :: rest =>
    if c = '&' then
      match read? inValue rest with
      | some (value, after) => value ++ decodeWith inValue fuel after
      | none => c :: decodeWith inValue fuel rest
    else c :: decodeWith inValue fuel rest

/-- A text with its references replaced by the characters that they stand for. What is put in
is not read again. -/
def decode (inValue : Bool) (text : Text) : Text :=
  decodeWith inValue text.length text

end LuaMarkup.Html.Reference
