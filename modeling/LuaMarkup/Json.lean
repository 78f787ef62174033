import LuaMarkup.Decimal

/-!
JSON values and their reader. The members of an object keep their order. Besides the numbers
of the standard the reader takes `NaN`, `Infinity` and `-Infinity`.
-/

namespace LuaMarkup

/-- A number as written: `digits` times ten to the power of `exponent`. A number without
fraction and exponent part is written as an integer. -/
structure Json.Number where
  negative : Bool
  digits : Nat
  exponent : Int
  asInteger : Bool
deriving DecidableEq, Repr

inductive Json where
  | null
  | bool (value : Bool)
  | number (value : Json.Number)
  | nonFinite
  | string (value : Text)
  | array (items : List Json)
  | object (members : List (Text × Json))
deriving Repr

namespace Json

/-- The value of a member. -/
def get? (key : String) : Json → Option Json
  | .object members => (members.find? (·.1 == key.toList)).map (·.2)
  | _ => none

/-- Members with one more; a member of the same key gives up its value, not its place. -/
def insert (members : List (Text × Json)) (key : Text) (value : Json) : List (Text × Json) :=
  if members.any (·.1 == key) then
    members.map fun m => if m.1 = key then (key, value) else m
  else members ++ [(key, value)]

namespace Reader

def skipSpace (text : Text) : Text :=
  text.dropWhile fun c => c == ' ' || c == '\t' || c == '\n' || c == '\r'

def hexValue? (c : Char) : Option Nat :=
  if '0' ≤ c ∧ c ≤ '9' then some (c.toNat - '0'.toNat)
  else if 'a' ≤ c ∧ c ≤ 'f' then some (c.toNat - 'a'.toNat + 10)
  else if 'A' ≤ c ∧ c ≤ 'F' then some (c.toNat - 'A'.toNat + 10)
  else none

/-- Four hexadecimal digits as a number. -/
def unit? : Text → Option (Nat × Text)
  | a :: b :: c :: d :: rest => do
    let a ← hexValue? a
    let b ← hexValue? b
    let c ← hexValue? c
    let d ← hexValue? d
    return (((a * 16 + b) * 16 + c) * 16 + d, rest)
  | _ => none

/-- The code point of two units, the first from the high and the second from the low half of
the surrogates. -/
def joinSurrogates (high low : Nat) : Nat :=
  0x10000 + (high - 0xd800) * 0x400 + (low - 0xdc00)

/-- The character of an escape after its `\u`. A surrogate without a partner is read as the
replacement character. -/
def unicodeEscape? (text : Text) : Option (Char × Text) := do
  let (unit, rest) ← unit? text
  if 0xd800 ≤ unit ∧ unit < 0xdc00 then
    match rest with
    | '\\' :: 'u' :: tail =>
      match unit? tail with
      | some (low, rest') =>
        if 0xdc00 ≤ low ∧ low < 0xe000 then
          return (Char.ofNat (joinSurrogates unit low), rest')
        else return ('\ufffd', rest)
      | none => return ('\ufffd', rest)
    | _ => return ('\ufffd', rest)
  else if 0xdc00 ≤ unit ∧ unit < 0xe000 then return ('\ufffd', rest)
  else return (Char.ofNat unit, rest)

def shortEscape? (c : Char) : Option Char :=
  match c with
  | '"' => some '"'
  | '\\' => some '\\'
  | '/' => some '/'
  | 'b' => some '\x08'
  | 'f' => some '\x0c'
  | 'n' => some '\n'
  | 'r' => some '\r'
  | 't' => some '\t'
  | _ => none

/-- The rest of a string after its opening quote. `done` is what has been read, reversed. -/
def string? : (fuel : Nat) → (done text : Text) → Option (Text × Text)
  | 0, _, _ => none
  | _ + 1, _, [] => none
  | _ + 1, done, '"' :: rest => some (done.reverse, rest)
  | fuel + 1, done, '\\' :: 'u' :: rest => do
    let (c, rest) ← unicodeEscape? rest
    string? fuel (c :: done) rest
  | fuel + 1, done, '\\' :: c :: rest => do
    let c ← shortEscape? c
    string? fuel (c :: done) rest
  | _ + 1, _, ['\\'] => none
  | fuel + 1, done, c :: rest =>
    if c.toNat < 0x20 then none else string? fuel (c :: done) rest

def decimal (digits : Text) : Nat :=
  digits.foldl (fun n c => 10 * n + (c.toNat - '0'.toNat)) 0

/-- The digits after a decimal point; none are read if no digit follows the point. -/
def fraction (text : Text) : Text × Text :=
  match text with
  | '.' :: rest =>
    let digits := rest.takeWhile Char.isDigit
    if digits.isEmpty then ([], text) else (digits, rest.dropWhile Char.isDigit)
  | _ => ([], text)

/-- The power of ten after an `e`, or nothing if no digit follows. -/
def power? (text : Text) : Option Int × Text :=
  match text with
  | [] => (none, text)
  | e :: rest =>
    if e = 'e' ∨ e = 'E' then
      let (negative, unsigned) :=
        match rest with
        | '-' :: tail => (true, tail)
        | '+' :: tail => (false, tail)
        | _ => (false, rest)
      let digits := unsigned.takeWhile Char.isDigit
      if digits.isEmpty then (none, text)
      else
        let magnitude : Int := decimal digits
        (some (if negative then -magnitude else magnitude), unsigned.dropWhile Char.isDigit)
    else (none, text)

/-- A number without its sign. A number that is written as an integer has no more digits than
any other numeral. -/
def unsigned? (negative : Bool) (text : Text) : Option (Json × Text) :=
  let whole := text.takeWhile Char.isDigit
  let whole := if whole.head? = some '0' then ['0'] else whole
  if whole.isEmpty then none
  else
    let (fractional, rest) := fraction (text.drop whole.length)
    let (power, rest) := power? rest
    let number : Number :=
      { negative
        digits := decimal (whole ++ fractional)
        exponent := power.getD 0 - fractional.length
        asInteger := fractional.isEmpty && power.isNone }
    if number.asInteger ∧ maxDigits < whole.length then none
    else some (.number number, rest)

def number? (text : Text) : Option (Json × Text) :=
  match text with
  | '-' :: rest =>
    match Text.after? "Infinity".toList rest with
    | some rest => some (.nonFinite, rest)
    | none => unsigned? true rest
  | _ => unsigned? false text

def word? (text : Text) : Option (Json × Text) :=
  let words : List (String × Json) :=
    [("null", .null), ("true", .bool true), ("false", .bool false), ("NaN", .nonFinite),
      ("Infinity", .nonFinite)]
  words.findSome? fun (word, value) => (Text.after? word.toList text).map (value, ·)

mutual
/-- A value at the start of a text. Every value and separator takes at least one character, so
the length of the text is fuel enough. -/
def value? : (fuel : Nat) → Text → Option (Json × Text)
  | 0, _ => none
  | fuel + 1, text =>
    match skipSpace text with
    | '"' :: rest => (string? (fuel + 1) [] rest).map fun (s, rest) => (.string s, rest)
    | '[' :: rest =>
      match skipSpace rest with
      | ']' :: rest => some (.array [], rest)
      | _ => items? fuel [] rest
    | '\x7b' :: rest =>
      match skipSpace rest with
      | '\x7d' :: rest => some (.object [], rest)
      | _ => members? fuel [] rest
    | text => (word? text).orElse fun _ => number? text

def items? : (fuel : Nat) → (done : List Json) → Text → Option (Json × Text)
  | 0, _, _ => none
  | fuel + 1, done, text => do
    let (item, rest) ← value? fuel text
    match skipSpace rest with
    | ',' :: rest => items? fuel (item :: done) rest
    | ']' :: rest => some (.array (item :: done).reverse, rest)
    | _ => none

def members? : (fuel : Nat) → (done : List (Text × Json)) → Text → Option (Json × Text)
  | 0, _, _ => none
  | fuel + 1, done, text => do
    match skipSpace text with
    | '"' :: rest =>
      let (key, rest) ← string? (fuel + 1) [] rest
      match skipSpace rest with
      | ':' :: rest =>
        let (value, rest) ← value? fuel rest
        let members := insert done key value
        match skipSpace rest with
        | ',' :: rest => members? fuel members rest
        | '\x7d' :: rest => some (.object members, rest)
        | _ => none
      | _ => none
    | _ => none
end

end Reader

/-- The value that a whole text writes. -/
def parse? (text : Text) : Option Json := do
  let (value, rest) ← Reader.value? (2 * text.length + 2) text
  if (Reader.skipSpace rest).isEmpty then some value else none

end Json
end LuaMarkup
