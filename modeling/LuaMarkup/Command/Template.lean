import LuaMarkup.Decimal
import LuaMarkup.Text.Quoted

/-!
Templates. `%(name)s` stands for the value of a name and `%%` for a percent sign; between the
percent sign and the letter there may be flags, a width and a precision. The letter says how the
value is written.
-/

namespace LuaMarkup.Command

/-- What a name in a template stands for. -/
inductive Value where
  | text (content : Text)
  | texts (items : List Text)
  | absent
  | no
  /-- Something that has a name only for its kind. -/
  | object (kind shown : Text)
  /-- All names with their values. -/
  | record (members : List (Text × Value))

inductive TemplateError where
  /-- A letter that no form belongs to, and where it stands. -/
  | unknownForm (letter : Char) (position : Nat)
  | unclosedName
  | unfinished
  | unknownName (name : Text)
  /-- A width that is to come from a value that is no number. -/
  | widthFromValue
  | widthTooBig
  | precisionTooBig
  /-- A form for which no value is left. -/
  | noValue
  /-- A form for numbers with another value. -/
  | notNumber (message : Text)
deriving DecidableEq, Repr

def TemplateError.message : TemplateError → Text
  | .unknownForm letter position =>
    let shown := if 31 ≤ letter.toNat ∧ letter.toNat < 127 then letter else '?'
    "unsupported format character '".toList ++ [shown] ++ "' (0x".toList ++
      Nat.toDigits 16 letter.toNat ++ ") at index ".toList ++ Nat.toDigits 10 position
  | .unclosedName => "incomplete format key".toList
  | .unfinished => "incomplete format".toList
  | .unknownName name => Text.quoted name
  | .widthFromValue => "* wants int".toList
  | .widthTooBig => "width too big".toList
  | .precisionTooBig => "precision too big".toList
  | .noValue => "not enough arguments for format string".toList
  | .notNumber message => message

namespace Value

def kind : Value → Text
  | .text _ => "str".toList
  | .texts _ => "list".toList
  | .absent => "NoneType".toList
  | .no => "bool".toList
  | .object kind _ => kind
  | .record _ => "dict".toList

/-- A value as it stands in a record. -/
def shown : Value → Text
  | .text content => Text.quoted content
  | .texts items => ['['] ++ List.intercalate ", ".toList (items.map Text.quoted) ++ [']']
  | .absent => "None".toList
  | .no => "False".toList
  | .object _ shown => shown
  | .record members => ['\x7b'] ++ shownMembers true members ++ ['\x7d']
where
  shownMembers (isFirst : Bool) : List (Text × Value) → Text
    | [] => []
    | (name, value) :: members =>
      (if isFirst then [] else ", ".toList) ++ Text.quoted name ++ ": ".toList ++ value.shown ++
        shownMembers false members

/-- A value as it stands in a text. -/
def plain : Value → Text
  | .text content => content
  | value => value.shown

end Value

namespace Template

/-- The name up to the parenthesis that closes it, `depth` others being open, and the rest. -/
def readName : (depth : Nat) → Text → Option (Text × Text)
  | _, [] => none
  | depth, c :: rest =>
    if c = ')' then
      match depth with
      | 0 => some ([], rest)
      | depth + 1 => (readName depth rest).map fun (name, rest) => (c :: name, rest)
    else
      (readName (if c = '(' then depth + 1 else depth) rest).map
        fun (name, rest) => (c :: name, rest)

def isFlag (c : Char) : Bool :=
  c == '-' || c == '+' || c == ' ' || c == '#' || c == '0'

def isSize (c : Char) : Bool := c == 'h' || c == 'l' || c == 'L'

/-- What stands between a percent sign and its letter. -/
structure Form where
  flags : Text := []
  width : Nat := 0
  precision : Option Nat := none

namespace Form

def isLeft (form : Form) : Bool := form.flags.contains '-'

def isZeroFilled (form : Form) : Bool := form.flags.contains '0'

/-- Whether the form shows what it could leave out, such as the base of a number. -/
def isFull (form : Form) : Bool := form.flags.contains '#'

/-- The sign of a number that is not negative. -/
def sign (form : Form) : Text :=
  if form.flags.contains '+' then ['+'] else if form.flags.contains ' ' then [' '] else []

def pad (form : Form) (text : Text) : Text :=
  let fill := List.replicate (form.width - text.length) ' '
  if form.isLeft then text ++ fill else fill ++ text

/-- A number, zeros being filled in between what precedes its digits and the digits. -/
def padNumber (form : Form) (start digits : Text) : Text :=
  if form.isZeroFilled ∧ !form.isLeft then
    start ++ List.replicate (form.width - start.length - digits.length) '0' ++ digits
  else form.pad (start ++ digits)

end Form

def maxWidth : Nat := 0x7fffffffffffffff

def maxPrecision : Nat := 0x7fffffff

/-- A number of the form, from its digits or from the value that is next. `next` is what is left
of the values. -/
def readNumber (next : Option Value) (limit : Nat) (tooBig : TemplateError) (text : Text) :
    Except TemplateError (Nat × Option Value × Text) :=
  match text with
  | '*' :: rest =>
    match next with
    | none => .error .noValue
    | some .no => .ok (0, none, rest)
    | some _ => .error .widthFromValue
  | _ =>
    let digits := text.takeWhile Char.isDigit
    let number := numeralValue digits
    if limit < number then .error tooBig else .ok (number, next, text.drop digits.length)

/-- The form after a percent sign, with the value that is next for it. -/
def readForm (members : List (Text × Value)) (next : Option Value) (text : Text) :
    Except TemplateError (Form × Option Value × Text) := do
  let (next, text) ←
    match text with
    | '(' :: rest =>
      match readName 0 rest with
      | some (name, rest) =>
        match members.find? (·.1 == name) with
        | some (_, value) => pure (some value, rest)
        | none => throw (.unknownName name)
      | none => throw .unclosedName
    | _ => pure (next, text)
  let flags := text.takeWhile isFlag
  let (width, next, text) ← readNumber next maxWidth .widthTooBig (text.drop flags.length)
  let (precision, next, text) ←
    match text with
    | '.' :: rest => do
      let (number, next, text) ← readNumber next maxPrecision .precisionTooBig rest
      pure (some number, next, text)
    | _ => pure (none, next, text)
  let text := match text with
    | c :: rest => if isSize c then rest else text
    | [] => []
  return ({ flags, width, precision }, next, text)

def wholeLetters : List Char := ['d', 'i', 'u']

def baseLetters : List Char := ['o', 'x', 'X']

def pointLetters : List Char := ['e', 'E', 'f', 'F', 'g', 'G']

def letters : List Char :=
  ['s', 'r', 'a', 'c'] ++ wholeLetters ++ baseLetters ++ pointLetters

/-- What a form for numbers says of a value that is none. -/
def numberMessage (letter : Char) (kind : Text) : Text :=
  if letter ∈ wholeLetters then
    '%' :: letter :: " format: a real number is required, not ".toList ++ kind
  else if letter ∈ baseLetters then
    '%' :: letter :: " format: an integer is required, not ".toList ++ kind
  else if letter ∈ pointLetters then "must be real number, not ".toList ++ kind
  else "%c requires int or char".toList

def zeros (count : Nat) : Text := List.replicate count '0'

/-- The digits of zero with a point, or with an exponent. -/
def pointDigits (form : Form) (letter : Char) : Text :=
  let places := form.precision.getD 6
  let places := if letter ∈ ['g', 'G'] then (if form.isFull then places - 1 else 0) else places
  '0' :: (if 0 < places ∨ form.isFull then ['.'] else []) ++ zeros places ++
    (if letter ∈ ['e', 'E'] then letter :: "+00".toList else [])

/-- Zero in a form for numbers. -/
def zeroText (form : Form) (letter : Char) : Text :=
  if letter ∈ pointLetters then form.padNumber form.sign (pointDigits form letter)
  else if letter = 'c' then form.pad ['\x00']
  else
    let base := if letter ∈ baseLetters ∧ form.isFull then ['0', letter] else []
    form.padNumber (form.sign ++ base) (zeros (max 1 (form.precision.getD 1)))

/-- The characters of a quoted text beyond ASCII as escapes. -/
def escapeBeyondAscii (text : Text) : Text :=
  text.flatMap fun c =>
    if c.toNat < 0x80 then [c]
    else if c.toNat < 0x100 then '\\' :: 'x' :: Text.hex 2 c.toNat
    else if c.toNat < 0x10000 then '\\' :: 'u' :: Text.hex 4 c.toNat
    else '\\' :: 'U' :: Text.hex 8 c.toNat

/-- A value in the form that a letter asks for. -/
def write (form : Form) (letter : Char) (value : Value) : Except TemplateError Text :=
  let cut (text : Text) : Text :=
    form.pad (match form.precision with | some n => text.take n | none => text)
  match letter with
  | 's' => .ok (cut value.plain)
  | 'r' => .ok (cut value.shown)
  | 'a' => .ok (cut (escapeBeyondAscii value.shown))
  | _ =>
    match value with
    | .no => .ok (zeroText form letter)
    | .text [c] =>
      if letter = 'c' then .ok (form.pad [c])
      else .error (.notNumber (numberMessage letter value.kind))
    | _ => .error (.notNumber (numberMessage letter value.kind))

/-- The text of a template that is read from a position on. `next` is the value of a form that
names none. -/
def fill (members : List (Text × Value)) : (fuel position : Nat) → (next : Option Value) →
    Text → Except TemplateError Text
  | fuel + 1, position, next, '%' :: '%' :: text =>
    (fill members fuel (position + 2) next text).map ('%' :: ·)
  | fuel + 1, position, next, '%' :: text => do
    let (form, next, rest) ← readForm members next text
    match rest with
    | [] => throw .unfinished
    | letter :: rest =>
      let position := position + (text.length - rest.length)
      match next with
      | none => throw .noValue
      | some value =>
        if letter ∈ letters then
          return (← write form letter value) ++ (← fill members fuel (position + 1) none rest)
        else throw (.unknownForm letter position)
  | fuel + 1, position, next, c :: text =>
    (fill members fuel (position + 1) next text).map (c :: ·)
  | _, _, _, text => .ok text

end Template

/-- A template with the values of its names in place. The first form that names no value stands
for all of them. -/
def fillTemplate (members : List (Text × Value)) (template : Text) :
    Except TemplateError Text :=
  Template.fill members template.length 0 (some (.record members)) template

end LuaMarkup.Command
