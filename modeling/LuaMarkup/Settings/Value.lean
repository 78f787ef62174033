import LuaMarkup.Binary
import LuaMarkup.Json
import LuaMarkup.Settings.Basic
import LuaMarkup.Text.Blank

/-!
Settings read from JSON values. A text is taken where a flag or a path is wanted, as it is all
that a variable can hold.
-/

namespace LuaMarkup

namespace Settings

/-- A name for a class: one word, without the blanks around it. -/
def readClass (text : Text) : Except Fault Text :=
  let word := Text.trim text
  if word = [] ∨ word.any Text.isBlank then .error .notOneWord else .ok word

/-- The ASCII letters in upper case. The dotless i has the upper case of the dotted one. -/
def upper (text : Text) : Text :=
  text.map fun c => if c = 'ı' then 'I' else c.toUpper

def readLevel (text : Text) : Except Fault Log.Level :=
  match Log.Level.ofName? (String.ofList (upper text)) with
  | some level => .ok level
  | none => .error .unknownLevel

def onWords : List String := ["1", "on", "t", "true", "y", "yes"]

def offWords : List String := ["0", "off", "f", "false", "n", "no"]

/-- The whole number that a number with a point is rounded to, if it is one. A number with more
than 400 zeros before its point is as large as any, and one that is less than two to the power of
-1100 rounds to zero. -/
def nearestWhole? (number : Json.Number) : Option Nat :=
  match number.exponent with
  | .ofNat zeros => Binary.nearestWhole? (number.digits * Nat.pow 10 (min zeros 400)) 1
  | .negSucc less =>
    if Nat.log2 number.digits + 1101 ≤ 3 * (less + 1) then some 0
    else Binary.nearestWhole? number.digits (Nat.pow 10 (less + 1))

/-- The size of a number and whether words of 64 bits hold it. The lowest of them is held as an
integer only. -/
def wholeValue? (number : Json.Number) : Option (Nat × Bool) :=
  if number.asInteger then
    some (number.digits, number.digits < 0x8000000000000000 ∨
      (number.negative ∧ number.digits = 0x8000000000000000))
  else (nearestWhole? number).map fun size => (size, size < 0x8000000000000000)

/-- A whole number is a flag if it is zero or one. -/
def readFlagNumber (number : Json.Number) : Except Fault Bool :=
  match wholeValue? number with
  | none => .error .notFlag
  | some (size, isHeld) =>
    if size = 0 then .ok false
    else if size = 1 ∧ !number.negative then .ok true
    else if isHeld then .error .unknownFlag
    else .error .notFlag

def readFlagWord (text : Text) : Except Fault Bool :=
  let word := String.ofList (Text.lowerAscii text)
  if word ∈ onWords then .ok true
  else if word ∈ offWords then .ok false
  else .error .unknownFlag

def readText : Json → Except Fault Text
  | .string text => .ok text
  | _ => .error .notText

def readFlag : Json → Except Fault Bool
  | .bool flag => .ok flag
  | .number n => readFlagNumber n
  | .string text => readFlagWord text
  | _ => .error .notFlag

def readFile : Json → Except Fault (Option FilePath)
  | .string text => .ok (some (.ofText text))
  | .null => .ok none
  | _ => .error .notPath

/-- The field of a name. A field that is not there has its default. -/
def field {α : Type} (members : List (Text × Json)) (name : String) (default : α)
    (read : Json → Except Fault α) : Checked α :=
  match members.find? (·.1 == name.toList) with
  | none => .ok default
  | some (_, value) => (read value).mapError fun fault => [{ location := [name], fault }]

end Settings

open Settings

def HighlightSettings.ofMembers (members : List (Text × Json)) : Checked HighlightSettings :=
  (Checked.both
    (field members "css_class" ({} : HighlightSettings).cssClass (readText · >>= readClass))
    (field members "trace" ({} : HighlightSettings).trace readFlag)).map
    fun (cssClass, trace) => { cssClass, trace }

def LogSettings.ofMembers (members : List (Text × Json)) : Checked LogSettings :=
  (Checked.both
    (field members "level" ({} : LogSettings).level (readText · >>= readLevel))
    (field members "file" ({} : LogSettings).file readFile)).map
    fun (level, file) => { level, file }

/-- A part of the settings under its name. Nothing given leaves all its defaults. -/
def Settings.ofPart {α : Type} (part : Part) (default : α)
    (read : List (Text × Json) → Checked α) : Option Json → Checked α
  | none => .ok default
  | some (.object members) => (read members).under part.name
  | some _ => .error [{ location := [part.name], fault := .notObject part }]

def Settings.ofParts (value : Part → Option Json) : Checked Settings :=
  (Checked.both
    (ofPart .highlight {} HighlightSettings.ofMembers (value .highlight))
    (ofPart .log {} LogSettings.ofMembers (value .log))).map
    fun (highlight, log) => { highlight, log }

end LuaMarkup
