import LuaMarkup.Text.Quoted

/-!
The bytes of a text, and the text of bytes. Bytes that are no text are refused at the first
place where no character can be read.
-/

namespace LuaMarkup.Text

def toBytes (text : Text) : List UInt8 :=
  text.flatMap String.utf8EncodeChar

inductive Utf8Fault where
  /-- No character starts with the byte. -/
  | start
  /-- A byte is missing that goes on with the character. -/
  | continuation
  /-- The bytes end within a character. -/
  | ending
deriving DecidableEq, Repr

def Utf8Fault.message : Utf8Fault → String
  | .start => "invalid start byte"
  | .continuation => "invalid continuation byte"
  | .ending => "unexpected end of data"

/-- The bytes that are no character: the position of the first, and how many they are. -/
structure Utf8Error where
  fault : Utf8Fault
  position : Nat
  first : UInt8
  count : Nat
deriving DecidableEq, Repr

def Utf8Error.message (e : Utf8Error) : String :=
  let where_ :=
    if e.count = 1 then
      s!"byte 0x{String.ofList (hex 2 e.first.toNat)} in position {e.position}"
    else s!"bytes in position {e.position}-{e.position + e.count - 1}"
  s!"'utf-8' codec can't decode {where_}: {e.fault.message}"

/-- The range of the second byte of a character with a first byte, and how many bytes follow
the first. -/
def follow? (first : Nat) : Option (Nat × Nat × Nat) :=
  if 0xc2 ≤ first ∧ first ≤ 0xdf then some (0x80, 0xbf, 1)
  else if first = 0xe0 then some (0xa0, 0xbf, 2)
  else if first = 0xed then some (0x80, 0x9f, 2)
  else if 0xe1 ≤ first ∧ first ≤ 0xef then some (0x80, 0xbf, 2)
  else if first = 0xf0 then some (0x90, 0xbf, 3)
  else if 0xf1 ≤ first ∧ first ≤ 0xf3 then some (0x80, 0xbf, 3)
  else if first = 0xf4 then some (0x80, 0x8f, 3)
  else none

/-- The bits that a first byte has of its character. -/
def leadBits (first : Nat) : Nat :=
  if first < 0xe0 then first - 0xc0 else if first < 0xf0 then first - 0xe0 else first - 0xf0

/-- The continuation of a character of which `value` has been read, by `count` more bytes, the
first of them in a range. A failure has the number of bytes that did fit. -/
def continueChar (value low high : Nat) : (count : Nat) → List UInt8 →
    Except (Utf8Fault × Nat) Nat
  | 0, _ => .ok value
  | _ + 1, [] => .error (.ending, 0)
  | count + 1, byte :: rest =>
    if low ≤ byte.toNat ∧ byte.toNat ≤ high then
      (continueChar (64 * value + (byte.toNat - 0x80)) 0x80 0xbf count rest).mapError
        fun (fault, fitting) => (fault, fitting + 1)
    else .error (.continuation, 0)

/-- The character at the start of bytes, and the number of its bytes after the first. -/
def readChar (first : UInt8) (rest : List UInt8) : Except (Utf8Fault × Nat) (Char × Nat) :=
  if first < 0x80 then .ok (Char.ofNat first.toNat, 0)
  else
    match follow? first.toNat with
    | none => .error (.start, 0)
    | some (low, high, count) =>
      (continueChar (leadBits first.toNat) low high count rest).map
        fun value => (Char.ofNat value, count)

/-- The text of bytes from a position on, of which `skip` belong to a character already read. -/
def ofBytesFrom (position skip : Nat) : List UInt8 → Except Utf8Error Text
  | [] => .ok []
  | first :: rest =>
    match skip with
    | skip + 1 => ofBytesFrom (position + 1) skip rest
    | 0 =>
      match readChar first rest with
      | .ok (c, count) => (ofBytesFrom (position + 1) count rest).map (c :: ·)
      | .error (fault, fitting) => .error { fault, position, first, count := fitting + 1 }

def ofBytes (bytes : List UInt8) : Except Utf8Error Text :=
  ofBytesFrom 0 0 bytes

end LuaMarkup.Text
