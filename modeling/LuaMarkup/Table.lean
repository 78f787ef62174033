import LuaMarkup.Category
import LuaMarkup.Token

/-!
The table that tokens point into. Indices are handed out from zero upwards and never again.
A stored text is expanded under its own index as the limit, so each step of an expansion goes
to a smaller index and every expansion ends, whatever the texts say. Texts are expanded by calls
inside of one another, for which there is room only so deep.
-/

namespace LuaMarkup

structure Table where
  entries : Array Text
deriving DecidableEq, Repr

/-- Why a text is not resolved. -/
inductive ResolveError where
  | tooManyDigits (cause : TooManyDigits)
  /-- There is no room for another call. -/
  | tooDeep
deriving DecidableEq, Repr

def ResolveError.message : ResolveError → String
  | .tooManyDigits cause => cause.message
  | .tooDeep => "maximum recursion depth exceeded"

namespace Table

def empty : Table := ⟨#[]⟩

def size (table : Table) : Nat := table.entries.size

def get? (table : Table) (index : Nat) : Option Text := table.entries[index]?

def contains (table : Table) (index : Nat) : Bool := index < table.size

/-- The table with the texts stored in turn under the next free indices. -/
def append (table : Table) (texts : List Text) : Table := ⟨table.entries ++ texts⟩

/-- Stores a text as it is and gives its token. -/
def suspend (table : Table) (text : Text) : Text × Table :=
  (Token.write table.size, table.append [text])

/-- Stores a text in the markup of a category and gives its token. -/
def wrap (table : Table) (category : Category) (text : Text) : Text × Table :=
  table.suspend (category.wrap text)

/-- Stores a text in the markup of the category of a name. -/
def wrapNamed (table : Table) (name text : Text) : Except UnknownCategory (Text × Table) :=
  match Category.ofName? (String.ofList name) with
  | some category => .ok (table.wrap category text)
  | none => .error { name }

/-- The room left inside of a call, where `room` more calls can be open at a time. -/
def enter : (room : Nat) → Except ResolveError Nat
  | 0 => .error .tooDeep
  | room + 1 => .ok room

/-- Each token of an index below `limit` gives way to the expansion of its stored text; any
other token stays as it is written. What is put in is not searched for tokens again. A token is
looked up in a call, and its stored text expanded in a call inside of that one. -/
def expand (table : Table) (room limit : Nat) (pieces : List Piece) : Except ResolveError Text :=
  match pieces with
  | [] => .ok []
  | .char c :: rest => do
    let tail ← table.expand room limit rest
    return c :: tail
  | .token digits :: rest => do
    let inside ← enter room
    let index ← (readNumeral digits).mapError .tooManyDigits
    let head ←
      if index < limit then
        match table.get? index with
        | some stored => do
          let below ← enter inside
          table.expand below index (Piece.split stored)
        | none => pure (Token.spell digits)
      else pure (Token.spell digits)
    let tail ← table.expand room limit rest
    return head ++ tail
termination_by (limit, pieces.length)

/-- The text with every token of the table replaced by its markup, with room for that many more
calls. -/
def resolveWithin (table : Table) (room : Nat) (text : Text) : Except ResolveError Text :=
  table.expand room table.size (Piece.split text)

/-- The calls that there is room for near the start of a program. A thousand can be open at a
time, and a few of them are. -/
def callRoom : Nat := 990

def resolve (table : Table) (text : Text) : Except ResolveError Text :=
  table.resolveWithin callRoom text

end Table
end LuaMarkup
