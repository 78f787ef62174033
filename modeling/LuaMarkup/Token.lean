import LuaMarkup.Decimal

/-!
Tokens stand in the working text for markup that is parked in a table. A token is written as
`$`, a decimal index and `;`. Any run of decimal digits between the two marks is read as one.
-/

namespace LuaMarkup

def sentinel : Char := '$'

def terminator : Char := ';'

namespace Token

/-- The token with these digits as written. -/
def spell (digits : Text) : Text :=
  sentinel :: digits ++ [terminator]

def write (index : Nat) : Text :=
  spell (Nat.toDigits 10 index)

/-- The digits of the token at the start of a text, and what follows the token. -/
def read? : Text → Option (Text × Text)
  | [] => none
  | c :: rest =>
    if c = sentinel then
      match rest.takeWhile isDecimalDigit, rest.dropWhile isDecimalDigit with
      | digit :: digits, d :: after =>
        if d = terminator then some (digit :: digits, after) else none
      | _, _ => none
    else none

theorem eq_spell_of_read? {text digits after : Text} (h : read? text = some (digits, after)) :
    text = spell digits ++ after := by
  unfold read? at h
  split at h
  · cases h
  · rename_i c rest
    split at h
    · rename_i hc
      split at h
      · rename_i hd hr
        split at h
        · rename_i ht
          obtain ⟨rfl, rfl⟩ := Prod.mk.inj (Option.some.inj h)
          rw [hc, ← List.takeWhile_append_dropWhile (p := isDecimalDigit) (l := rest), hd, hr, ht]
          simp [spell]
        · cases h
      · cases h
    · cases h

theorem length_lt_of_read? {text digits after : Text} (h : read? text = some (digits, after)) :
    after.length < text.length := by
  rw [eq_spell_of_read? h]
  simp [spell]
  omega

end Token

/-- A text falls into characters and tokens. -/
inductive Piece where
  | char (c : Char)
  | token (digits : Text)
deriving DecidableEq, Repr

namespace Piece

def spell : Piece → Text
  | .char c => [c]
  | .token digits => Token.spell digits

/-- The pieces of a text, each token taken at the leftmost place where one starts. -/
def split (text : Text) : List Piece :=
  match text with
  | [] => []
  | c :: rest =>
    match h : Token.read? (c :: rest) with
    | some (digits, after) =>
      have := Token.length_lt_of_read? h
      .token digits :: split after
    | none => .char c :: split rest
termination_by text.length
decreasing_by all_goals simp only [List.length_cons] at *; omega

/-- Splitting loses nothing. -/
theorem flatMap_spell_split (text : Text) : (split text).flatMap spell = text := by
  fun_induction split text with
  | case1 => rfl
  | case2 c rest digits after h _ ih =>
    rw [List.flatMap_cons, ih, Token.eq_spell_of_read? h]
    rfl
  | case3 c rest h ih => simp [ih, spell]

/-- The places and digits of the tokens of a text; places count characters from `start`. -/
def tokens (start : Nat) : List Piece → List (Nat × Text)
  | [] => []
  | .char _ :: rest => tokens (start + 1) rest
  | .token digits :: rest =>
    (start, digits) :: tokens (start + (Token.spell digits).length) rest

end Piece
end LuaMarkup
