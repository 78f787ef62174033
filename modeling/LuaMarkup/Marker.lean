import LuaMarkup.Decimal

/-!
Markers stand in a printed page for the markup of the chosen elements. A marker is
`LUALIGHT`, a nonce, `x`, a decimal index and `ENDLUA`. The nonce is one whose opening does not
occur in the page, so that text of the page is not taken for a marker.
-/

namespace LuaMarkup

/-- Why a marker has no markup. -/
inductive SpliceError where
  | tooManyDigits (cause : TooManyDigits)
  | tooLarge
  | outOfRange
deriving DecidableEq, Repr

def SpliceError.message : SpliceError → String
  | .tooManyDigits cause => cause.message
  | .tooLarge => "cannot fit 'int' into an index-sized integer"
  | .outOfRange => "list index out of range"

namespace Marker

def opening (nonce : Text) : Text :=
  "LUALIGHT".toList ++ nonce ++ ['x']

def closing : Text := "ENDLUA".toList

def write (nonce : Text) (index : Nat) : Text :=
  opening nonce ++ Nat.toDigits 10 index ++ closing

/-- A nonce is free on a page if no marker with it can be part of the page. -/
def isFree (page nonce : Text) : Bool :=
  !Text.hasPart (opening nonce) page

/-- The first free nonce from the draw numbered `drawn` on, with the number of draws made up to
it; at most `fuel` more draws are made. -/
def search (nonces : Nat → Text) (page : Text) : (fuel drawn : Nat) → Option (Text × Nat)
  | 0, _ => none
  | fuel + 1, drawn =>
    if isFree page (nonces drawn) then some (nonces drawn, drawn + 1)
    else search nonces page fuel (drawn + 1)

/-- The first nonce that is free on the page, with the number of draws. Each nonce that is not
free occurs at a place of its own, so distinct nonces are exhausted by no page. -/
def freeNonce? (nonces : Nat → Text) (page : Text) : Option (Text × Nat) :=
  search nonces page (page.length + 1) 0

/-- The digits of the marker at the start of a text, and what follows the marker. -/
def read? (nonce text : Text) : Option (Text × Text) := do
  let rest ← Text.after? (opening nonce) text
  let digits := rest.takeWhile isDecimalDigit
  if digits.isEmpty then none
  else
    let after ← Text.after? closing (rest.dropWhile isDecimalDigit)
    return (digits, after)

theorem length_lt_of_read? {nonce text digits after : Text}
    (h : read? nonce text = some (digits, after)) : after.length < text.length := by
  simp only [read?, Option.bind_eq_bind, Option.bind_eq_some_iff] at h
  obtain ⟨rest, hrest, h⟩ := h
  split at h
  · cases h
  · obtain ⟨tail, htail, heq⟩ := Option.bind_eq_some_iff.mp h
    obtain ⟨-, rfl⟩ := Prod.mk.inj (Option.some.inj heq)
    have h₁ := Text.length_after?_le hrest
    have h₂ := Text.length_after?_le htail
    have h₃ : closing.length = 6 := rfl
    have h₄ := (List.dropWhile_sublist (p := isDecimalDigit) (l := rest)).length_le
    omega

/-- The number up to which a list can be indexed. No list is longer. -/
def maxIndex : Nat := 0x7fffffffffffffff

def markup (markups : Array Text) (digits : Text) : Except SpliceError Text :=
  match readNumeral digits with
  | .error cause => .error (.tooManyDigits cause)
  | .ok index =>
    match markups[index]? with
    | some found => .ok found
    | none => .error (if maxIndex < index then .tooLarge else .outOfRange)

/-- The text with each marker replaced by its markup, which is not searched again. -/
def splice (markups : Array Text) (nonce text : Text) : Except SpliceError Text :=
  match text with
  | [] => .ok []
  | c :: tail =>
    match h : read? nonce (c :: tail) with
    | some (digits, after) => do
      have := length_lt_of_read? h
      let head ← markup markups digits
      let rest ← splice markups nonce after
      return head ++ rest
    | none => do
      let rest ← splice markups nonce tail
      return c :: rest
termination_by text.length
decreasing_by all_goals simp only [List.length_cons] at *; omega

end Marker
end LuaMarkup
