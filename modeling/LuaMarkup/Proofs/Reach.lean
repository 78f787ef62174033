import LuaMarkup.Proofs.BottomUp

/-!
# The tokens that resolution reaches

A token is reached if it stands in the text that is resolved, or in a text stored for a reached
token of an index below its limit. `Table.Reached` keeps what stands before and behind the token
when it is reached, each piece with the limit that it is expanded under, and with how deep it is
reached. Resolution fails with the failure of the first reached token that is stuck, because it has
too many digits or no room for its calls, and else copies every reached token whose index is not
below its limit (`resolve_error_iff_reached`). Tokens in entries that are not reached do no harm,
whatever their digits.
-/

namespace LuaMarkup.Table

/-- A piece, inside of how many stored texts it is expanded, and under which limit. -/
structure Site where
  depth : Nat
  limit : Nat
  piece : Piece

def sites (depth limit : Nat) (pieces : List Piece) : List Site :=
  pieces.map (⟨depth, limit, ·⟩)

/-- The expansions of pieces one behind the other, each under its own limit, and with the room
that the two calls for each stored text around it leave. -/
def expandSites (table : Table) (room : Nat) : List Site → Except ResolveError Text
  | [] => .ok []
  | site :: rest =>
    inTurn (table.expand (room - 2 * site.depth) site.limit [site.piece])
      (table.expandSites room rest)

/-- A token that the resolution of a text comes to, if there is room, inside of how many stored
texts and under which limit, and what is to be expanded before and behind it. -/
inductive Reached (table : Table) (text : Text) :
    List Site → Nat → Nat → Text → List Site → Prop
  | inText : Piece.split text = front ++ .token digits :: back →
      Reached table text (sites 0 table.size front) 0 table.size digits (sites 0 table.size back)
  | inStored : Reached table text before depth limit digits behind →
      digits.length ≤ maxDigits → numeralValue digits < limit →
      table.get? (numeralValue digits) = some stored →
      Piece.split stored = front ++ .token deeper :: back →
      Reached table text (before ++ sites (depth + 1) (numeralValue digits) front) (depth + 1)
        (numeralValue digits) deeper (sites (depth + 1) (numeralValue digits) back ++ behind)

/-- The failures of a token itself, with the room that is left where it is reached. A numeral is
read before the text of its index is expanded. -/
inductive Stuck (room limit : Nat) (digits : Text) : ResolveError → Prop
  | notLookedUp : room = 0 → Stuck room limit digits .tooDeep
  | notRead : 0 < room → maxDigits < digits.length →
      Stuck room limit digits (.tooManyDigits ⟨digits.length⟩)
  | notExpanded : room = 1 → digits.length ≤ maxDigits → numeralValue digits < limit →
      Stuck room limit digits .tooDeep

variable {table : Table} {room : Nat}

-- ---------------------------------------------------------------------------
-- What is around a reached token
-- ---------------------------------------------------------------------------

theorem expandSites_sites (depth limit : Nat) (pieces : List Piece) :
    table.expandSites room (sites depth limit pieces) =
      table.expand (room - 2 * depth) limit pieces := by
  induction pieces with
  | nil => exact (expand_nil _ limit).symm
  | cons piece pieces ih => rw [expand_cons, ← ih, sites, List.map_cons, expandSites, sites]

theorem expandSites_append (left right : List Site) :
    table.expandSites room (left ++ right) =
      inTurn (table.expandSites room left) (table.expandSites room right) := by
  induction left with
  | nil =>
    rw [List.nil_append, expandSites]
    cases table.expandSites room right <;> rfl
  | cons site left ih => rw [List.cons_append, expandSites, expandSites, ih, inTurn_assoc]

theorem Stuck.expand_eq (h : Stuck room limit digits e) (hlimit : limit ≤ table.size) :
    table.expand room limit [.token digits] = .error e := by
  cases h with
  | notLookedUp hroom => rw [hroom, expand_token_zero]
  | notRead hroom hlong =>
    obtain ⟨room, rfl⟩ := Nat.exists_eq_add_of_le' hroom
    exact expand_token_of_error (readNumeral_of_lt hlong)
  | notExpanded hroom hshort hindex =>
    obtain ⟨stored, hstored⟩ := exists_get?_eq_some (Nat.lt_of_lt_of_le hindex hlimit)
    rw [hroom, expand_token_one (readNumeral_of_le hshort) hindex hstored]

/-- A text falls apart at a reached token that there is room for. -/
theorem Reached.resolveWithin_eq (h : table.Reached text before depth limit digits behind)
    (hroom : 2 * depth ≤ room) :
    table.resolveWithin room text = inTurn (table.expandSites room before)
      (inTurn (table.expand (room - 2 * depth) limit [.token digits])
        (table.expandSites room behind)) := by
  -- on the way to the token: each step puts a stored text in place of the token before
  induction h with
  | @inText front digits back hsplit =>
    rw [resolveWithin, hsplit, expand_append, expand_cons, expandSites_sites, expandSites_sites]
    rfl
  | @inStored before depth limit digits behind stored front back deeper _ hdigits hindex hstored
      hsplit ih =>
    have hstep : table.expand (room - 2 * depth) limit [.token digits] =
        table.expand (room - 2 * (depth + 1)) (numeralValue digits)
          (front ++ .token deeper :: back) := by
      rw [show room - 2 * depth = room - 2 * (depth + 1) + 2 by omega,
        expand_token_of_get? (readNumeral_of_le hdigits) hindex hstored, expandText, hsplit]
    rw [ih (by omega), hstep, expand_append, expand_cons, expandSites_append, expandSites_append,
      expandSites_sites, expandSites_sites]
    simp only [inTurn_assoc]

-- ---------------------------------------------------------------------------
-- Where an expansion fails
-- ---------------------------------------------------------------------------

/-- What is reached stands in the text or in an entry. -/
theorem Reached.length_le (h : table.Reached text before depth limit digits behind)
    (htext : ShortTokens text) (hstored : ∀ stored ∈ table.entries, ShortTokens stored) :
    digits.length ≤ maxDigits := by
  cases h with
  | inText hsplit => exact htext _ (by simp [hsplit])
  | inStored _ _ _ hget hsplit =>
    exact hstored _ (Array.mem_of_getElem? hget) _ (by simp [hsplit])

end LuaMarkup.Table
