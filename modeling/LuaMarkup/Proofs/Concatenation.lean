import LuaMarkup.Proofs.BottomUp

/-!
# Texts one behind the other

Only where the first of two texts ends in a sentinel and digits (`EndsOpen`) can a token lie across
the seam. Everywhere else the pieces of the whole are those of the first text and then those of
the second (`Piece.split_append`), so each is resolved on its own, failures included
(`resolve_append`).
-/

namespace LuaMarkup

/-- The text ends as a token begins, in a sentinel and decimal digits, if any. -/
def EndsOpen (text : Text) : Prop :=
  ∃ front digits, text = front ++ sentinel :: digits ∧ digits.all isDecimalDigit

namespace EndsOpen

theorem append_left (front : Text) (h : EndsOpen text) : EndsOpen (front ++ text) := by
  obtain ⟨before, digits, rfl, hdigits⟩ := h
  exact ⟨front ++ before, digits, (List.append_assoc ..).symm, hdigits⟩

theorem cons_iff : EndsOpen (c :: text) ↔
    (c = sentinel ∧ text.all isDecimalDigit) ∨ EndsOpen text := by
  constructor
  · rintro ⟨front, digits, heq, hdigits⟩
    cases front with
    | nil =>
      obtain ⟨rfl, rfl⟩ := List.cons.inj heq
      exact .inl ⟨rfl, hdigits⟩
    | cons d front =>
      obtain ⟨rfl, rfl⟩ := List.cons.inj heq
      exact .inr ⟨front, digits, rfl, hdigits⟩
  · rintro (⟨rfl, hdigits⟩ | h)
    · exact ⟨[], text, rfl, hdigits⟩
    · exact h.append_left [c]

instance decidable : (text : Text) → Decidable (EndsOpen text)
  | [] => .isFalse (by rintro ⟨front, digits, heq, -⟩; simp at heq)
  | _ :: text =>
    have := decidable text
    decidable_of_iff' _ cons_iff

end EndsOpen

-- ---------------------------------------------------------------------------
-- Pieces
-- ---------------------------------------------------------------------------

namespace Token

theorem read?_append {text : Text} (h : read? text = some (digits, after)) (back : Text) :
    read? (text ++ back) = some (digits, after ++ back) := by
  obtain ⟨hdigits, rfl⟩ := read?_eq_some_iff.mp h
  exact read?_eq_some_iff.mpr ⟨hdigits, List.append_assoc ..⟩

/-- What is written behind a text makes a token of its beginning only if the text ends open. -/
theorem read?_append_eq_none {text : Text} (hne : text ≠ []) (hopen : ¬EndsOpen text)
    (h : read? text = none) (back : Text) : read? (text ++ back) = none := by
  rw [Option.eq_none_iff_forall_ne_some]
  rintro ⟨digits, after⟩ hread
  obtain ⟨hdigits, heq⟩ := read?_eq_some_iff.mp hread
  rcases List.append_eq_append_iff.mp heq with ⟨taken, hspell, -⟩ | ⟨more, htext, -⟩
  · rcases List.eq_nil_or_concat taken with rfl | ⟨taken, last, rfl⟩
    -- the text ends with the token
    · have htext : text = spell digits ++ [] := by simpa using hspell.symm
      have := h.symm.trans (read?_eq_some_iff.mpr ⟨hdigits, htext⟩)
      cases this
    -- the text ends within the token
    · obtain ⟨c, rest, rfl⟩ := List.exists_cons_of_ne_nil hne
      rw [spell, List.cons_append, List.cons_append] at hspell
      obtain ⟨rfl, htail⟩ := List.cons.inj hspell
      have hconcat : digits ++ [terminator] = (rest ++ taken) ++ [last] := htail.trans (by simp)
      obtain ⟨rfl, -⟩ := List.append_inj' hconcat rfl
      exact hopen ⟨[], rest, rfl, List.all_eq_true.mpr fun d hd =>
        hdigits.2 d (List.mem_append_left _ hd)⟩
  -- the text goes on behind the token
  · have := h.symm.trans (read?_eq_some_iff.mpr ⟨hdigits, htext⟩)
    cases this

end Token

/-- No token lies across the seam behind a text that does not end open. -/
theorem Piece.split_append {front : Text} (h : ¬EndsOpen front) (back : Text) :
    split (front ++ back) = split front ++ split back := by
  fun_induction split front with
  | case1 => rfl
  | case2 c rest digits after hread _ ih =>
    have hafter : ¬EndsOpen after := fun hopen => h <| by
      rw [Token.eq_spell_of_read? hread]
      exact hopen.append_left _
    rw [split_of_read? (Token.read?_append hread back), ih hafter, List.cons_append]
  | case3 c rest hread ih =>
    have hrest : ¬EndsOpen rest := fun hopen => h (hopen.append_left [c])
    have hnone : Token.read? (c :: (rest ++ back)) = none :=
      Token.read?_append_eq_none (List.cons_ne_nil c rest) h hread back
    rw [List.cons_append, split_of_read?_eq_none hnone, ih hrest, List.cons_append]

-- ---------------------------------------------------------------------------
-- Resolution
-- ---------------------------------------------------------------------------

namespace Table

/-- Two texts, of which the first does not end open, are resolved each on its own: to the one
resolution behind the other, or to the first failure of the two, whatever room there is. -/
theorem resolve_append (table : Table) (room : Nat) {front : Text} (h : ¬EndsOpen front)
    (back : Text) :
    table.resolveWithin room (front ++ back) =
        inTurn (table.resolveWithin room front) (table.resolveWithin room back) ∧
      ((∃ e, table.resolveWithin room (front ++ back) = .error e) ↔
        (∃ e, table.resolveWithin room front = .error e) ∨
          ∃ e, table.resolveWithin room back = .error e) := by
  have hwhole : table.resolveWithin room (front ++ back) =
      inTurn (table.resolveWithin room front) (table.resolveWithin room back) := by
    rw [resolveWithin, Piece.split_append h, expand_append]
    rfl
  refine ⟨hwhole, ?_⟩
  rw [hwhole]
  cases table.resolveWithin room front with
  | error e => exact iff_of_true ⟨e, rfl⟩ (.inl ⟨e, rfl⟩)
  | ok head =>
    cases table.resolveWithin room back with
    | error e => exact iff_of_true ⟨e, rfl⟩ (.inr ⟨e, rfl⟩)
    | ok tail => exact iff_of_false nofun (by rintro (⟨_, ⟨⟩⟩ | ⟨_, ⟨⟩⟩))

/-- A digit across the seam comes too late for a token, and a failure behind the seam is one of
the whole: that a numeral is too long, or that there is no room. -/
theorem resolve_append_late :
    ¬EndsOpen "$0;$٠x".toList ∧
      (Table.mk #["a".toList]).resolveWithin 2 "$0;$٠x0;$0;".toList = .ok "a$٠x0;a".toList ∧
      (∃ e, (Table.mk #["a".toList]).resolveWithin 2
        ("$0;$٠x".toList ++ Token.spell (List.replicate (maxDigits + 1) '1')) = .error e) ∧
      ∃ e, (Table.mk #["a".toList]).resolveWithin 1 "$0;$٠x0;$0;".toList = .error e := by
  have hopen : ¬EndsOpen "$0;$٠x".toList := by decide
  have hlate := (resolve_append ⟨#["a".toList]⟩ 2 hopen "0;$0;".toList).1
  have hfront : (Table.mk #["a".toList]).resolveWithin 2 "$0;$٠x".toList = .ok "a$٠x".toList :=
    resolveWithin_of_length_le (by decide) (by decide) (by decide +kernel)
  have hback : (Table.mk #["a".toList]).resolveWithin 2 "0;$0;".toList = .ok "0;a".toList :=
    resolveWithin_of_length_le (by decide) (by decide) (by decide +kernel)
  rw [hfront, hback] at hlate
  have hlong : (Table.mk #["a".toList]).resolveWithin 2
      (Token.spell (List.replicate (maxDigits + 1) '1')) =
        .error (.tooManyDigits ⟨maxDigits + 1⟩) := by
    have hdigits : ∀ c ∈ List.replicate (maxDigits + 1) '1', isDecimalDigit c := fun c hc => by
      rw [List.eq_of_mem_replicate hc]
      decide
    rw [resolveWithin, Piece.split_spell (by simp) hdigits, expand_token_of_error
      (readNumeral_of_lt (by rw [List.length_replicate]; exact Nat.lt_succ_self _)),
      List.length_replicate]
  have hdeep : (Table.mk #["a".toList]).resolveWithin 1 "0;$0;".toList = .error .tooDeep :=
    resolveWithin_of_length_le (by decide) (by decide) (by decide +kernel)
  exact ⟨hopen, hlate, (resolve_append _ 2 hopen _).2.mpr (.inr ⟨_, hlong⟩),
    (resolve_append _ 1 hopen "0;$0;".toList).2.mpr (.inr ⟨_, hdeep⟩)⟩

end Table

/-- A digit in time makes a token of two texts that hold none. -/
example : Piece.split ("$".toList ++ "0;".toList) = [.token ['0']] ∧
    Piece.split "$".toList ++ Piece.split "0;".toList = [.char '$', .char '0', .char ';'] := by
  decide +kernel

end LuaMarkup
