import LuaMarkup.Marker
import LuaMarkup.Proofs.Token

/-!
# Markers found in a text

`Text.hasPart_iff` and `Marker.read?_eq_some_iff` say what is searched for. A character that no
marker has parts a text in two that are spliced one by one (`splice_append_cons`), a written
marker gives way to the markup of its index (`splice_write_append`), and a text that holds no
marker stays as it is (`splice_of_not_holdsMarker`).
-/

namespace LuaMarkup

namespace Text

theorem after?_eq_some_iff : after? start text = some rest ↔ text = start ++ rest := by
  induction start generalizing text with
  | nil => simp [after?]
  | cons c start ih =>
    cases text with
    | nil => simp [after?]
    | cons d text =>
      by_cases hc : c = d
      · simp [after?, hc, ih]
      · simp [after?, hc, Ne.symm hc]

theorem hasPart_iff : hasPart part text ↔ part <:+: text := by
  induction text with
  | nil => cases part <;> simp [hasPart, after?]
  | cons c text ih =>
    rw [hasPart, Bool.or_eq_true, ih, List.infix_cons_iff, Option.isSome_iff_exists]
    refine or_congr_left (exists_congr fun rest => ?_)
    rw [after?_eq_some_iff, eq_comm]

end Text

namespace Marker

variable {nonce text : Text} {markups : Array Text} {c : Char}

/-- The marker with these digits as written. -/
def spell (nonce digits : Text) : Text := opening nonce ++ digits ++ closing

theorem isFree_iff : isFree page nonce ↔ ¬opening nonce <:+: page := by
  rw [isFree, Bool.not_eq_true', ← Bool.not_eq_true, Text.hasPart_iff]

-- ---------------------------------------------------------------------------
-- Reading
-- ---------------------------------------------------------------------------

/-- Digits that a marker can have. -/
def IsNumeral (digits : Text) : Prop := digits ≠ [] ∧ ∀ c ∈ digits, isDecimalDigit c

theorem isNumeral_toDigits (index : Nat) : IsNumeral (Nat.toDigits 10 index) :=
  ⟨Nat.toDigits_ne_nil, fun _ hc => isDecimalDigit_of_isDigit (isDigit_of_mem_toDigits hc)⟩

theorem takeWhile_append_closing {digits : Text} (h : ∀ c ∈ digits, isDecimalDigit c)
    (after : Text) : (digits ++ (closing ++ after)).takeWhile isDecimalDigit = digits ∧
      (digits ++ (closing ++ after)).dropWhile isDecimalDigit = closing ++ after := by
  have hclosing : closing = 'E' :: closing.tail := rfl
  have hletter : ¬isDecimalDigit 'E' := by decide
  rw [List.takeWhile_append_of_pos h, List.dropWhile_append_of_pos h, hclosing, List.cons_append,
    List.takeWhile_cons_of_neg hletter, List.dropWhile_cons_of_neg hletter, List.append_nil]
  exact ⟨rfl, rfl⟩

/-- A marker is read where one is written. -/
theorem read?_eq_some_iff : read? nonce text = some (digits, after) ↔
    IsNumeral digits ∧ text = spell nonce digits ++ after := by
  simp only [read?, Option.bind_eq_bind, Option.bind_eq_some_iff, Text.after?_eq_some_iff]
  constructor
  · rintro ⟨rest, rfl, h⟩
    split at h
    · cases h
    · rename_i hne
      obtain ⟨after', hafter, heq⟩ := Option.bind_eq_some_iff.mp h
      obtain ⟨rfl, rfl⟩ := Prod.mk.inj (Option.some.inj heq)
      refine ⟨⟨by simpa using hne, fun c hc => List.mem_takeWhile_imp hc⟩, ?_⟩
      rw [spell, List.append_assoc, List.append_assoc, ← Text.after?_eq_some_iff.mp hafter,
        List.takeWhile_append_dropWhile]
  · rintro ⟨⟨hne, hdigits⟩, rfl⟩
    obtain ⟨htake, hdrop⟩ := takeWhile_append_closing hdigits after
    refine ⟨digits ++ (closing ++ after), by simp [spell], ?_⟩
    rw [htake, hdrop, if_neg (by simpa using hne), Text.after?_eq_some_iff.mpr rfl]
    rfl

theorem read?_write_append (nonce : Text) (index : Nat) (rest : Text) :
    read? nonce (write nonce index ++ rest) = some (Nat.toDigits 10 index, rest) :=
  read?_eq_some_iff.mpr ⟨isNumeral_toDigits index, rfl⟩

/-- A character that is in no marker with the nonce. -/
structure Parts (nonce : Text) (c : Char) : Prop where
  opening : c ∉ opening nonce
  digit : ¬isDecimalDigit c
  closing : c ∉ closing

theorem Parts.notMem_spell (h : Parts nonce c) (hdigits : IsNumeral digits) :
    c ∉ spell nonce digits := by
  simp only [spell, List.mem_append, not_or]
  exact ⟨⟨h.opening, fun hc => h.digit (hdigits.2 c hc)⟩, h.closing⟩

/-- A marker that starts before a character which is in no marker ends before it. -/
theorem read?_append_cons (h : Parts nonce c) (front back : Text) :
    read? nonce (front ++ c :: back) =
      (read? nonce front).map fun (digits, after) => (digits, after ++ c :: back) := by
  apply Option.ext
  rintro ⟨digits, after⟩
  simp only [Option.map_eq_some_iff, Prod.exists, Prod.mk.injEq, read?_eq_some_iff]
  constructor
  · rintro ⟨hdigits, heq⟩
    rcases List.append_eq_append_iff.mp heq with ⟨t, hspell, hback⟩ | ⟨t, rfl, rfl⟩
    · cases t with
      | nil => exact ⟨digits, [], ⟨hdigits, by simpa using hspell.symm⟩, rfl, by simpa using hback⟩
      | cons d t =>
        obtain ⟨rfl, -⟩ := List.cons.inj hback
        exact absurd (by simp [hspell]) (h.notMem_spell hdigits)
    · exact ⟨digits, t, ⟨hdigits, rfl⟩, rfl, rfl⟩
  · rintro ⟨digits', after', ⟨hdigits, hfront⟩, hdigits', hafter⟩
    subst hfront hdigits' hafter
    exact ⟨hdigits, by rw [List.append_assoc]⟩

-- ---------------------------------------------------------------------------
-- Splicing
-- ---------------------------------------------------------------------------

theorem splice_nil : splice markups nonce [] = .ok [] := by
  rw [splice]

theorem splice_of_read? (h : read? nonce text = some (digits, after)) :
    splice markups nonce text = do
      let head ← markup markups digits
      let rest ← splice markups nonce after
      return head ++ rest := by
  fun_cases splice markups nonce text with
  | case1 => cases h
  | case2 c tail digits' after' h' =>
    obtain ⟨rfl, rfl⟩ := Prod.mk.inj (Option.some.inj (h.symm.trans h'))
    rfl
  | case3 c tail h' => simp [h'] at h

theorem splice_cons (h : read? nonce (c :: rest) = none) :
    splice markups nonce (c :: rest) = do
      let rest ← splice markups nonce rest
      return c :: rest := by
  rw [splice]
  split
  · rename_i hsome
    simp [h] at hsome
  · rfl

/-- A character that is in no marker parts a text. -/
theorem splice_append_cons (h : Parts nonce c) (front back : Text) :
    splice markups nonce (front ++ c :: back) = do
      let front ← splice markups nonce front
      let back ← splice markups nonce back
      return front ++ c :: back := by
  fun_induction splice markups nonce front with
  | case1 =>
    have hnone : read? nonce (c :: back) = none := by
      rw [← List.nil_append (c :: back), read?_append_cons h]
      rfl
    rw [List.nil_append, splice_cons hnone]
    cases splice markups nonce back <;> rfl
  | case2 d tail digits after hread _ ih =>
    have hread' : read? nonce (d :: tail ++ c :: back) = some (digits, after ++ c :: back) := by
      rw [read?_append_cons h, hread]
      rfl
    rw [splice_of_read? hread', ih]
    simp only [bind_assoc, pure_bind, List.append_assoc]
  | case3 d tail hread ih =>
    have hread' : read? nonce (d :: (tail ++ c :: back)) = none := by
      rw [← List.cons_append, read?_append_cons h, hread]
      rfl
    rw [List.cons_append, splice_cons hread', ih]
    simp only [bind_assoc, pure_bind, List.cons_append]

/-- A written marker gives way to the markup of its index. -/
theorem splice_write_append (hindex : index < 10 ^ maxDigits)
    (hfound : markups[index]? = some found) (rest : Text) :
    splice markups nonce (write nonce index ++ rest) = do
      let rest ← splice markups nonce rest
      return found ++ rest := by
  rw [splice_of_read? (read?_write_append nonce index rest), markup,
    readNumeral_toDigits hindex]
  simp only [hfound]
  rfl

theorem splice_write (hindex : index < 10 ^ maxDigits) (hfound : markups[index]? = some found) :
    splice markups nonce (write nonce index) = .ok found := by
  have happend : splice markups nonce (write nonce index ++ []) = _ :=
    splice_write_append hindex hfound []
  rw [List.append_nil, splice_nil] at happend
  exact happend.trans (congrArg Except.ok (List.append_nil found))

/-- Somewhere in the text a marker with the nonce is written. -/
def HoldsMarker (nonce text : Text) : Prop :=
  ∃ digits, IsNumeral digits ∧ spell nonce digits <:+: text

theorem HoldsMarker.mono (h : HoldsMarker nonce text) (htext : text <:+: text') :
    HoldsMarker nonce text' := by
  obtain ⟨digits, hdigits, hspell⟩ := h
  exact ⟨digits, hdigits, hspell.trans htext⟩

theorem not_holdsMarker_of_isFree (h : isFree text nonce) : ¬HoldsMarker nonce text := by
  rintro ⟨digits, -, hspell⟩
  have hopening : opening nonce <:+: spell nonce digits :=
    (List.prefix_append_of_prefix (List.prefix_append ..)).isInfix
  exact isFree_iff.mp h (hopening.trans hspell)

theorem splice_of_not_holdsMarker (h : ¬HoldsMarker nonce text) :
    splice markups nonce text = .ok text := by
  fun_induction splice markups nonce text with
  | case1 => rfl
  | case2 c tail digits after hread =>
    obtain ⟨hdigits, htext⟩ := read?_eq_some_iff.mp hread
    exact absurd ⟨digits, hdigits, htext ▸ (List.prefix_append ..).isInfix⟩ h
  | case3 c tail _ ih =>
    rw [ih fun hholds => h (hholds.mono (List.suffix_cons c tail).isInfix)]
    rfl

-- ---------------------------------------------------------------------------
-- Nonces of letters and digits
-- ---------------------------------------------------------------------------

theorem isAlphanum_of_mem_opening (hnonce : ∀ c ∈ nonce, c.isAlphanum) (hc : c ∈ opening nonce) :
    c.isAlphanum := by
  have hletters : "LUALIGHT".toList.all Char.isAlphanum = true := by decide
  unfold opening at hc
  rw [List.mem_append, List.mem_append, List.mem_singleton] at hc
  rcases hc with (hc | hc) | rfl
  · exact List.all_eq_true.mp hletters c hc
  · exact hnonce c hc
  · decide

theorem isAlphanum_of_mem_write (hnonce : ∀ c ∈ nonce, c.isAlphanum)
    (hc : c ∈ write nonce index) : c.isAlphanum := by
  have hletters : closing.all Char.isAlphanum = true := by decide
  simp only [write, List.mem_append] at hc
  rcases hc with (hc | hc) | hc
  · exact isAlphanum_of_mem_opening hnonce hc
  · rw [Char.isAlphanum, isDigit_of_mem_toDigits hc, Bool.or_true]
  · exact List.all_eq_true.mp hletters c hc

/-- The angles of a tag part a page. -/
theorem parts_angle (hnonce : ∀ c ∈ nonce, c.isAlphanum) (hc : c = '<' ∨ c = '>') :
    Parts nonce c := by
  have hangle : ¬c.isAlphanum ∧ ¬isDecimalDigit c ∧ c ∉ closing := by
    rcases hc with rfl | rfl <;> decide
  exact ⟨fun h => hangle.1 (isAlphanum_of_mem_opening hnonce h), hangle.2.1, hangle.2.2⟩

end Marker
end LuaMarkup
