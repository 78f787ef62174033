import Mathlib
import LuaMarkup.Token

/-!
# Tokens read back

`read?_spell`: a token is read where one is spelled, whatever follows it. `read?_write` is the
case of the token that is written for an index, and `readNumeral_toDigits` reads its digits as
the index, if there are few enough of them.
`split_write_append` and `split_cons` say how a text falls into pieces, one piece at a time.
-/

namespace LuaMarkup

theorem digitValue?_of_isDigit {c : Char} (h : c.isDigit) :
    digitValue? c = some (c.toNat - '0'.toNat) := by
  have hbounds : '0'.toNat ≤ c.toNat ∧ c.toNat ≤ '9'.toNat := by
    simpa [Char.isDigit, UInt32.le_iff_toNat_le] using h
  have hfirst : ((0x30 : Nat) ≤ c.toNat && c.toNat < 0x30 + 10) = true := by
    have h₀ : '0'.toNat = 0x30 := rfl
    have h₉ : '9'.toNat = 0x39 := rfl
    simp only [Bool.and_eq_true, decide_eq_true_eq]
    omega
  have hzeros : decimalZeros = 0x30 :: decimalZeros.tail := rfl
  rw [digitValue?, hzeros, List.find?_cons]
  simp only [hfirst, Option.map_some]
  rfl

theorem isDecimalDigit_of_isDigit {c : Char} (h : c.isDigit) : isDecimalDigit c := by
  simp [isDecimalDigit, digitValue?_of_isDigit h]

theorem foldl_digitValue? {digits : Text} (h : ∀ c ∈ digits, c.isDigit) (value : Nat) :
    digits.foldl (fun value c => 10 * value + (digitValue? c).getD 0) value =
      Nat.ofDigitChars 10 digits value := by
  induction digits generalizing value with
  | nil => simp
  | cons c digits ih =>
    have hc := digitValue?_of_isDigit (h c List.mem_cons_self)
    rw [List.foldl_cons, Nat.ofDigitChars_cons, ih fun d hd => h d (List.mem_cons_of_mem c hd), hc]
    rfl

theorem isDigit_of_mem_toDigits {index : Nat} {c : Char} (h : c ∈ Nat.toDigits 10 index) :
    c.isDigit :=
  Nat.isDigit_of_mem_toDigits (by decide) (by decide) h

theorem numeralValue_toDigits (index : Nat) : numeralValue (Nat.toDigits 10 index) = index := by
  rw [numeralValue, foldl_digitValue? fun _ => isDigit_of_mem_toDigits,
    Nat.ofDigitChars_ten_toDigits]

theorem readNumeral_of_le {digits : Text} (h : digits.length ≤ maxDigits) :
    readNumeral digits = .ok (numeralValue digits) :=
  if_pos h

theorem readNumeral_of_lt {digits : Text} (h : maxDigits < digits.length) :
    readNumeral digits = .error ⟨digits.length⟩ :=
  if_neg (Nat.not_le.mpr h)

theorem readNumeral_toDigits {index : Nat} (h : index < 10 ^ maxDigits) :
    readNumeral (Nat.toDigits 10 index) = .ok index := by
  have hlen : (Nat.toDigits 10 index).length ≤ maxDigits :=
    (Nat.length_toDigits_le_iff (by decide) (by decide)).mpr h
  rw [readNumeral_of_le hlen, numeralValue_toDigits]

namespace Token

theorem read?_spell {digits : Text} (hne : digits ≠ []) (hdigits : ∀ c ∈ digits, isDecimalDigit c)
    (rest : Text) : read? (spell digits ++ rest) = some (digits, rest) := by
  have hend : isDecimalDigit terminator = false := by decide
  have htake : (digits ++ terminator :: rest).takeWhile isDecimalDigit = digits := by
    rw [List.takeWhile_append_of_pos hdigits, List.takeWhile_cons_of_neg (by simp [hend]),
      List.append_nil]
  have hdrop : (digits ++ terminator :: rest).dropWhile isDecimalDigit = terminator :: rest := by
    rw [List.dropWhile_append_of_pos hdigits, List.dropWhile_cons_of_neg (by simp [hend])]
  have hspell : spell digits ++ rest = sentinel :: (digits ++ terminator :: rest) := by
    simp [spell]
  obtain ⟨digit, digits, rfl⟩ := List.exists_cons_of_ne_nil hne
  simp only [hspell, read?, ↓reduceIte, htake, hdrop]

theorem isDecimalDigit_of_read? {text : Text} (h : read? text = some (digits, after)) :
    digits ≠ [] ∧ ∀ c ∈ digits, isDecimalDigit c := by
  unfold read? at h
  split at h
  · cases h
  · split at h
    · split at h
      · rename_i hdigits _
        split at h
        · obtain ⟨rfl, -⟩ := Prod.mk.inj (Option.some.inj h)
          refine ⟨List.cons_ne_nil _ _, fun c hc => ?_⟩
          exact List.mem_takeWhile_imp (p := isDecimalDigit) (hdigits ▸ hc)
        · cases h
      · cases h
    · cases h

/-- A token is read just where one is spelled. -/
theorem read?_eq_some_iff {text : Text} :
    read? text = some (digits, after) ↔
      (digits ≠ [] ∧ ∀ c ∈ digits, isDecimalDigit c) ∧ text = spell digits ++ after := by
  constructor
  · exact fun h => ⟨isDecimalDigit_of_read? h, eq_spell_of_read? h⟩
  · rintro ⟨⟨hne, hdigits⟩, rfl⟩
    exact read?_spell hne hdigits after

theorem read?_write (index : Nat) (rest : Text) :
    read? (write index ++ rest) = some (Nat.toDigits 10 index, rest) :=
  read?_spell Nat.toDigits_ne_nil
    (fun _ hc => isDecimalDigit_of_isDigit (isDigit_of_mem_toDigits hc)) rest

theorem read?_eq_none_of_ne {c : Char} {rest : Text} (h : c ≠ sentinel) :
    read? (c :: rest) = none := by
  simp [read?, h]

theorem write_ne_nil (index : Nat) : write index ≠ [] := by
  simp [write, spell]

/-- The characters that a written token is made of. -/
theorem mem_write {index : Nat} {c : Char} (h : c ∈ write index) :
    c = sentinel ∨ c.isDigit ∨ c = terminator := by
  simp only [write, spell, List.cons_append, List.mem_cons, List.mem_append, List.not_mem_nil,
    or_false] at h
  rcases h with h | h | h
  · exact .inl h
  · exact .inr (.inl (isDigit_of_mem_toDigits h))
  · exact .inr (.inr h)

end Token

namespace Piece

theorem split_of_read? {text digits after : Text} (h : Token.read? text = some (digits, after)) :
    split text = .token digits :: split after := by
  fun_cases split text with
  | case1 => simp [Token.read?] at h
  | case2 c rest digits' after' h' =>
    obtain ⟨rfl, rfl⟩ := Prod.mk.inj (Option.some.inj (h.symm.trans h'))
    rfl
  | case3 c rest h' => simp [h'] at h

theorem split_of_read?_eq_none {c : Char} {rest : Text} (h : Token.read? (c :: rest) = none) :
    split (c :: rest) = .char c :: split rest := by
  rw [split]
  split
  · rename_i hsome
    simp [h] at hsome
  · rfl

theorem split_cons {c : Char} (h : c ≠ sentinel) (rest : Text) :
    split (c :: rest) = .char c :: split rest :=
  split_of_read?_eq_none (Token.read?_eq_none_of_ne h)

theorem split_write_append (index : Nat) (rest : Text) :
    split (Token.write index ++ rest) = .token (Nat.toDigits 10 index) :: split rest :=
  split_of_read? (Token.read?_write index rest)

theorem split_spell {digits : Text} (hne : digits ≠ [])
    (hdigits : ∀ c ∈ digits, isDecimalDigit c) : split (Token.spell digits) = [.token digits] := by
  have hread : Token.read? (Token.spell digits ++ []) = some (digits, []) :=
    Token.read?_spell hne hdigits []
  rw [← List.append_nil (Token.spell digits), split_of_read? hread, split]

theorem split_sentinel : split [sentinel] = [.char sentinel] := by
  rw [split]
  split
  · rename_i hread
    cases hread
  · rw [split]

end Piece
end LuaMarkup
