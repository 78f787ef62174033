import LuaMarkup.Highlight
import LuaMarkup.Proofs.Boundary
import LuaMarkup.Proofs.Escape
import LuaMarkup.Proofs.Expansion

/-!
# Tables stay small

Each entry that highlighting makes is paid for by a character of the source. `charge` counts
the characters of a working text that can still pay: marks, and letters directly before a tag.
A pass takes at least one of them out of the text for each match (`size_apply_add_charge_le`),
so the table never has more new entries than the source has characters
(`size_classify_le`).
-/

namespace LuaMarkup

/-- The characters that open or are a match of some rule other than a keyword's. -/
def payingMarks : List Char :=
  ['\\', '\'', '"'] ++ operators.toList

/-- How many matches a text can still hold. -/
def charge : Text → Nat
  | [] => 0
  | c :: rest =>
    (if c ∈ payingMarks ∨ c.isLower ∧ rest.head? = some '<' then 1 else 0) + charge rest

theorem charge_append_of_free {front : Text} (h : ∀ c ∈ front, c ∉ payingMarks ∧ ¬c.isLower)
    (rest : Text) : charge (front ++ rest) = charge rest := by
  induction front with
  | nil => rfl
  | cons c front ih =>
    obtain ⟨hmark, hlower⟩ := h c List.mem_cons_self
    rw [List.cons_append, charge, ih fun d hd => h d (List.mem_cons_of_mem c hd)]
    simp [hmark, hlower]

theorem charge_le_charge_append (front rest : Text) : charge rest ≤ charge (front ++ rest) := by
  induction front with
  | nil => exact Nat.le_refl _
  | cons c front ih => exact Nat.le_trans ih (Nat.le_add_left _ _)

/-- What stands in front of two texts charges no more before the one that does not begin with
a tag where the other does not. -/
theorem charge_append_add_le (front : Text) {text text' : Text} {n : Nat}
    (hhead : text'.head? = some '<' → text.head? = some '<') (h : n + charge text' ≤ charge text) :
    n + charge (front ++ text') ≤ charge (front ++ text) := by
  induction front with
  | nil => exact h
  | cons c front ih =>
    have hhead' : (front ++ text').head? = some '<' → (front ++ text).head? = some '<' := by
      cases front with
      | nil => exact hhead
      | cons d front => exact id
    simp only [List.cons_append, charge]
    split <;> split
    · omega
    · rename_i hpays hfree
      exact absurd (hpays.imp_right fun hand => ⟨hand.1, hhead' hand.2⟩) hfree
    · omega
    · omega

theorem charge_write_append (index : Nat) (rest : Text) :
    charge (Token.write index ++ rest) = charge rest := by
  apply charge_append_of_free
  intro c hc
  have hmarks : ∀ m ∈ payingMarks, m ≠ sentinel ∧ m.isDigit = false ∧ m ≠ terminator := by decide
  refine ⟨fun hmem => ?_, ?_⟩
  · obtain ⟨hsentinel, hdigit, hterminator⟩ := hmarks c hmem
    rcases Token.mem_write hc with h | h | h
    · exact hsentinel h
    · rw [hdigit] at h
      cases h
    · exact hterminator h
  · rcases Token.mem_write hc with rfl | h | rfl
    · decide
    · simp only [Char.isDigit, Char.isLower, Bool.and_eq_true, decide_eq_true_eq,
        UInt32.le_iff_toNat_le, ge_iff_le] at h ⊢
      have h₉ : '9'.val.toNat = 57 := rfl
      have ha : 'a'.val.toNat = 97 := rfl
      omega
    · decide

theorem mem_payingMarks_of_mem_openers {rule : Rule} (h : rule ≠ .keyword) :
    ∀ o ∈ rule.openers, o ∈ payingMarks := by
  cases rule with
  | keyword => exact absurd rfl h
  | _ => decide

/-- A match pays for its entry, whatever the rule. -/
theorem Rule.Accepts.charge_lt {rule : Rule} {m c : Text} (h : rule.Accepts m c) (rest : Text) :
    charge (c ++ rest) < charge (m ++ (c ++ rest)) := by
  cases rule with
  | keyword =>
    cases h with
    | @keyword word _ _ hword hm hc =>
      -- the letter that pays is the last one
      have hlast : ∀ word ∈ keywords, word.toList.getLast?.any Char.isLower := by decide
      obtain ⟨letter, hletter, hlower⟩ := (Option.any_eq_true ..).mp (hlast word hword)
      obtain ⟨front, hfront⟩ := List.getLast?_eq_some_iff.mp hletter
      rw [spells_text_iff.mp hm, spells_text_iff.mp hc, hfront, List.append_assoc]
      have hle := charge_le_charge_append front ([letter] ++ (['<'] ++ rest))
      have hpays : charge ([letter] ++ (['<'] ++ rest)) = 1 + charge (['<'] ++ rest) := by
        rw [List.singleton_append, charge, if_pos (.inr ⟨hlower, rfl⟩)]
      omega
  | _ =>
    obtain ⟨first, others, rfl, o, ho, hfirst⟩ := h.begins
    obtain rfl := Option.some.inj hfirst
    have hle := charge_le_charge_append others (c ++ rest)
    have hmem := mem_payingMarks_of_mem_openers (by decide) first ho
    rw [List.cons_append, charge, if_pos (.inl hmem)]
    omega

theorem head?_withTokens (rule : Rule) (text : Text) (next : Nat)
    (h : (Segment.withTokens next (rule.segments text)).head? = some '<') :
    text.head? = some '<' := by
  cases text with
  | nil => simp [Segment.withTokens] at h
  | cons c text =>
    cases hmatch : rule.match? (c :: text) with
    | none =>
      rw [Rule.segments_of_match?_eq_none hmatch] at h
      exact h
    | some hit =>
      rw [Rule.segments_of_match? hmatch] at h
      simp [Segment.withTokens, Token.write, Token.spell, sentinel] at h

theorem charge_withTokens (rule : Rule) (text : Text) (next : Nat) :
    (Segment.reports rule (rule.segments text)).length +
      charge (Segment.withTokens next (rule.segments text)) ≤ charge text := by
  induction text using @Rule.induction_on Char _ rule generalizing next with
  | nil => simp [Segment.reports, Segment.withTokens, charge]
  | hit c text hit hmatch ih =>
    have hpays := (Rule.match?_sound hmatch).charge_lt hit.rest
    have hcontext := charge_append_add_le hit.context
      (head?_withTokens rule hit.rest (next + 1)) (ih (next + 1))
    rw [Rule.segments_of_match? hmatch, Rule.append_of_match? hmatch, List.append_assoc,
      Segment.reports, Segment.withTokens,
      List.append_assoc, charge_write_append, List.length_cons]
    omega
  | plain c text hnone ih =>
    rw [Rule.segments_of_match?_eq_none hnone]
    exact charge_append_add_le [c] (head?_withTokens rule text next) (ih next)

theorem size_apply_add_charge_le (rule : Rule) (draft : Draft) :
    (rule.apply draft).table.size + charge (rule.apply draft).text ≤
      draft.table.size + charge draft.text := by
  have h := charge_withTokens rule draft.text draft.table.size
  simp only [Rule.apply_eq, Table.size_append, List.length_map]
  omega

theorem size_classify_add_charge_le (rules : List Rule) (draft : Draft) :
    (classify rules draft).table.size + charge (classify rules draft).text ≤
      draft.table.size + charge draft.text := by
  induction rules generalizing draft with
  | nil => exact Nat.le_refl _
  | cons rule rules ih => exact Nat.le_trans (ih _) (size_apply_add_charge_le rule draft)

theorem charge_numberSentinels (text : Text) (next : Nat) :
    charge (Escape.numberSentinels next text) ≤ charge text ∧
      ((Escape.numberSentinels next text).head? = some '<' → text.head? = some '<') := by
  induction text generalizing next with
  | nil => exact ⟨Nat.le_refl _, id⟩
  | cons c text ih =>
    rw [Escape.numberSentinels]
    split
    · refine ⟨?_, ?_⟩
      · rw [charge_write_append]
        exact Nat.le_trans (ih (next + 1)).1 (charge_le_charge_append [c] text)
      · simp [Token.write, Token.spell, sentinel]
    · have hle : 0 + charge (Escape.numberSentinels next text) ≤ charge text := by
        simpa using (ih next).1
      have h := charge_append_add_le [c] (ih next).2 hle
      exact ⟨by simpa using h, id⟩

/-- Only a letter at the end of a text could be paid for by what follows. -/
theorem charge_append {front : Text} (h : front.getLast?.any Char.isLower = false) (rest : Text) :
    charge (front ++ rest) = charge front + charge rest := by
  induction front with
  | nil => simp [charge]
  | cons c front ih =>
    cases front with
    | nil =>
      have hc : c.isLower = false := h
      simp [charge, hc]
    | cons d front =>
      have hcharge : charge (c :: d :: front) =
          (if c ∈ payingMarks ∨ c.isLower ∧ some d = some '<' then 1 else 0) +
            charge (d :: front) := rfl
      rw [hcharge, Nat.add_assoc, ← ih h]
      rfl

theorem charge_entity_append {entity : Text} (h : entity ∈ entities) (rest : Text) :
    charge (entity ++ rest) = charge rest := by
  have hlast : ∀ entity ∈ entities, entity.getLast?.any Char.isLower = false := by decide
  have hfree : ∀ entity ∈ entities, charge entity = 0 := by decide
  rw [charge_append (hlast entity h), hfree entity h, Nat.zero_add]

theorem charge_flatten_replicate_append {entity : Text} (h : entity ∈ entities) (n : Nat)
    (rest : Text) : charge ((List.replicate n entity).flatten ++ rest) = charge rest := by
  induction n with
  | zero => rfl
  | succ n ih =>
    rw [List.replicate_succ, List.flatten_cons, List.append_assoc, charge_entity_append h, ih]

/-- A character becomes markup that can pay for one match at most, or a sentinel. -/
theorem count_add_charge_character (c : Char) (rest : Text) :
    (Escape.character c).count sentinel + charge (Escape.character c ++ rest) ≤
      1 + charge rest := by
  by_cases hplain : Escape.IsPlain c
  · rw [Escape.character_of_isPlain hplain]
    by_cases hc : c = sentinel
    · subst hc
      have hfree : charge ([sentinel] ++ rest) = charge rest :=
        charge_append_of_free (by decide) rest
      rw [hfree]
      exact Nat.le_refl _
    · rw [List.count_singleton, if_neg (by simpa using hc), List.singleton_append, charge]
      split <;> omega
  · obtain ⟨entity, hmem, n, heq⟩ := Escape.character_of_not_isPlain hplain
    have hnone : ∀ entity ∈ entities, entity.count sentinel = 0 := by decide
    rw [heq, charge_flatten_replicate_append hmem, List.count_flatten, List.map_replicate,
      hnone entity hmem]
    simp

theorem length_joinLineEnds_le (source : Text) :
    (Text.joinLineEnds source).length ≤ source.length := by
  fun_induction Text.joinLineEnds source with
  | case1 rest ih =>
    simp only [List.length_cons]
    omega
  | case2 c rest _ ih => simpa using ih
  | case3 => exact Nat.le_refl _

theorem count_add_charge_plain (source rest : Text) :
    (Escape.plain source).count sentinel + charge (Escape.plain source ++ rest) ≤
      source.length + charge rest := by
  have hjoined : ∀ text : Text, (text.flatMap Escape.character).count sentinel +
      charge (text.flatMap Escape.character ++ rest) ≤ text.length + charge rest := by
    intro text
    induction text with
    | nil => simp
    | cons c text ih =>
      have h := count_add_charge_character c (text.flatMap Escape.character ++ rest)
      simp only [List.flatMap_cons, List.count_append, List.append_assoc, List.length_cons]
      omega
  have hlen := length_joinLineEnds_le source
  have h := hjoined (Text.joinLineEnds source)
  rw [Escape.plain]
  omega

theorem size_escapeSource_add_charge_le (source : Text) (table : Table) :
    (escapeSource source table).table.size + charge (escapeSource source table).text ≤
      table.size + source.length := by
  rw [escapeSource_eq]
  have hnumbered := (charge_numberSentinels (Escape.plain source ++ lineEnd) table.size).1
  have hplain := count_add_charge_plain source lineEnd
  have hend : charge lineEnd = 0 := by decide
  have hnone : lineEnd.count sentinel = 0 := by decide
  simp only [Table.size_append, List.length_replicate, List.count_append]
  omega

/-- Highlighting adds at most one entry for each character of the source. -/
theorem size_classify_le (rules : List Rule) (source : Text) (table : Table) :
    (classify rules (escapeSource source table)).table.size ≤ table.size + source.length := by
  have h₁ := size_classify_add_charge_le rules (escapeSource source table)
  have h₂ := size_escapeSource_add_charge_le source table
  omega

end LuaMarkup
