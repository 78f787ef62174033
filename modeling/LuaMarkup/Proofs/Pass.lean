import LuaMarkup.Proofs.Boundary
import LuaMarkup.Proofs.Encoding

/-!
# One pass

`Rule.pass` is what a pass of a rule leaves of a text and what it reports. A pass goes from left to
right: it keeps what no match begins in (`pass_append`) and puts a token for each match
(`pass_of_match?`). It brings nothing else into the text (`mem_of_mem_pass`). Where a character
decides what is matched, the pass is described by the parts that it cuts the text into.
-/

namespace LuaMarkup

-- ---------------------------------------------------------------------------
-- Parts
-- ---------------------------------------------------------------------------

theorem notMem_of_mem_splitOn {part text : Text} (h : part ∈ text.splitOn c) : c ∉ part := by
  induction text generalizing part with
  | nil =>
    obtain rfl : part = [] := by simpa using h
    exact List.not_mem_nil
  | cons d text ih =>
    rw [List.splitOn_cons_eq_if_modifyHead] at h
    split at h
    · rcases List.mem_cons.mp h with rfl | h
      · exact List.not_mem_nil
      · exact ih h
    · rename_i hd
      obtain ⟨first, parts, hsplit⟩ := List.exists_cons_of_ne_nil (List.splitOn_ne_nil c text)
      rw [hsplit, List.modifyHead_cons] at h
      rw [hsplit] at ih
      rcases List.mem_cons.mp h with rfl | h
      · rw [List.mem_cons, not_or]
        exact ⟨fun heq => hd (beq_iff_eq.mpr heq.symm), ih List.mem_cons_self⟩
      · exact ih (List.mem_cons_of_mem first h)

theorem length_splitOn (c : Char) (text : Text) :
    (text.splitOn c).length = text.count c + 1 := by
  induction text with
  | nil => rfl
  | cons d text ih =>
    rw [List.splitOn_cons_eq_if_modifyHead, List.count_cons]
    split
    · rw [List.length_cons, ih]
    · rw [List.length_modifyHead, ih, Nat.add_zero]

-- ---------------------------------------------------------------------------
-- Passes
-- ---------------------------------------------------------------------------

namespace Rule

/-- A text after a pass with tokens from an index on, and the matches of the pass. -/
def pass (rule : Rule) (next : Nat) (text : Text) : Text × List Match :=
  (Segment.withTokens next (rule.segments text), Segment.reports rule (rule.segments text))

variable {rule : Rule}

theorem pass_nil (next : Nat) : rule.pass next [] = ([], []) := by
  rw [pass, segments_nil, Segment.withTokens, Segment.reports]

theorem pass_of_match?_eq_none {text : Text} (h : rule.match? (c :: text) = none) (next : Nat) :
    rule.pass next (c :: text) = (c :: (rule.pass next text).1, (rule.pass next text).2) := by
  rw [pass, segments_of_match?_eq_none h, Segment.withTokens, Segment.reports, pass]

theorem pass_append {front rest : Text}
    (h : ∀ back, back <:+ front → back ≠ [] → rule.match? (back ++ rest) = none) (next : Nat) :
    rule.pass next (front ++ rest) =
      (front ++ (rule.pass next rest).1, (rule.pass next rest).2) := by
  induction front with
  | nil => rfl
  | cons c front ih =>
    have hnone := h (c :: front) (List.suffix_refl _) (List.cons_ne_nil c front)
    have hfront := ih fun back hback => h back (hback.trans (List.suffix_cons c front))
    rw [List.cons_append] at hnone ⊢
    rw [pass_of_match?_eq_none hnone, hfront, List.cons_append]

theorem pass_append_of_notMem {front : Text} (h : ∀ c ∈ front, c ∉ rule.openers) (next : Nat)
    (rest : Text) : rule.pass next (front ++ rest) =
      (front ++ (rule.pass next rest).1, (rule.pass next rest).2) := by
  refine pass_append (fun back hback hne => ?_) next
  obtain ⟨c, back, rfl⟩ := List.exists_cons_of_ne_nil hne
  refine match?_eq_none_of_notMem (fun o ho => ?_) (back ++ rest)
  obtain rfl := Option.some.inj ho
  exact h c (hback.mem List.mem_cons_self)

/-- A pass might as well go on before the context of a match. -/
theorem pass_of_match? {text : Text} {hit : Hit Char} (h : rule.match? text = some hit)
    (next : Nat) : rule.pass next text =
      (Token.write next ++ (rule.pass (next + 1) (hit.context ++ hit.rest)).1,
        ⟨rule, hit.matched, hit.context⟩ ::
          (rule.pass (next + 1) (hit.context ++ hit.rest)).2) := by
  have hcontext : ∀ c ∈ hit.context, c ∉ rule.openers := fun c hc =>
    (match?_sound h).notMem_context c hc c rfl
  rw [pass_append_of_notMem hcontext, pass, segments_of_match? h, Segment.withTokens,
    Segment.reports, List.append_assoc, pass]

theorem apply_of_pass {draft : Draft}
    (h : rule.pass draft.table.size draft.text = (text, found)) :
    rule.apply draft =
      { text, table := draft.table.append (found.map Match.markup), trace := found } := by
  obtain ⟨rfl, rfl⟩ := Prod.mk.inj h
  rfl

theorem mem_of_mem_pass {text : Text} (h : c ∈ (rule.pass next text).1) :
    c ∈ text ∨ ∃ index, c ∈ Token.write index := by
  rw [pass] at h
  induction text using @Rule.induction_on Char _ rule generalizing next with
  | nil => simp [Segment.withTokens] at h
  | hit d text hit hmatch ih =>
    rw [append_of_match? hmatch]
    rw [segments_of_match? hmatch, Segment.withTokens] at h
    rcases List.mem_append.mp h with h | h
    · rcases List.mem_append.mp h with h | h
      · exact .inr ⟨next, h⟩
      · exact .inl (List.mem_append_left _ (List.mem_append_right _ h))
    · exact (ih h).imp_left (List.mem_append_right _)
  | plain d text hnone ih =>
    rw [segments_of_match?_eq_none hnone, Segment.withTokens] at h
    rcases List.mem_cons.mp h with rfl | h
    · exact .inl List.mem_cons_self
    · exact (ih h).imp_left (List.mem_cons_of_mem d)

end Rule

theorem mem_of_mem_classify {rules : List Rule} {draft : Draft}
    (h : c ∈ (classify rules draft).text) : c ∈ draft.text ∨ ∃ index, c ∈ Token.write index := by
  induction rules generalizing draft with
  | nil => exact .inl h
  | cons rule rules ih =>
    rcases ih h with h | h
    · exact Rule.mem_of_mem_pass h
    · exact .inr h

/-- A working text is one line for the rules, however many the source has. -/
theorem onOneLine_classify_escapeSource (rules : List Rule) (source : Text) (table : Table) :
    OnOneLine (classify rules (escapeSource source table)).text := by
  rintro c hmem hc
  obtain rfl := Option.some.inj hc
  have htoken : ¬∃ index, '\n' ∈ Token.write index := fun ⟨index, h⟩ =>
    lineFeed_notMem_write index h
  have hescaped := (mem_of_mem_classify hmem).resolve_right htoken
  rw [escapeSource_eq] at hescaped
  have hplain := (Escape.mem_of_mem_numberSentinels hescaped).resolve_right htoken
  rcases List.mem_append.mp hplain with h | h
  · exact Escape.lineFeed_notMem_plain source h
  · exact absurd h (by decide)

end LuaMarkup
