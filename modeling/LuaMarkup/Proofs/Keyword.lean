import LuaMarkup.Proofs.Pass

/-!
# Keywords before tags

Tags cut a text into parts, and no keyword reaches from one part into the next. So the pass for
keywords looks at each part alone: it puts a token for the longest keyword that the part ends in
(`Rule.pass_keywords`). No two keywords can stand in one place before the same tag, so it makes no
difference in which order they are tried (`keywords_before_tags`).
-/

namespace LuaMarkup

namespace Keyword

/-- The keywords that a text ends in. -/
def ending (text : Text) : List Text :=
  (keywords.map String.toList).filter (·.isSuffixOf text)

def longest? (text : Text) : Option Text :=
  (ending text).argmax List.length

/-- The text of parts with a tag behind each but the last, with tokens, numbered from `next`, in
place of the keywords before the tags. -/
def hide (next : Nat) : List Text → Text
  | [] => []
  | [last] => last
  | part :: behind :: parts =>
    match longest? part with
    | some word =>
      part.rdrop word.length ++ (Token.write next ++ '<' :: hide (next + 1) (behind :: parts))
    | none => part ++ '<' :: hide next (behind :: parts)

def found (parts : List Text) : List Text :=
  parts.dropLast.filterMap longest?

-- ---------------------------------------------------------------------------
-- The longest keyword
-- ---------------------------------------------------------------------------

theorem notMem_of_mem {word : Text} (h : word ∈ keywords.map String.toList) : '<' ∉ word := by
  obtain ⟨keyword, hmem, rfl⟩ := List.mem_map.mp h
  exact Rule.notMem_of_mem_keywords keyword hmem

theorem mem_ending {word text : Text} :
    word ∈ ending text ↔ word ∈ keywords.map String.toList ∧ word <:+ text := by
  rw [ending, List.mem_filter, List.isSuffixOf_iff_suffix]

theorem ending_of_longest?_eq_none {text : Text} (h : longest? text = none) : ending text = [] :=
  List.argmax_eq_none.mp h

theorem mem_of_longest? {text : Text} (h : longest? text = some word) : word ∈ ending text :=
  List.argmax_mem h

theorem length_le_of_longest? {text : Text} (h : longest? text = some word)
    (hother : other ∈ ending text) : other.length ≤ word.length :=
  List.le_of_mem_argmax hother h

/-- Only what stands behind the last tag counts. -/
theorem longest?_append (front part : Text) : longest? (front ++ '<' :: part) = longest? part := by
  have hending : ending (front ++ '<' :: part) = ending part := by
    refine List.filter_congr fun word hword => ?_
    rw [Bool.eq_iff_iff, List.isSuffixOf_iff_suffix, List.isSuffixOf_iff_suffix]
    constructor
    · intro h
      rcases List.suffix_or_suffix_of_suffix h (List.suffix_append front ('<' :: part)) with h | h
      · rcases List.suffix_cons_iff.mp h with rfl | h
        · exact absurd List.mem_cons_self (notMem_of_mem hword)
        · exact h
      · exact absurd (h.mem List.mem_cons_self) (notMem_of_mem hword)
    · intro h
      exact h.trans ((List.suffix_cons '<' part).trans (List.suffix_append front _))
  rw [longest?, hending, longest?]

end Keyword

-- ---------------------------------------------------------------------------
-- A pass
-- ---------------------------------------------------------------------------

namespace Rule

theorem accepts_keyword_iff {m c : Text} :
    keyword.Accepts m c ↔ m ∈ keywords.map String.toList ∧ c = ['<'] := by
  constructor
  · rintro ⟨⟩
    rename_i word hword hm hc
    exact ⟨List.mem_map.mpr ⟨word, hword, (spells_text_iff.mp hm).symm⟩, spells_text_iff.mp hc⟩
  · rintro ⟨hm, rfl⟩
    obtain ⟨word, hword, rfl⟩ := List.mem_map.mp hm
    exact .keyword hword rfl rfl

theorem match?_keyword_of_mem {word : Text} (h : word ∈ keywords.map String.toList) (rest : Text) :
    keyword.match? (word ++ '<' :: rest) = some ⟨word, ['<'], rest⟩ := by
  refine match?_eq_some_iff.mpr ⟨accepts_keyword_iff.mpr ⟨h, rfl⟩, by simp, ?_⟩
  intro m c r haccepts heq
  obtain ⟨hm, rfl⟩ := accepts_keyword_iff.mp haccepts
  rw [List.append_cons] at heq
  exact Nat.le_of_eq (congrArg List.length (keyword_unique rfl rfl rfl rfl
    (Keyword.notMem_of_mem h) (Keyword.notMem_of_mem hm) heq))

theorem match?_keyword_eq_none {back : Text} (hback : '<' ∉ back)
    (h : back ∉ keywords.map String.toList) (rest : Text) :
    keyword.match? (back ++ '<' :: rest) = none := by
  rw [match?_eq_none_iff]
  rintro m c r haccepts heq
  obtain ⟨hm, rfl⟩ := accepts_keyword_iff.mp haccepts
  rw [List.append_cons] at heq
  obtain rfl := keyword_unique rfl rfl rfl rfl hback (Keyword.notMem_of_mem hm) heq
  exact h hm

theorem pass_keyword_of_notMem {text : Text} (h : '<' ∉ text) (next : Nat) :
    keyword.pass next text = (text, []) := by
  have hnone : ∀ back, back <:+ text → back ≠ [] → keyword.match? (back ++ []) = none := by
    intro back hback _
    rw [match?_eq_none_iff]
    rintro m c r haccepts heq
    obtain ⟨-, rfl⟩ := accepts_keyword_iff.mp haccepts
    rw [List.append_nil] at heq
    exact h (hback.mem (by simp [heq]))
  simpa [pass_nil] using pass_append hnone next

theorem pass_tag (next : Nat) (rest : Text) : keyword.pass next ('<' :: rest) =
    ('<' :: (keyword.pass next rest).1, (keyword.pass next rest).2) :=
  pass_of_match?_eq_none (match?_keyword_eq_none List.not_mem_nil (by decide) rest) next

/-- The pass over what stands before a tag. -/
theorem pass_part {part : Text} (hpart : '<' ∉ part) (next : Nat) (rest : Text) :
    keyword.pass next (part ++ '<' :: rest) =
      match Keyword.longest? part with
      | some word =>
        (part.rdrop word.length ++ (Token.write next ++ '<' :: (keyword.pass (next + 1) rest).1),
          ⟨keyword, word, ['<']⟩ :: (keyword.pass (next + 1) rest).2)
      | none => (part ++ '<' :: (keyword.pass next rest).1, (keyword.pass next rest).2) := by
  cases hlongest : Keyword.longest? part with
  | none =>
    have hnone : ∀ back, back <:+ part → back ≠ [] →
        keyword.match? (back ++ '<' :: rest) = none := by
      intro back hback _
      refine match?_keyword_eq_none (fun hmem => hpart (hback.mem hmem)) (fun hmem => ?_) rest
      have hending := Keyword.mem_ending.mpr ⟨hmem, hback⟩
      rw [Keyword.ending_of_longest?_eq_none hlongest] at hending
      cases hending
    rw [pass_append hnone, pass_tag]
  | some word =>
    obtain ⟨hword, front, rfl⟩ := Keyword.mem_ending.mp (Keyword.mem_of_longest? hlongest)
    -- a match in front of the word would be a longer one
    have hnone : ∀ back, back <:+ front → back ≠ [] →
        keyword.match? (back ++ (word ++ '<' :: rest)) = none := by
      intro back hback hne
      have hsuffix : back ++ word <:+ front ++ word := by
        obtain ⟨before, rfl⟩ := hback
        exact ⟨before, (List.append_assoc ..).symm⟩
      rw [← List.append_assoc]
      refine match?_keyword_eq_none (fun hmem => hpart (hsuffix.mem hmem)) (fun hmem => hne ?_) rest
      have hle := Keyword.length_le_of_longest? hlongest (Keyword.mem_ending.mpr ⟨hmem, hsuffix⟩)
      rw [List.length_append] at hle
      exact List.length_eq_zero_iff.mp (by omega)
    rw [List.append_assoc, pass_append hnone, pass_of_match? (match?_keyword_of_mem hword rest),
      List.singleton_append, pass_tag]
    simp only [List.rdrop_append_length]

/-- The pass over the parts that the tags cut a text into. -/
theorem pass_keywords {parts : List Text} (hparts : ∀ part ∈ parts, '<' ∉ part) (next : Nat) :
    keyword.pass next (['<'].intercalate parts) =
      (Keyword.hide next parts, (Keyword.found parts).map (⟨keyword, ·, ['<']⟩)) := by
  fun_induction Keyword.hide next parts with
  | case1 next => exact pass_nil next
  | case2 next last =>
    rw [List.intercalate_singleton, pass_keyword_of_notMem (hparts last List.mem_cons_self)]
    rfl
  | case3 next part behind parts word hword ih =>
    obtain ⟨hpart, hparts⟩ := List.forall_mem_cons.mp hparts
    rw [List.intercalate_cons_cons, List.append_assoc, List.singleton_append, pass_part hpart,
      hword, ih hparts]
    simp [Keyword.found, hword]
  | case4 next part behind parts hnone ih =>
    obtain ⟨hpart, hparts⟩ := List.forall_mem_cons.mp hparts
    rw [List.intercalate_cons_cons, List.append_assoc, List.singleton_append, pass_part hpart,
      hnone, ih hparts]
    simp [Keyword.found, hnone]

end Rule

-- ---------------------------------------------------------------------------
-- Any order
-- ---------------------------------------------------------------------------

namespace Keyword

theorem first?_patterns_eq_some {words : List String} {text : Text} {hit : Hit Char}
    (h : Pattern.first? (patterns words) text = some hit) : ∃ word ∈ words,
      hit.matched = word.toList ∧ hit.context = ['<'] ∧ text = word.toList ++ '<' :: hit.rest := by
  obtain ⟨pattern, hpattern, hmatch⟩ := List.exists_of_findSome?_eq_some h
  obtain ⟨word, hmem, rfl⟩ := List.mem_map.mp hpattern
  obtain ⟨hmatched, hcontext⟩ := Pattern.match?_sound hmatch
  have hword := spells_text_iff.mp (forall₂_exactly.mp hmatched)
  have htag := spells_text_iff.mp hcontext
  have htext := Pattern.append_of_match? hmatch
  rw [hword, htag, List.append_assoc] at htext
  exact ⟨word, hmem, hword, htag, htext⟩

variable {words : List String} (h : words.Perm keywords)
include h

theorem advances_of_perm : ∀ pattern ∈ patterns words, pattern.Advances := by
  intro pattern hpattern
  have hmem : pattern ∈ Rule.keyword.alternatives := (h.map _).mem_iff.mp hpattern
  exact Rule.advances_of_mem hmem

theorem first?_patterns_of_perm (text : Text) :
    Pattern.first? (patterns words) text = Rule.keyword.match? text := by
  cases hfirst : Pattern.first? (patterns words) text with
  | none =>
    refine (List.findSome?_eq_none_iff.mpr fun pattern hpattern => ?_).symm
    exact List.findSome?_eq_none_iff.mp hfirst pattern ((h.map _).mem_iff.mpr hpattern)
  | some hit =>
    obtain ⟨word, hword, hmatched, hcontext, htext⟩ := first?_patterns_eq_some hfirst
    have hmem := List.mem_map_of_mem (f := String.toList) (h.mem_iff.mp hword)
    rw [htext, Rule.match?_keyword_of_mem hmem, ← hmatched, ← hcontext]

theorem applyWith_of_perm (draft : Draft) :
    Rule.keyword.applyWith (patterns words) (advances_of_perm h) draft =
      Rule.keyword.apply draft := by
  rw [Rule.apply, Rule.applyWith, Rule.applyWith,
    Pattern.segments_congr (first?_patterns_of_perm h)]

end Keyword

/-- Before each tag the longest keyword that ends there gives way to a token, whatever stands before
and behind, and nothing else changes. The order in which the keywords are tried is of no account. -/
theorem keywords_before_tags (words : List String) (h : words.Perm keywords) (draft : Draft) :
    Rule.keyword.apply draft =
        { text := Keyword.hide draft.table.size (draft.text.splitOn '<')
          table := draft.table.append
            ((Keyword.found (draft.text.splitOn '<')).map Category.keyword.wrap)
          trace := (Keyword.found (draft.text.splitOn '<')).map (⟨.keyword, ·, ['<']⟩) } ∧
      (∀ front part, Keyword.longest? (front ++ '<' :: part) = Keyword.longest? part) ∧
      Rule.keyword.applyWith (Keyword.patterns words) (Keyword.advances_of_perm h) draft =
        Rule.keyword.apply draft := by
  refine ⟨?_, Keyword.longest?_append, Keyword.applyWith_of_perm h draft⟩
  have hparts : ∀ part ∈ draft.text.splitOn '<', '<' ∉ part := fun part => notMem_of_mem_splitOn
  have hpass := Rule.pass_keywords hparts draft.table.size
  rw [List.intercalate_splitOn] at hpass
  rw [Rule.apply_of_pass hpass, List.map_map]
  rfl

/-- Keywords in one another, at the end of other words and without a tag behind them. -/
def wordsBeforeTags : Draft :=
  { text := "elseif<b>weekend<br>$0;if<wbr>end".toList, table := ⟨#[['a']]⟩ }

theorem keywords_before_tags_reverse :
    keywords.reverse.Perm keywords ∧
      (Rule.keyword.applyWith (Keyword.patterns keywords.reverse)
        (Keyword.advances_of_perm (List.reverse_perm keywords)) wordsBeforeTags).text =
          "$1;<b>week$2;<br>$0;$3;<wbr>end".toList ∧
      (Rule.keyword.applyWith (Keyword.patterns keywords.reverse)
        (Keyword.advances_of_perm (List.reverse_perm keywords)) wordsBeforeTags).trace.map
          Match.matched = ["elseif".toList, "end".toList, "if".toList] := by
  have horder := List.reverse_perm keywords
  obtain ⟨happly, -, hsame⟩ := keywords_before_tags keywords.reverse horder wordsBeforeTags
  rw [hsame, happly]
  exact ⟨horder, by decide +kernel, by decide +kernel⟩

end LuaMarkup
