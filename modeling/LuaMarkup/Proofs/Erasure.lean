import LuaMarkup.Proofs.Substitution

/-!
# Highlighting preserves the text

`eraseSpans` drops the tags of spans and keeps all else. What it leaves of a classified and
resolved source is the escaped source, whatever rules were applied in whatever order
(`eraseSpans_classify`): no character is lost, repeated or moved, and no token is left over.
-/

namespace LuaMarkup

/-- The text without the opening tags of all categories and without closing tags. -/
def eraseSpans (text : Text) : Text :=
  Text.substitute spanCodes text

theorem reads_spanCodes : Reads spanCodes where
  openTag category rest := by cases category <;> rfl
  closeTag rest := rfl
  entity := by
    intro entity h rest
    simp only [entities, List.mem_cons, List.not_mem_nil, or_false] at h
    rcases h with rfl | rfl | rfl | rfl <;> rfl
  plain := Text.substitute_cons (by decide)

theorem eraseSpans_character (c : Char) : eraseSpans (Escape.character c) = Escape.character c := by
  by_cases hplain : Escape.IsPlain c
  · rw [Escape.character_of_isPlain hplain]
    exact reads_spanCodes.plain hplain []
  · have hspecial : ∀ c ∈ ['&', '<', '\n', '\t', ' '],
        eraseSpans (Escape.character c) = Escape.character c := by decide
    exact hspecial c (Decidable.not_not.mp hplain)

theorem eraseSpans_plain_append (source rest : Text) :
    eraseSpans (Escape.plain source ++ rest) = Escape.plain source ++ eraseSpans rest := by
  have hcharacter : (fun c => Text.substitute spanCodes (Escape.character c)) = Escape.character :=
    funext eraseSpans_character
  rw [eraseSpans, reads_spanCodes.escaped, hcharacter]
  rfl

/-- Erasing leaves of printed items what it leaves of their letters. -/
theorem eraseSpans_renderAll (h : Whole items) :
    eraseSpans (Item.renderAll items) = eraseSpans (Item.lettersAll items) :=
  reads_spanCodes.renderAll h

example : eraseSpans (Item.renderAll [.box .keyword [.char 'd', .char 'o'], .char '$']) =
    "do$".toList := by
  decide

/-- Classifying keeps the escaped source, and highlighting drops the line end behind it. -/
theorem eraseSpans_classify (source : Text) :
    (∀ (rules : List Rule) (table : Table),
      (classify rules (escapeSource source table)).table.size ≤ 10 ^ maxDigits →
      ∃ markup, (classify rules (escapeSource source table)).table.resolve
          (classify rules (escapeSource source table)).text = .ok markup ∧
        eraseSpans markup = Escape.plain source ++ lineEnd) ∧
    ((classifySource source).table.size ≤ 10 ^ maxDigits →
      ∃ markup, (classifySource source).table.resolve (classifySource source).text =
          .ok (markup ++ lineEnd) ∧
        highlight source = .ok markup ∧ eraseSpans markup = Escape.plain source) := by
  refine ⟨fun rules table hsize => ?_, fun hsize => ?_⟩
  · refine ⟨_, resolve_classify hsize, ?_⟩
    rw [eraseSpans_renderAll (whole_boxedSource rules source), boxedSource, lettersAll_boxAll,
      Item.lettersAll_ofText, eraseSpans_plain_append]
    rfl
  · obtain ⟨items, hwhole, hletters, hresolve⟩ := exists_whole_items hsize
    refine ⟨Item.renderAll items, hresolve, highlight_of_resolve hresolve, ?_⟩
    have hplain := eraseSpans_plain_append source []
    rw [List.append_nil] at hplain
    rw [eraseSpans_renderAll hwhole, hletters, hplain]
    exact List.append_nil _

/-- Rules out of order and applied twice, on a source that holds a token of the table. -/
theorem eraseSpans_classify_repeated :
    (classify [.keyword, .operator, .keyword]
      (escapeSource "if a=$0;".toList ⟨#["<".toList]⟩)).table.size ≤ 10 ^ maxDigits ∧
    (∃ markup, (classify [.keyword, .operator, .keyword]
          (escapeSource "if a=$0;".toList ⟨#["<".toList]⟩)).table.resolve
        (classify [.keyword, .operator, .keyword]
          (escapeSource "if a=$0;".toList ⟨#["<".toList]⟩)).text = .ok markup ∧
      eraseSpans markup = "if<wbr>&nbsp;a=$0;<br>".toList) ∧
    (classifySource "if a=$0;".toList).table.size ≤ 10 ^ maxDigits ∧
    ∃ markup, highlight "if a=$0;".toList = .ok markup ∧
      eraseSpans markup = "if<wbr>&nbsp;a=$0;".toList := by
  obtain ⟨hrules, hhighlight⟩ := eraseSpans_classify "if a=$0;".toList
  have hsize := Nat.le_trans
    (size_classify_le [.keyword, .operator, .keyword] "if a=$0;".toList ⟨#["<".toList]⟩)
    (le_pow_maxDigits (by decide))
  have hlength := le_pow_maxDigits (by decide : "if a=$0;".toList.length ≤ _)
  have hempty := size_classifySource_le hlength
  obtain ⟨markup, -, hmarkup, herase⟩ := hhighlight hempty
  exact ⟨hsize, hrules _ _ hsize, hempty, markup, hmarkup, herase⟩

end LuaMarkup
