import LuaMarkup.Proofs.Substitution

/-!
# Highlighting can be read back

`decode` drops the tags of spans and reads entities as the characters they stand for. Of a
highlighted source it gives the source with its line ends joined and its tabs spelled out
(`decode_highlight`), which is all that highlighting forgets.
-/

namespace LuaMarkup

def entityCodes : List (Text × Text) :=
  [(lineEnd, ['\n']), (spaceMarkup, [' ']), ("&lt;".toList, ['<']), ("&amp;".toList, ['&'])]

/-- The text that a markup shows. -/
def decode (markup : Text) : Text :=
  Text.substitute (spanCodes ++ entityCodes) markup

/-- CR LF as LF, and four spaces for a tab. -/
def normalise (source : Text) : Text :=
  Text.replaceChar '\t' tabSpaces (Text.joinLineEnds source)

theorem reads_entityCodes : Reads (spanCodes ++ entityCodes) where
  openTag category rest := by cases category <;> rfl
  closeTag rest := rfl
  entity := by
    intro entity h rest
    simp only [entities, List.mem_cons, List.not_mem_nil, or_false] at h
    rcases h with rfl | rfl | rfl | rfl <;> rfl
  plain := Text.substitute_cons (by decide)

theorem decode_character (c : Char) :
    decode (Escape.character c) = if c = '\t' then tabSpaces else [c] := by
  by_cases hplain : Escape.IsPlain c
  · have htab : c ≠ '\t' := by
      rintro rfl
      exact absurd hplain (by decide)
    rw [Escape.character_of_isPlain hplain, if_neg htab]
    exact reads_entityCodes.plain hplain []
  · have hspecial : ∀ c ∈ ['&', '<', '\n', '\t', ' '],
        decode (Escape.character c) = if c = '\t' then tabSpaces else [c] := by decide
    exact hspecial c (Decidable.not_not.mp hplain)

theorem decode_plain (source : Text) : decode (Escape.plain source) = normalise source := by
  have h := reads_entityCodes.escaped source []
  have hcharacter : (fun c => Text.substitute (spanCodes ++ entityCodes) (Escape.character c)) =
      fun c => if c = '\t' then tabSpaces else [c] := funext decode_character
  rwa [List.append_nil, Text.substitute_nil, List.append_nil, hcharacter] at h

example : decode (Escape.plain "<\t&\r\n".toList) = "<    &\n".toList := by decide

/-- Tabs and spaces are escaped alike, so escaping depends on no more than `normalise` keeps. -/
theorem plain_eq_flatMap_normalise (source : Text) :
    Escape.plain source = (normalise source).flatMap Escape.character := by
  rw [Escape.plain, normalise, Text.replaceChar, List.flatMap_assoc]
  congr 1
  funext c
  by_cases htab : c = '\t'
  · subst htab
    rfl
  · rw [if_neg htab, List.flatMap_singleton]

theorem map_decode_highlight (h : (classifySource source).table.size ≤ 10 ^ maxDigits) :
    (highlight source).map decode = .ok (normalise source) := by
  obtain ⟨items, hwhole, hletters, hresolve⟩ := exists_whole_items h
  have hread : decode (Item.renderAll items) = decode (Item.lettersAll items) :=
    reads_entityCodes.renderAll hwhole
  rw [highlight_of_resolve hresolve, Except.map, hread, hletters, decode_plain]

theorem highlight_eq_of_plain_eq (h : (classifySource source).table.size ≤ 10 ^ maxDigits)
    (h' : (classifySource other).table.size ≤ 10 ^ maxDigits)
    (hplain : Escape.plain other = Escape.plain source) : highlight other = highlight source := by
  have hboxed : boxedSource Rule.all other = boxedSource Rule.all source := by
    rw [boxedSource, boxedSource, hplain]
  have hresolve : (classifySource other).table.resolve (classifySource other).text =
      (classifySource source).table.resolve (classifySource source).text :=
    (resolve_classify h').trans (hboxed ▸ (resolve_classify h).symm)
  rw [highlight, highlight, hresolve]

/-- Decoding a highlighted source gives the source as it is normalised, and this is exactly
what the highlighted text depends on. -/
theorem decode_highlight (source : Text) (h : source.length ≤ 10 ^ maxDigits) :
    (highlight source).map decode = .ok (normalise source) ∧
      ∀ other, other.length ≤ 10 ^ maxDigits →
        (highlight other = highlight source ↔ normalise other = normalise source) := by
  have hsize := size_classifySource_le h
  refine ⟨map_decode_highlight hsize, fun other hother => ⟨fun heq => ?_, fun heq => ?_⟩⟩
  · have hdecode := map_decode_highlight (size_classifySource_le hother)
    rw [heq, map_decode_highlight hsize] at hdecode
    exact (Except.ok.inj hdecode).symm
  · apply highlight_eq_of_plain_eq hsize (size_classifySource_le hother)
    rw [plain_eq_flatMap_normalise, heq, ← plain_eq_flatMap_normalise]

/-- Two sources that differ in a line end and a tab. -/
theorem decode_highlight_lineEnd_tab :
    "a\r\n\tb".toList.length ≤ 10 ^ maxDigits ∧ "a\n    b".toList.length ≤ 10 ^ maxDigits ∧
      (highlight "a\r\n\tb".toList).map decode = .ok "a\n    b".toList ∧
      highlight "a\n    b".toList = highlight "a\r\n\tb".toList := by
  have hsource := le_pow_maxDigits (by decide : "a\r\n\tb".toList.length ≤ _)
  have hother := le_pow_maxDigits (by decide : "a\n    b".toList.length ≤ _)
  obtain ⟨hdecode, hsame⟩ := decode_highlight "a\r\n\tb".toList hsource
  exact ⟨hsource, hother, hdecode, (hsame "a\n    b".toList hother).mpr (by decide)⟩

end LuaMarkup
