import LuaMarkup.Highlight
import LuaMarkup.Proofs.Boundary
import LuaMarkup.Proofs.Depth
import LuaMarkup.Proofs.Size

/-!
# Tokens are boxes

`tokens_refine_boxes`: highlighting through numbered tokens and a table comes to the same as
putting each match in a box and printing the boxes. In the boxed text a sentinel is a character
like any other, so neither the digits of a token nor what the table held before show in the
result.
-/

namespace LuaMarkup

/-- The boxes of a source after all passes over its escaped text. -/
def BoxesOf (source : Text) (items : List Item) : Prop :=
  Boxings Rule.all (Item.ofText (Escape.plain source ++ lineEnd)) items

theorem boxesOf_iff : BoxesOf source items ↔ items = boxedSource Rule.all source :=
  boxings_iff

-- ---------------------------------------------------------------------------
-- The limit on digits
-- ---------------------------------------------------------------------------

theorem le_pow_maxDigits (h : n ≤ maxDigits) : n ≤ 10 ^ maxDigits :=
  Nat.le_trans h (Nat.le_of_lt (Nat.lt_pow_self (by decide)))

theorem size_classifySource_le (h : source.length ≤ 10 ^ maxDigits) :
    (classifySource source).table.size ≤ 10 ^ maxDigits := by
  have hsize := size_classify_le Rule.all source Table.empty
  rw [show Table.empty.size = 0 from rfl, Nat.zero_add] at hsize
  exact Nat.le_trans hsize h

-- ---------------------------------------------------------------------------
-- Highlighting
-- ---------------------------------------------------------------------------

theorem Text.dropEnd_append (text ending : Text) : Text.dropEnd ending (text ++ ending) = text := by
  have hsuffix : ending.isSuffixOf (text ++ ending) = true :=
    List.isSuffixOf_iff_suffix.mpr (List.suffix_append text ending)
  simp [dropEnd, hsuffix]

/-- The boxes of a source end in the line end that escaping put. -/
theorem exists_boxedSource_eq (rules : List Rule) (source : Text) :
    ∃ items, boxedSource rules source = items ++ Item.ofText lineEnd := by
  rw [boxedSource, Item.ofText_append]
  exact boxAll_append_lineEnd rules _

theorem highlight_of_resolve
    (h : (classifySource source).table.resolve (classifySource source).text =
      .ok (markup ++ lineEnd)) : highlight source = .ok markup := by
  rw [highlight, h]
  exact congrArg Except.ok (Text.dropEnd_append markup lineEnd)

/-- The boxes of a source are printed with that line end. -/
theorem resolve_classifySource (h : (classifySource source).table.size ≤ 10 ^ maxDigits)
    (hboxed : boxedSource Rule.all source = items ++ Item.ofText lineEnd) :
    (classifySource source).table.resolve (classifySource source).text =
      .ok (Item.renderAll items ++ lineEnd) := by
  have hresolve := resolve_classify h
  rwa [hboxed, Item.renderAll_append, Item.renderAll_ofText] at hresolve

/-- Highlighting through tokens refines boxes, for any table to begin with. -/
theorem tokens_refine_boxes (source : Text) :
    ∃ items markup, (∀ out, BoxesOf source out ↔ out = items) ∧
      Item.renderAll items = markup ++ lineEnd ∧
      (∀ table : Table,
        (classify Rule.all (escapeSource source table)).table.size ≤ 10 ^ maxDigits →
        (classify Rule.all (escapeSource source table)).table.resolve
          (classify Rule.all (escapeSource source table)).text = .ok (Item.renderAll items)) ∧
      ((classifySource source).table.size ≤ 10 ^ maxDigits → highlight source = .ok markup) := by
  obtain ⟨items, hboxed⟩ := exists_boxedSource_eq Rule.all source
  refine ⟨boxedSource Rule.all source, Item.renderAll items, fun _ => boxesOf_iff, ?_, ?_, ?_⟩
  · rw [hboxed, Item.renderAll_append, Item.renderAll_ofText]
  · exact fun table hsize => resolve_classify hsize
  · exact fun hsize => highlight_of_resolve (resolve_classifySource hsize hboxed)

/-- A source that looks like a token, and a table that has that token. -/
theorem tokens_refine_boxes_tokenLike :
    ∃ items markup, BoxesOf "do $1;".toList items ∧ Item.renderAll items = markup ++ lineEnd ∧
      (classify Rule.all (escapeSource "do $1;".toList ⟨#["$0;".toList, "<".toList]⟩)).table.size ≤
        10 ^ maxDigits ∧
      (classify Rule.all (escapeSource "do $1;".toList ⟨#["$0;".toList, "<".toList]⟩)).table.resolve
        (classify Rule.all (escapeSource "do $1;".toList ⟨#["$0;".toList, "<".toList]⟩)).text =
          .ok (Item.renderAll items) ∧
      (classifySource "do $1;".toList).table.size ≤ 10 ^ maxDigits ∧
      highlight "do $1;".toList = .ok markup := by
  obtain ⟨items, markup, hboxes, hrender, hresolve, hhighlight⟩ :=
    tokens_refine_boxes "do $1;".toList
  have hsize := Nat.le_trans
    (size_classify_le Rule.all "do $1;".toList ⟨#["$0;".toList, "<".toList]⟩)
    (le_pow_maxDigits (by decide))
  have hempty := size_classifySource_le (le_pow_maxDigits (by decide : "do $1;".toList.length ≤ _))
  exact ⟨items, markup, (hboxes items).mpr rfl, hrender, hsize, hresolve _ hsize, hempty,
    hhighlight hempty⟩

end LuaMarkup
