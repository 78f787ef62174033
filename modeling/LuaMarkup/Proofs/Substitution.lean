import LuaMarkup.Proofs.Content

/-!
# Reading markup in one pass

`Text.substitute` goes over a text once and puts values for keys. A pass that drops the tags of
spans and reads entities whole gives the same for boxes as for the letters in them
(`Reads.renderAll`), since no tag stands inside of an entity.
-/

namespace LuaMarkup

namespace Text

/-- One pass over a text behind its first `skip` characters. Where a key begins, the first such
key gives way to its value and the pass goes on behind the key; any other character stays. -/
def substituteFrom (codes : List (Text × Text)) : Nat → Text → Text
  | _, [] => []
  | skip + 1, _ :: rest => substituteFrom codes skip rest
  | 0, c :: rest =>
    match codes.find? fun code => code.1.isPrefixOf (c :: rest) with
    | some code => code.2 ++ substituteFrom codes (code.1.length - 1) rest
    | none => c :: substituteFrom codes 0 rest

def substitute (codes : List (Text × Text)) (text : Text) : Text :=
  substituteFrom codes 0 text

theorem substitute_nil (codes : List (Text × Text)) : substitute codes [] = [] := rfl

/-- A pass keeps plain characters if no key begins with one. -/
theorem substitute_cons {codes : List (Text × Text)}
    (hkeys : ∀ code ∈ codes, code.1 ≠ [] ∧ ∀ d ∈ code.1.take 1, ¬Escape.IsPlain d) {c : Char}
    (hplain : Escape.IsPlain c) (rest : Text) :
    substitute codes (c :: rest) = c :: substitute codes rest := by
  have hnone : codes.find? (fun code => code.1.isPrefixOf (c :: rest)) = none := by
    rw [List.find?_eq_none]
    rintro ⟨key, value⟩ hmem hprefix
    obtain ⟨hne, hhead⟩ := hkeys _ hmem
    obtain ⟨d, key, rfl⟩ := List.exists_cons_of_ne_nil hne
    obtain rfl := (List.cons_prefix_cons.mp (List.isPrefixOf_iff_prefix.mp hprefix)).1
    exact hhead d List.mem_cons_self hplain
  rw [substitute, substituteFrom, hnone]
  rfl

end Text

/-- The tags of spans, to be dropped. -/
def spanCodes : List (Text × Text) :=
  Category.all.map (·.openTag, []) ++ [(Category.closeTag, [])]

/-- A pass that drops the tags of spans, reads entities whole and keeps plain characters. -/
structure Reads (codes : List (Text × Text)) : Prop where
  openTag : ∀ (category : Category) rest,
    Text.substitute codes (category.openTag ++ rest) = Text.substitute codes rest
  closeTag : ∀ rest, Text.substitute codes (Category.closeTag ++ rest) = Text.substitute codes rest
  entity : ∀ entity ∈ entities, ∀ rest, Text.substitute codes (entity ++ rest) =
    Text.substitute codes entity ++ Text.substitute codes rest
  plain : ∀ {c}, Escape.IsPlain c → ∀ rest,
    Text.substitute codes (c :: rest) = c :: Text.substitute codes rest

namespace Reads

variable {codes : List (Text × Text)}

theorem renderAll_append (h : Reads codes) (hwhole : Whole items)
    (hrest : Text.substitute codes rest = Text.substitute codes rest') :
    Text.substitute codes (Item.renderAll items ++ rest) =
      Text.substitute codes (Item.lettersAll items ++ rest') := by
  -- behind the content of a box stand its closing tag on one side and nothing on the other
  induction hwhole generalizing rest rest' with
  | nil => exact hrest
  | @plain c items hplain _ ih =>
    simp only [Item.renderAll, Item.render, Item.lettersAll, Item.letters, List.cons_append,
      List.nil_append]
    rw [h.plain hplain, h.plain hplain, ih hrest]
  | @entity entity items hmem _ ih =>
    simp only [Item.renderAll_append, Item.renderAll_ofText, Item.lettersAll_append,
      Item.lettersAll_ofText, List.append_assoc]
    rw [h.entity entity hmem, h.entity entity hmem, ih hrest]
  | @box content items category _ _ ihcontent ih =>
    simp only [Item.renderAll, Item.render, Category.wrap, Item.lettersAll, Item.letters,
      List.append_assoc]
    rw [h.openTag]
    apply ihcontent
    rw [h.closeTag]
    exact ih hrest

/-- Spans make no difference to the pass. -/
theorem renderAll (h : Reads codes) (hwhole : Whole items) :
    Text.substitute codes (Item.renderAll items) =
      Text.substitute codes (Item.lettersAll items) := by
  have hrest : Text.substitute codes [] = Text.substitute codes [] := rfl
  simpa using h.renderAll_append hwhole hrest

theorem character (h : Reads codes) (c : Char) (rest : Text) :
    Text.substitute codes (Escape.character c ++ rest) =
      Text.substitute codes (Escape.character c) ++ Text.substitute codes rest := by
  by_cases hplain : Escape.IsPlain c
  · rw [Escape.character_of_isPlain hplain, List.singleton_append, h.plain hplain, h.plain hplain]
    rfl
  · obtain ⟨entity, hmem, n, heq⟩ := Escape.character_of_not_isPlain hplain
    rw [heq]
    clear heq
    induction n with
    | zero => rfl
    | succ n ih =>
      rw [List.replicate_succ, List.flatten_cons, List.append_assoc, h.entity entity hmem, ih,
        h.entity entity hmem, List.append_assoc]

/-- Escaped text is read character by character of the source. -/
theorem escaped (h : Reads codes) (source rest : Text) :
    Text.substitute codes (Escape.plain source ++ rest) =
      (Text.joinLineEnds source).flatMap
        (fun c => Text.substitute codes (Escape.character c)) ++ Text.substitute codes rest := by
  rw [Escape.plain]
  induction Text.joinLineEnds source with
  | nil => rfl
  | cons c text ih =>
    rw [List.flatMap_cons, List.append_assoc, h.character, ih, List.flatMap_cons,
      List.append_assoc]

end Reads

end LuaMarkup
