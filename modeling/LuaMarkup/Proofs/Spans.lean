import LuaMarkup.Proofs.Content

/-!
# The spans of a markup

`spanTags` lists the opening and closing tags that stand in a text, from left to right. Of
printed items they are the tags of the boxes (`spanTags_renderAll`): neither the pieces that
escaping puts nor what printing joins make another. A pass adds the tags of its matches
(`count_tagsAll_boxed`).
-/

namespace LuaMarkup

inductive SpanTag where
  | opening (category : Category)
  | closing
deriving DecidableEq, Repr

namespace SpanTag

def text : SpanTag → Text
  | .opening category => category.openTag
  | .closing => Category.closeTag

def all : List SpanTag :=
  Category.all.map .opening ++ [.closing]

end SpanTag

/-- The tags of spans in a text, wherever they stand. -/
def spanTags (text : Text) : List SpanTag :=
  text.tails.filterMap fun rest => SpanTag.all.find? fun tag => tag.text.isPrefixOf rest

/-- The tags of the span that a match is put in. -/
def Match.tags (m : Match) : List SpanTag :=
  [.opening m.rule.category, .closing]

theorem spanTags_cons {c : Char} (h : c ≠ '<') (rest : Text) :
    spanTags (c :: rest) = spanTags rest := by
  have hfirst : ∀ tag ∈ SpanTag.all, ∃ letters, tag.text = '<' :: letters := by
    intro tag _
    cases tag with
    | opening category => exact ⟨_, rfl⟩
    | closing => exact ⟨_, rfl⟩
  have hnone : SpanTag.all.find? (fun tag => tag.text.isPrefixOf (c :: rest)) = none := by
    rw [List.find?_eq_none]
    intro tag hmem hstart
    obtain ⟨letters, heq⟩ := hfirst tag hmem
    rw [heq] at hstart
    exact h (List.cons_prefix_cons.mp (List.isPrefixOf_iff_prefix.mp hstart)).1.symm
  rw [spanTags, List.tails_cons, List.filterMap_cons, hnone]
  rfl

theorem spanTags_entity_append {entity : Text} (h : entity ∈ entities) (rest : Text) :
    spanTags (entity ++ rest) = spanTags rest := by
  simp only [entities, List.mem_cons, List.not_mem_nil, or_false] at h
  rcases h with rfl | rfl | rfl | rfl <;> rfl

theorem spanTags_openTag_append (category : Category) (rest : Text) :
    spanTags (category.openTag ++ rest) = .opening category :: spanTags rest := by
  cases category <;> rfl

theorem spanTags_closeTag_append (rest : Text) :
    spanTags (Category.closeTag ++ rest) = .closing :: spanTags rest := rfl

namespace Item

mutual
/-- The tags that printing an item puts. -/
def tags : Item → List SpanTag
  | .char _ => []
  | .box category content => .opening category :: (tagsAll content ++ [.closing])
def tagsAll : List Item → List SpanTag
  | [] => []
  | item :: items => item.tags ++ tagsAll items
end

@[simp] theorem tagsAll_append (left right : List Item) :
    tagsAll (left ++ right) = tagsAll left ++ tagsAll right := by
  induction left with
  | nil => rfl
  | cons item left ih => simp [tagsAll, ih]

@[simp] theorem tagsAll_ofText (text : Text) : tagsAll (ofText text) = [] := by
  induction text with
  | nil => rfl
  | cons c text ih => simp [tagsAll, tags, ih]

end Item

theorem spanTags_renderAll_append (h : Whole items) (rest : Text) :
    spanTags (Item.renderAll items ++ rest) = Item.tagsAll items ++ spanTags rest := by
  induction h generalizing rest with
  | nil => rfl
  | @plain c items hplain _ ih =>
    have hc : c ≠ '<' := by
      rintro rfl
      exact absurd hplain (by decide)
    simp only [Item.renderAll, Item.render, Item.tagsAll, Item.tags, List.cons_append,
      List.nil_append]
    rw [spanTags_cons hc, ih]
  | entity hmem _ ih =>
    simp only [Item.renderAll_append, Item.renderAll_ofText, Item.tagsAll_append,
      Item.tagsAll_ofText, List.append_assoc, List.nil_append]
    rw [spanTags_entity_append hmem, ih]
  | box _ _ ihcontent ih =>
    simp only [Item.renderAll, Item.render, Category.wrap, Item.tagsAll, Item.tags,
      List.append_assoc, List.cons_append, List.nil_append]
    rw [spanTags_openTag_append, ihcontent, spanTags_closeTag_append, ih]

theorem spanTags_renderAll (h : Whole items) :
    spanTags (Item.renderAll items) = Item.tagsAll items := by
  have hnil : spanTags [] = [] := rfl
  simpa [hnil] using spanTags_renderAll_append h []

example : spanTags (Item.renderAll [.box .comment [.box .string [.char '\'']], .char '/']) =
    [.opening .comment, .opening .string, .closing, .closing] := by
  decide

-- ---------------------------------------------------------------------------
-- A pass
-- ---------------------------------------------------------------------------

/-- The boxes of a pass are those that were there and one for each match that is reported. -/
theorem count_tagsAll_boxed {R : Item → Text → Prop} (rule : Rule)
    (h : SegmentBlocks R segments segments') (tag : SpanTag) :
    (Item.tagsAll (segments.flatMap (Segment.boxed rule.category))).count tag =
      (Item.tagsAll (segments.flatMap Segment.items)).count tag +
        ((Segment.reports rule segments').flatMap Match.tags).count tag := by
  induction h with
  | nil => rfl
  | plain _ _ ih =>
    rw [Encodes.reports_plain_append]
    simp only [List.flatMap_cons, Segment.boxed, Segment.items, Item.tagsAll_append,
      List.count_append]
    omega
  | hit _ _ _ ih =>
    simp only [List.flatMap_cons, Segment.boxed, Segment.items, Segment.reports, Match.tags,
      Item.tagsAll_append, Item.tagsAll, Item.tags, List.count_append, List.count_cons,
      List.count_nil]
    omega

theorem count_tagsAll_box (rule : Rule) {draft : Draft}
    (h : Encodes draft.table draft.table.size items draft.text) (tag : SpanTag) :
    (Item.tagsAll (rule.box items)).count tag =
      (Item.tagsAll items).count tag + ((rule.apply draft).trace.flatMap Match.tags).count tag := by
  have hcount := count_tagsAll_boxed rule (h.segmentBlocks rule) tag
  rwa [Segment.flatMap_items_segments] at hcount

theorem count_tagsAll_boxAll (rules : List Rule) {draft : Draft}
    (h : Encodes draft.table draft.table.size items draft.text) (tag : SpanTag) :
    (Item.tagsAll (boxAll rules items)).count tag =
      (Item.tagsAll items).count tag +
        ((classify rules draft).trace.flatMap Match.tags).count tag := by
  induction rules generalizing draft items with
  | nil => rfl
  | cons rule rules ih =>
    rw [boxAll_cons, ih (h.apply rule), count_tagsAll_box rule h, classify, List.flatMap_append,
      List.count_append, Nat.add_assoc]

/-- The markup of a classified source has one span for each match, of the match's category. -/
theorem perm_tagsAll_boxedSource (rules : List Rule) (source : Text) (table : Table) :
    (Item.tagsAll (boxedSource rules source)).Perm
      ((classify rules (escapeSource source table)).trace.flatMap Match.tags) := by
  rw [List.perm_iff_count]
  intro tag
  have hcount := count_tagsAll_boxAll rules (encodes_escapeSource source table) tag
  rwa [Item.tagsAll_ofText, List.count_nil, Nat.zero_add] at hcount

end LuaMarkup
