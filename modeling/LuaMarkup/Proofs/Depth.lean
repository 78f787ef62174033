import LuaMarkup.Proofs.Exhaustion

/-!
# How deep boxes nest

Resolving takes room for two calls inside of one another for each box around another box, and
prints the items that a text stands for if there is that much (`Encodes.resolveWithin`). Only
strings and comments hold boxes. Each of their rules is exhausted by its first pass, and an
exhausted rule makes no box, so boxes nest at most four deep whatever rules are passed in what
order (`depthAll_boxedSource_le`). For what is made of a source there is always room
(`resolve_classify`).
-/

namespace LuaMarkup

namespace Item

mutual
/-- How many boxes stand around one another, a sentinel in the innermost counted as one. -/
def depth : Item → Nat
  | .char c => if c = sentinel then 1 else 0
  | .box _ content => depthAll content + 1
def depthAll : List Item → Nat
  | [] => 0
  | item :: items => max item.depth (depthAll items)
end

@[simp] theorem depthAll_append (left right : List Item) :
    depthAll (left ++ right) = max (depthAll left) (depthAll right) := by
  induction left with
  | nil => simp [depthAll]
  | cons item left ih => simp [depthAll, ih, Nat.max_assoc]

theorem depthAll_ofText_le (text : Text) : depthAll (ofText text) ≤ 1 := by
  induction text with
  | nil => exact Nat.zero_le _
  | cons c text ih =>
    rw [ofText_cons, depthAll, depth]
    split <;> omega

theorem depthAll_ofText_of_notMem {text : Text} (h : sentinel ∉ text) :
    depthAll (ofText text) = 0 := by
  induction text with
  | nil => rfl
  | cons c text ih =>
    obtain ⟨hc, htext⟩ := not_or.mp fun hor => h (List.mem_cons.mpr hor)
    rw [ofText_cons, depthAll, depth, if_neg (Ne.symm hc), ih htext]
    rfl

theorem depth_le_depthAll {item : Item} {items : List Item} (h : item ∈ items) :
    item.depth ≤ depthAll items := by
  induction items with
  | nil => cases h
  | cons first items ih =>
    rcases List.mem_cons.mp h with rfl | h
    · exact Nat.le_max_left _ _
    · exact Nat.le_trans (ih h) (Nat.le_max_right _ _)

end Item

-- ---------------------------------------------------------------------------
-- Resolving prints the items
-- ---------------------------------------------------------------------------

namespace Encodes

variable {table : Table}

theorem expandText_append (h : Encodes table limit items text) (hlimit : limit ≤ 10 ^ maxDigits)
    (hroom : 2 * Item.depthAll items ≤ room) (hrest : table.expandText room limit rest = .ok out) :
    table.expandText room limit (text ++ rest) = .ok (Item.renderAll items ++ out) := by
  induction h generalizing room rest out with
  | nil => exact hrest
  | char hc _ ih =>
    rw [Item.depthAll] at hroom
    rw [List.cons_append, Table.expandText_cons hc, ih hlimit (by omega) hrest]
    rfl
  | sentinel hindex hstored _ ih =>
    rw [Item.depthAll, Item.depth, if_pos rfl] at hroom
    obtain ⟨room, rfl⟩ := Nat.exists_eq_add_of_le' (by omega : 2 ≤ room)
    rw [List.append_assoc, Table.expandText_write_append hindex (Nat.lt_of_lt_of_le hindex hlimit)
      hstored, Table.expandText_sentinel, ih hlimit (by omega) hrest]
    rfl
  | @box index limit content stored items text category hindex hstored _ _ ihcontent ih =>
    rw [Item.depthAll, Item.depth] at hroom
    obtain ⟨room, rfl⟩ := Nat.exists_eq_add_of_le' (by omega : 2 ≤ room)
    have hdigits := Nat.lt_of_lt_of_le hindex hlimit
    have hclose : table.expandText room index Category.closeTag = .ok Category.closeTag :=
      Table.expandText_of_notMem Category.sentinel_notMem_closeTag
    have hwrap : table.expandText room index (category.wrap stored) =
        .ok (category.wrap (Item.renderAll content)) := by
      rw [Category.wrap, Category.wrap, List.append_assoc, List.append_assoc]
      exact Table.expandText_append_of_notMem category.sentinel_notMem_openTag
        (ihcontent (Nat.le_of_lt hdigits) (by omega) hclose)
    rw [List.append_assoc, Table.expandText_write_append hindex hdigits hstored, hwrap,
      ih hlimit (by omega) hrest, Table.inTurn_ok, Item.renderAll, Item.render, List.append_assoc]

theorem resolveWithin (h : Encodes table table.size items text)
    (hsize : table.size ≤ 10 ^ maxDigits) (hroom : 2 * Item.depthAll items ≤ room) :
    table.resolveWithin room text = .ok (Item.renderAll items) := by
  simpa [Table.resolveWithin_eq] using h.expandText_append hsize hroom Table.expandText_nil

end Encodes

-- ---------------------------------------------------------------------------
-- How deep one pass nests
-- ---------------------------------------------------------------------------

theorem Rule.Accepts.depthAll_eq_zero {rule : Rule} {m c : List Item} (h : rule.Accepts m c)
    (hrule : rule ∉ Rule.nesting) : Item.depthAll m = 0 := by
  have hwords : ∀ rule ∈ all, ∀ word ∈ rule.words, sentinel ∉ word := by decide
  obtain ⟨word, hmem, hspell⟩ := h.exists_spells hrule
  rw [Item.spells_iff.mp hspell]
  exact Item.depthAll_ofText_of_notMem (hwords rule (by cases rule <;> decide) word hmem)

/-- A pass nests as deep as its deepest match. -/
theorem Rule.depthAll_box_le {rule : Rule} {items : List Item} (hle : n ≤ n')
    (hitems : Item.depthAll items ≤ n)
    (hmatch : ∀ m c, rule.Accepts m c → Item.depthAll m ≤ n → Item.depthAll m < n') :
    Item.depthAll (rule.box items) ≤ n' := by
  induction items using @Rule.induction_on Item _ rule with
  | nil =>
    rw [box_nil]
    exact Nat.zero_le _
  | hit item items hit h ih =>
    rw [append_of_match? h] at hitems
    simp only [Item.depthAll_append] at hitems
    have hmatched := hmatch _ _ (match?_sound h) (by omega)
    have hrest := ih (by omega)
    rw [box_of_match? h, Item.depthAll, Item.depth, Item.depthAll_append]
    omega
  | plain item items h ih =>
    rw [Item.depthAll] at hitems
    have hrest := ih (by omega)
    rw [box_of_match?_eq_none h, Item.depthAll]
    omega

theorem Segment.flatMap_boxed_of_plain {R : Item → Text → Prop} {category : Category}
    {segments : List (Segment Item)} {segments' : List (Segment Char)}
    (h : SegmentBlocks R segments segments') (hplain : ∀ s ∈ segments', ∃ c, s = .plain c) :
    segments.flatMap (boxed category) = segments.flatMap items := by
  induction h with
  | nil => rfl
  | plain _ _ ih =>
    rw [List.flatMap_cons, List.flatMap_cons,
      ih fun s hs => hplain s (List.mem_append_right _ hs)]
    rfl
  | hit =>
    obtain ⟨c, hc⟩ := hplain _ List.mem_cons_self
    cases hc

/-- A rule that is exhausted in a text makes no box of what the text stands for. -/
theorem Encodes.box_of_exhausted {table : Table} {rule : Rule}
    (h : Encodes table limit items text) (hrule : rule.Exhausted text) :
    rule.box items = items := by
  have hblocks := h.segmentBlocks rule
  rw [Rule.segments_of_exhausted hrule] at hblocks
  rw [Rule.box, Segment.flatMap_boxed_of_plain hblocks, Segment.flatMap_items_segments]
  intro s hs
  obtain ⟨c, -, rfl⟩ := List.mem_map.mp hs
  exact ⟨c, rfl⟩

-- ---------------------------------------------------------------------------
-- How deep all passes nest
-- ---------------------------------------------------------------------------

/-- Rules of those that nest which are exhausted in a text. It stands for items with no more boxes
around one another than one for each of these rules and an innermost one. -/
structure Spent (rules : List Rule) (items : List Item) (text : Text) : Prop where
  nodup : rules.Nodup
  nesting : rules ⊆ Rule.nesting
  exhausted : ∀ rule ∈ rules, rule.Exhausted text
  depth_le : Item.depthAll items ≤ rules.length + 1

/-- A pass spends its rule if that nests and is not spent already. -/
theorem Spent.exists_apply {spent : List Rule} {draft : Draft} (h : Spent spent items draft.text)
    (hencodes : Encodes draft.table draft.table.size items draft.text) (rule : Rule) :
    ∃ spent', Spent spent' (rule.box items) (rule.apply draft).text := by
  have hafter : ∀ other ∈ spent, other.Exhausted (rule.apply draft).text := fun other hother =>
    (h.exhausted other hother).apply rule
  by_cases hspent : rule ∈ spent
  · rw [hencodes.box_of_exhausted (h.exhausted rule hspent)]
    exact ⟨spent, h.nodup, h.nesting, hafter, h.depth_le⟩
  by_cases hnesting : rule ∈ Rule.nesting
  · refine ⟨rule :: spent, List.nodup_cons.mpr ⟨hspent, h.nodup⟩,
      List.cons_subset.mpr ⟨hnesting, h.nesting⟩,
      List.forall_mem_cons.mpr ⟨rule.exhausted_apply draft, hafter⟩, ?_⟩
    exact rule.depthAll_box_le (Nat.le_succ _) h.depth_le fun m c _ hm => Nat.lt_succ_of_le hm
  · refine ⟨spent, h.nodup, h.nesting, hafter, ?_⟩
    refine rule.depthAll_box_le (Nat.le_refl _) h.depth_le fun m c haccepts _ => ?_
    rw [haccepts.depthAll_eq_zero hnesting]
    exact Nat.succ_pos _

theorem Spent.depthAll_boxAll_le {spent : List Rule} {draft : Draft}
    (h : Spent spent items draft.text)
    (hencodes : Encodes draft.table draft.table.size items draft.text) (rules : List Rule) :
    Item.depthAll (boxAll rules items) ≤ 4 := by
  induction rules generalizing spent items draft with
  | nil =>
    have hlength : spent.length ≤ 3 := (List.subperm_of_subset h.nodup h.nesting).length_le
    exact Nat.le_trans h.depth_le (Nat.succ_le_succ hlength)
  | cons rule rules ih =>
    obtain ⟨spent', hspent'⟩ := h.exists_apply hencodes rule
    exact ih hspent' (hencodes.apply rule)

/-- A string in a string in a comment, in any order, and an escape or a sentinel in all of
them. -/
theorem depthAll_boxedSource_le (rules : List Rule) (source : Text) :
    Item.depthAll (boxedSource rules source) ≤ 4 := by
  have hnone : Spent [] (Item.ofText (Escape.plain source ++ lineEnd))
      (escapeSource source Table.empty).text :=
    ⟨List.nodup_nil, List.nil_subset _, nofun, Item.depthAll_ofText_le _⟩
  exact hnone.depthAll_boxAll_le (encodes_escapeSource source Table.empty) rules

theorem resolve_classify {rules : List Rule} {source : Text} {table : Table}
    (h : (classify rules (escapeSource source table)).table.size ≤ 10 ^ maxDigits) :
    (classify rules (escapeSource source table)).table.resolve
        (classify rules (escapeSource source table)).text =
      .ok (Item.renderAll (boxedSource rules source)) := by
  have hroom : 2 * Item.depthAll (boxedSource rules source) ≤ Table.callRoom :=
    Nat.le_trans (Nat.mul_le_mul_left 2 (depthAll_boxedSource_le rules source)) (by decide)
  exact ((encodes_escapeSource source table).classify rules).resolveWithin h hroom

end LuaMarkup
