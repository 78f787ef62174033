import LuaMarkup.Proofs.Opaque

/-!
# How deep tokens refer

A token stands for a stored text that may hold tokens itself. `Table.Chain` follows such tokens
from a text into a table, and `Table.Expands` is an expansion in which every token met gives
way, with a bound on how deep stored texts are expanded inside of one another. A chain is no
longer than boxes nest in the items that the text stands for, and only strings and comments
hold boxes. So highlighting expands every token there is, at most four deep
(`highlight_total`), whatever the source.
-/

namespace LuaMarkup

/-- Every token of the text is one that is written for an index below the limit. -/
def RefersBelow (limit : Nat) (text : Text) : Prop :=
  ∀ digits, .token digits ∈ Piece.split text → ∃ index < limit, digits = Nat.toDigits 10 index

namespace Table

/-- Each stored text refers to entries before it only. -/
def PointsBack (table : Table) : Prop :=
  ∀ index stored, table.get? index = some stored → RefersBelow index stored

/-- Tokens each of which stands in the text stored for the one before it. -/
inductive Chain (table : Table) : Text → List Nat → Prop
  | nil : Chain table text []
  | cons : .token digits ∈ Piece.split text → readNumeral digits = .ok index →
      table.get? index = some stored → Chain table stored indices →
      Chain table text (index :: indices)

/-- An expansion that leaves no token and goes at most `depth` stored texts deep. -/
inductive Expands (table : Table) : Nat → Nat → List Piece → Text → Prop
  | nil : Expands table depth limit [] []
  | char : Expands table depth limit pieces out →
      Expands table depth limit (.char c :: pieces) (c :: out)
  | token : readNumeral digits = .ok index → index < limit → table.get? index = some stored →
      Expands table depth index (Piece.split stored) head →
      Expands table (depth + 1) limit pieces out →
      Expands table (depth + 1) limit (.token digits :: pieces) (head ++ out)

-- ---------------------------------------------------------------------------
-- Short chains make shallow expansions
-- ---------------------------------------------------------------------------

theorem Expands.expand_eq {table : Table} (h : table.Expands depth limit pieces out)
    (hroom : 2 * depth ≤ room) : table.expand room limit pieces = .ok out := by
  induction h generalizing room with
  | nil => exact expand_nil _ _
  | char _ ih => rw [expand_cons, expand_char, ih hroom, inTurn_ok, List.singleton_append]
  | token hread hindex hstored _ _ ihhead ih =>
    obtain ⟨room, rfl⟩ := Nat.exists_eq_add_of_le' (by omega : 2 ≤ room)
    rw [expand_cons, expand_token_of_get? hread hindex hstored, expandText, ihhead (by omega),
      ih hroom, inTurn_ok]

/-- An expansion is put together from those of the texts that the tokens stand for. -/
theorem exists_expands_of_tokens {table : Table} {pieces : List Piece}
    (h : ∀ digits, .token digits ∈ pieces → ∃ below index stored head, depth = below + 1 ∧
      readNumeral digits = .ok index ∧ index < limit ∧ table.get? index = some stored ∧
      table.Expands below index (Piece.split stored) head) :
    ∃ out, table.Expands depth limit pieces out := by
  induction pieces with
  | nil => exact ⟨[], .nil⟩
  | cons piece pieces ih =>
    obtain ⟨out, hout⟩ := ih fun digits hmem => h digits (List.mem_cons_of_mem piece hmem)
    cases piece with
    | char c => exact ⟨c :: out, .char hout⟩
    | token digits =>
      obtain ⟨below, index, stored, head, rfl, hread, hindex, hstored, hhead⟩ :=
        h digits List.mem_cons_self
      exact ⟨head ++ out, .token hread hindex hstored hhead hout⟩

theorem exists_expands {table : Table} (hback : table.PointsBack)
    (hsize : table.size ≤ 10 ^ maxDigits) (hlimit : limit ≤ table.size)
    (hrefers : RefersBelow limit text)
    (hchain : ∀ indices, table.Chain text indices → indices.length ≤ depth) :
    ∃ out, table.Expands depth limit (Piece.split text) out := by
  induction depth generalizing limit text with
  | zero =>
    refine exists_expands_of_tokens fun digits hmem => ?_
    obtain ⟨index, hindex, rfl⟩ := hrefers digits hmem
    obtain ⟨stored, hstored⟩ := exists_get?_eq_some (Nat.lt_of_lt_of_le hindex hlimit)
    have hread := readNumeral_toDigits (Nat.lt_of_lt_of_le hindex (Nat.le_trans hlimit hsize))
    exact absurd (hchain [index] (.cons hmem hread hstored .nil)) (by simp)
  | succ depth ih =>
    refine exists_expands_of_tokens fun digits hmem => ?_
    obtain ⟨index, hindex, rfl⟩ := hrefers digits hmem
    have hbelow := Nat.lt_of_lt_of_le hindex hlimit
    obtain ⟨stored, hstored⟩ := exists_get?_eq_some hbelow
    have hread := readNumeral_toDigits (Nat.lt_of_lt_of_le hbelow hsize)
    obtain ⟨head, hhead⟩ := ih (Nat.le_of_lt hbelow) (hback index stored hstored)
      fun indices hindices =>
        Nat.le_of_succ_le_succ (hchain _ (.cons hmem hread hstored hindices))
    exact ⟨depth, index, stored, head, rfl, hread, hindex, hstored, hhead⟩

end Table

-- ---------------------------------------------------------------------------
-- Chains follow boxes
-- ---------------------------------------------------------------------------

/-- What is stored under an index for the item that its token stands for. -/
inductive StoredAs (table : Table) (index : Nat) : Item → Text → Prop
  | sentinel : StoredAs table index (.char sentinel) [sentinel]
  | box : Encodes table index content text →
      StoredAs table index (.box category content) (category.wrap text)

theorem encodes_ofText {text : Text} (h : sentinel ∉ text) (table : Table) (limit : Nat) :
    Encodes table limit (Item.ofText text) text := by
  induction text with
  | nil => exact .nil
  | cons c text ih =>
    obtain ⟨hc, htext⟩ := not_or.mp fun hor => h (List.mem_cons.mpr hor)
    exact .char (Ne.symm hc) (ih htext)

namespace Encodes

variable {table : Table}

/-- The tags of a span hold no token. -/
theorem wrap (category : Category) (h : Encodes table limit content text) :
    Encodes table limit
      (Item.ofText category.openTag ++ content ++ Item.ofText Category.closeTag)
      (category.wrap text) :=
  ((encodes_ofText category.sentinel_notMem_openTag table limit).append h).append
    (encodes_ofText Category.sentinel_notMem_closeTag table limit)

/-- A token of the text stands for one of the items. -/
theorem exists_storedAs (h : Encodes table limit items text)
    (hmem : .token digits ∈ Piece.split text) :
    ∃ index < limit, digits = Nat.toDigits 10 index ∧
      ∃ item ∈ items, ∃ stored, table.get? index = some stored ∧
        StoredAs table index item stored := by
  induction h with
  | nil =>
    rw [Piece.split] at hmem
    cases hmem
  | char hc _ ih =>
    rw [Piece.split_cons hc] at hmem
    have hmem := List.mem_of_ne_of_mem Piece.noConfusion hmem
    obtain ⟨index, hindex, hdigits, item, hitem, hstored⟩ := ih hmem
    exact ⟨index, hindex, hdigits, item, List.mem_cons_of_mem _ hitem, hstored⟩
  | sentinel hindex hstored _ ih =>
    rw [Piece.split_write_append] at hmem
    rcases List.mem_cons.mp hmem with hdigits | hmem
    · exact ⟨_, hindex, Piece.token.inj hdigits, _, List.mem_cons_self, _, hstored, .sentinel⟩
    · obtain ⟨index, hindex, hdigits, item, hitem, hstored⟩ := ih hmem
      exact ⟨index, hindex, hdigits, item, List.mem_cons_of_mem _ hitem, hstored⟩
  | box hindex hstored hcontent _ _ ih =>
    rw [Piece.split_write_append] at hmem
    rcases List.mem_cons.mp hmem with hdigits | hmem
    · exact ⟨_, hindex, Piece.token.inj hdigits, _, List.mem_cons_self, _, hstored,
        .box hcontent⟩
    · obtain ⟨index, hindex, hdigits, item, hitem, hstored⟩ := ih hmem
      exact ⟨index, hindex, hdigits, item, List.mem_cons_of_mem _ hitem, hstored⟩

theorem refersBelow (h : Encodes table limit items text) : RefersBelow limit text := by
  intro digits hmem
  obtain ⟨index, hindex, hdigits, -⟩ := h.exists_storedAs hmem
  exact ⟨index, hindex, hdigits⟩

end Encodes

theorem StoredAs.refersBelow {table : Table} (h : StoredAs table index item stored) :
    RefersBelow index stored := by
  cases h with
  | sentinel =>
    intro digits hmem
    rw [Piece.split_sentinel] at hmem
    cases List.mem_singleton.mp hmem
  | box hcontent => exact (hcontent.wrap _).refersBelow

/-- A chain goes one box deeper with each token. -/
theorem Table.Chain.length_le_depthAll {table : Table} (hchain : table.Chain text indices)
    (h : Encodes table limit items text) (hlimit : limit ≤ 10 ^ maxDigits) :
    indices.length ≤ Item.depthAll items := by
  induction hchain generalizing limit items with
  | nil => exact Nat.zero_le _
  | @cons digits text index stored indices hmem hread hstored hrest ih =>
    obtain ⟨index', hindex, rfl, item, hitem, stored', hstored', hstoredAs⟩ :=
      h.exists_storedAs hmem
    have hdigits := Nat.lt_of_lt_of_le hindex hlimit
    obtain rfl : index' = index := Except.ok.inj ((readNumeral_toDigits hdigits).symm.trans hread)
    obtain rfl : stored' = stored := Option.some.inj (hstored'.symm.trans hstored)
    have hdepth := Item.depth_le_depthAll hitem
    cases hstoredAs with
    | sentinel =>
      cases hrest with
      | nil => exact hdepth
      | cons hmem =>
        rw [Piece.split_sentinel] at hmem
        cases List.mem_singleton.mp hmem
    | @box content inner category hcontent =>
      have hinside := ih (hcontent.wrap category) (Nat.le_of_lt hdigits)
      simp only [Item.depthAll_append,
        Item.depthAll_ofText_of_notMem category.sentinel_notMem_openTag,
        Item.depthAll_ofText_of_notMem Category.sentinel_notMem_closeTag] at hinside
      rw [Item.depth] at hdepth
      rw [List.length_cons]
      omega

-- ---------------------------------------------------------------------------
-- What the passes store
-- ---------------------------------------------------------------------------

/-- Every entry is one that a token of some item may have. -/
def Table.Sound (table : Table) : Prop :=
  ∀ index stored, table.get? index = some stored → ∃ item, StoredAs table index item stored

theorem Table.Sound.pointsBack {table : Table} (h : table.Sound) : table.PointsBack := by
  intro index stored hstored
  obtain ⟨item, hitem⟩ := h index stored hstored
  exact hitem.refersBelow

/-- What a text is stored as does not depend on later entries. -/
theorem StoredAs.append {table : Table} (h : StoredAs table index item stored)
    (hindex : index ≤ table.size) (texts : List Text) :
    StoredAs (table.append texts) index item stored := by
  cases h with
  | sentinel => exact .sentinel
  | box hcontent =>
    refine .box (hcontent.mono (Nat.le_refl _) fun i hi => ?_)
    exact Table.get?_append_of_lt (Nat.lt_of_lt_of_le hi hindex) texts

theorem Table.Sound.append {table : Table} {texts : List Text} (h : table.Sound)
    (htexts : ∀ text ∈ texts, ∀ index ≥ table.size, ∃ item,
      StoredAs (table.append texts) index item text) : (table.append texts).Sound := by
  intro index stored hstored
  by_cases hindex : index < table.size
  · rw [get?_append_of_lt hindex] at hstored
    obtain ⟨item, hitem⟩ := h index stored hstored
    exact ⟨item, hitem.append (Nat.le_of_lt hindex) texts⟩
  · obtain ⟨k, rfl⟩ := Nat.exists_eq_add_of_le (Nat.le_of_not_lt hindex)
    rw [get?_append_size_add] at hstored
    exact htexts stored (List.mem_of_getElem? hstored) _ (Nat.le_add_right _ _)

theorem sound_empty : Table.empty.Sound := by
  intro index stored hstored
  exact absurd (Table.index_lt_of_get? hstored) (Nat.not_lt_zero _)

theorem sound_escapeSource (source : Text) {table : Table} (h : table.Sound) :
    (escapeSource source table).table.Sound := by
  rw [escapeSource_eq]
  refine h.append fun text hmem index _ => ⟨.char sentinel, ?_⟩
  rw [List.eq_of_mem_replicate hmem]
  exact .sentinel

/-- The text of a match stands for items of its own. -/
theorem SegmentBlocks.exists_of_mem_reports {R : Item → Text → Prop} {rule : Rule}
    (h : SegmentBlocks R segments segments') (hmem : m ∈ Segment.reports rule segments') :
    ∃ matched, Blocks R matched m.matched := by
  induction h with
  | nil => cases hmem
  | plain _ _ ih =>
    rw [Encodes.reports_plain_append] at hmem
    exact ih hmem
  | hit hmatched _ _ ih =>
    rcases List.mem_cons.mp hmem with rfl | hmem
    · exact ⟨_, hmatched⟩
    · exact ih hmem

theorem sound_apply (rule : Rule) {draft : Draft}
    (h : Encodes draft.table draft.table.size items draft.text) (hsound : draft.table.Sound) :
    (rule.apply draft).table.Sound := by
  refine hsound.append fun text hmem index hindex => ?_
  obtain ⟨m, hm, rfl⟩ := List.mem_map.mp hmem
  obtain ⟨matched, hmatched⟩ := (h.segmentBlocks rule).exists_of_mem_reports hm
  refine ⟨_, .box ((Encodes.of_blocks hmatched).mono hindex fun i hi => ?_)⟩
  exact Table.get?_append_of_lt hi _

theorem sound_classify (rules : List Rule) {draft : Draft}
    (h : Encodes draft.table draft.table.size items draft.text) (hsound : draft.table.Sound) :
    (classify rules draft).table.Sound := by
  induction rules generalizing draft items with
  | nil => exact hsound
  | cons rule rules ih => exact ih (h.apply rule) (sound_apply rule h hsound)

-- ---------------------------------------------------------------------------
-- Highlighting
-- ---------------------------------------------------------------------------

/-- Highlighting gives a result for every source. Its table has no more entries than the source
has characters, every token is one that the table has issued for an entry before the place
where the token is met, and no chain of tokens is longer than four. -/
theorem highlight_total (source : Text) (h : source.length ≤ 10 ^ maxDigits) :
    (classifySource source).table.size ≤ source.length ∧
      RefersBelow (classifySource source).table.size (classifySource source).text ∧
      (classifySource source).table.PointsBack ∧
      (∀ indices, (classifySource source).table.Chain (classifySource source).text indices →
        indices.length ≤ 4) ∧
      ∃ markup, (classifySource source).table.Expands 4 (classifySource source).table.size
          (Piece.split (classifySource source).text) (markup ++ lineEnd) ∧
        highlight source = .ok markup := by
  have hescaped := encodes_escapeSource source Table.empty
  have hencodes : Encodes (classifySource source).table (classifySource source).table.size
      (boxedSource Rule.all source) (classifySource source).text := hescaped.classify Rule.all
  have hback : (classifySource source).table.PointsBack :=
    (sound_classify Rule.all hescaped (sound_escapeSource source sound_empty)).pointsBack
  have hlength := size_classify_le Rule.all source Table.empty
  rw [show Table.empty.size = 0 from rfl, Nat.zero_add] at hlength
  have hsize := size_classifySource_le h
  have hchain : ∀ indices,
      (classifySource source).table.Chain (classifySource source).text indices →
        indices.length ≤ 4 := fun indices hindices =>
    Nat.le_trans (hindices.length_le_depthAll hencodes hsize)
      (depthAll_boxedSource_le Rule.all source)
  obtain ⟨items, hboxed⟩ := exists_boxedSource_eq Rule.all source
  have hresolve := resolve_classifySource hsize hboxed
  obtain ⟨out, hout⟩ :=
    Table.exists_expands hback hsize (Nat.le_refl _) hencodes.refersBelow hchain
  obtain rfl : out = Item.renderAll items ++ lineEnd :=
    Except.ok.inj ((hout.expand_eq (by decide)).symm.trans hresolve)
  exact ⟨hlength, hencodes.refersBelow, hback, hchain, _, hout, highlight_of_resolve hresolve⟩

/-- A sentinel in a string in a string in a comment: the longest chain there is. -/
theorem highlight_total_nested :
    "--\"'$'\"".toList.length ≤ 10 ^ maxDigits ∧
      (∀ indices, (classifySource "--\"'$'\"".toList).table.Chain
        (classifySource "--\"'$'\"".toList).text indices → indices.length ≤ 4) ∧
      (classifySource "--\"'$'\"".toList).table.Chain
        (classifySource "--\"'$'\"".toList).text [3, 2, 1, 0] ∧
      ∃ markup, highlight "--\"'$'\"".toList = .ok markup := by
  have hlength := le_pow_maxDigits (by decide : "--\"'$'\"".toList.length ≤ _)
  obtain ⟨-, -, -, hchain, markup, -, hmarkup⟩ := highlight_total "--\"'$'\"".toList hlength
  have hcomment : (classifySource "--\"'$'\"".toList).table.get? 3 =
      some "<span class=\"comment\">--$2;</span>".toList := by decide +kernel
  have hdouble : (classifySource "--\"'$'\"".toList).table.get? 2 =
      some "<span class=\"string\">\"$1;\"</span>".toList := by decide +kernel
  have hsingle : (classifySource "--\"'$'\"".toList).table.get? 1 =
      some "<span class=\"string\">'$0;'</span>".toList := by decide +kernel
  have hsentinel : (classifySource "--\"'$'\"".toList).table.get? 0 = some [sentinel] := by
    decide +kernel
  have hreads : ∀ digits ∈ [['3'], ['2'], ['1'], ['0']],
      readNumeral digits = .ok (numeralValue digits) := by decide
  refine ⟨hlength, hchain, ?_, markup, hmarkup⟩
  refine .cons ?_ (hreads ['3'] (by decide)) hcomment ?_
  · decide +kernel
  refine .cons ?_ (hreads ['2'] (by decide)) hdouble ?_
  · decide +kernel
  refine .cons ?_ (hreads ['1'] (by decide)) hsingle ?_
  · decide +kernel
  refine .cons ?_ (hreads ['0'] (by decide)) hsentinel .nil
  decide +kernel

end LuaMarkup
