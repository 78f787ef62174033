import LuaMarkup.Proofs.Chain
import LuaMarkup.Proofs.Spans

/-!
# Each token is used once

A match takes tokens out of the working text into the text that is stored for it, and leaves one
new token behind. So of the indices that escaping and classifying a source hand out, each stands
in one place at any time: in the working text, or in a text stored under a greater index
(`Linear`). `classify_linear` says so of any rules in any order, with what the table and the
report of the matches hold, and that the markup has one span for each match.
-/

namespace LuaMarkup

def Piece.index? : Piece → Option Nat
  | .char _ => none
  | .token digits => some (numeralValue digits)

/-- The indices that the tokens of a text write, from left to right. -/
def tokenIndices (text : Text) : List Nat :=
  (Piece.split text).filterMap Piece.index?

theorem tokenIndices_nil : tokenIndices [] = [] := by
  rw [tokenIndices, Piece.split]
  rfl

theorem tokenIndices_cons {c : Char} (h : c ≠ sentinel) (rest : Text) :
    tokenIndices (c :: rest) = tokenIndices rest := by
  rw [tokenIndices, Piece.split_cons h]
  rfl

theorem tokenIndices_sentinel : tokenIndices [sentinel] = [] := by
  rw [tokenIndices, Piece.split_sentinel]
  rfl

theorem tokenIndices_write_append (index : Nat) (rest : Text) :
    tokenIndices (Token.write index ++ rest) = index :: tokenIndices rest := by
  have hindex : (Piece.token (Nat.toDigits 10 index)).index? = some index :=
    congrArg some (numeralValue_toDigits index)
  rw [tokenIndices, Piece.split_write_append, List.filterMap_cons_some hindex]
  rfl

theorem tokenIndices_append_of_notMem {front : Text} (h : sentinel ∉ front) (rest : Text) :
    tokenIndices (front ++ rest) = tokenIndices rest := by
  induction front with
  | nil => rfl
  | cons c front ih =>
    obtain ⟨hc, hfront⟩ := not_or.mp fun hor => h (List.mem_cons.mpr hor)
    rw [List.cons_append, tokenIndices_cons (Ne.symm hc), ih hfront]

/-- A text that stands for items holds its tokens whole. -/
theorem Encodes.tokenIndices_append {table : Table} (h : Encodes table limit items text)
    (rest : Text) : tokenIndices (text ++ rest) = tokenIndices text ++ tokenIndices rest := by
  induction h with
  | nil => rw [tokenIndices_nil, List.nil_append, List.nil_append]
  | char hc _ ih => rw [List.cons_append, tokenIndices_cons hc, tokenIndices_cons hc, ih]
  | sentinel _ _ _ ih | box _ _ _ _ _ ih =>
    rw [List.append_assoc, tokenIndices_write_append, tokenIndices_write_append, ih,
      List.cons_append]

theorem Encodes.lt_of_mem_tokenIndices {table : Table} (h : Encodes table limit items text)
    (hmem : index ∈ tokenIndices text) : index < limit := by
  obtain ⟨piece, hpiece, heq⟩ := List.mem_filterMap.mp hmem
  cases piece with
  | char c => cases heq
  | token digits =>
    obtain ⟨below, hbelow, rfl⟩ := h.refersBelow digits hpiece
    obtain rfl := Option.some.inj heq
    rwa [numeralValue_toDigits]

theorem Encodes.tokenIndices_wrap {table : Table} (category : Category)
    (h : Encodes table limit items text) :
    tokenIndices (category.wrap text) = tokenIndices text := by
  have hclose : tokenIndices Category.closeTag = [] := by
    simpa [tokenIndices_nil] using
      tokenIndices_append_of_notMem Category.sentinel_notMem_closeTag []
  rw [Category.wrap, List.append_assoc,
    tokenIndices_append_of_notMem category.sentinel_notMem_openTag, h.tokenIndices_append, hclose,
    List.append_nil]

-- ---------------------------------------------------------------------------
-- A pass
-- ---------------------------------------------------------------------------

/-- Where a pass replaces the matches by tokens numbered from `next`, the tokens that stood in
the text stand in the new text or in what is stored, next to the new ones. -/
theorem count_tokenIndices_withTokens (rule : Rule) {table : Table}
    (h : SegmentBlocks (Encodes.Block table limit) segments segments') (next index : Nat) :
    (tokenIndices (Segment.withTokens next segments')).count index +
        ((Segment.reports rule segments').flatMap fun m => tokenIndices m.markup).count index =
      (tokenIndices (segments'.flatMap Segment.items)).count index +
        (List.range' next (Segment.reports rule segments').length).count index := by
  induction h generalizing next with
  | nil => rfl
  | @plain _ block _ segments' hblock _ ih =>
    have hblock : Encodes table limit _ block := hblock
    have hitems : (block.map Segment.plain ++ segments').flatMap Segment.items =
        block ++ segments'.flatMap Segment.items := by
      simp [List.flatMap_map, Segment.items]
    rw [hitems, Encodes.withTokens_plain_append, Encodes.reports_plain_append,
      hblock.tokenIndices_append, hblock.tokenIndices_append, List.count_append, List.count_append,
      Nat.add_assoc, ih next, Nat.add_assoc]
  | @hit _ matched' _ context' _ segments' hmatched hcontext _ ih =>
    have hmatched := Encodes.of_blocks hmatched
    have hcontext := Encodes.of_blocks hcontext
    have hmarkup : tokenIndices (Match.markup ⟨rule, matched', context'⟩) = tokenIndices matched' :=
      hmatched.tokenIndices_wrap rule.category
    have hrest := ih (next + 1)
    simp only [Segment.withTokens, Segment.reports, Segment.items, List.flatMap_cons,
      List.append_assoc, tokenIndices_write_append, hcontext.tokenIndices_append,
      hmatched.tokenIndices_append, hmarkup, List.length_cons, List.range'_succ, List.count_append,
      List.count_cons]
    omega

/-- The tokens of a draft and of the texts stored for it behind a table are the new indices, each
once, and a stored text holds smaller indices than its own. -/
structure Linear (table : Table) (draft : Draft) (stored : List Text) : Prop where
  table_eq : draft.table = table.append stored
  once : (tokenIndices draft.text ++ stored.flatMap tokenIndices).Perm
    (List.range' table.size stored.length)
  back : ∀ k text, stored[k]? = some text → ∀ index ∈ tokenIndices text, index < table.size + k

theorem Linear.apply {draft : Draft} (h : Linear table draft stored) (rule : Rule)
    (hitems : Encodes draft.table draft.table.size items draft.text) :
    Linear table (rule.apply draft).toDraft
      (stored ++ (rule.apply draft).trace.map Match.markup) where
  table_eq := by rw [Rule.apply_eq, h.table_eq, Table.append_append]
  once := by
    have hsize : draft.table.size = table.size + stored.length := by
      rw [h.table_eq, Table.size_append]
    rw [List.perm_iff_count]
    intro index
    have hpass :=
      count_tokenIndices_withTokens rule (hitems.segmentBlocks rule) draft.table.size index
    have hbefore := h.once.count_eq index
    rw [Segment.flatMap_items_segments] at hpass
    simp only [Rule.apply_eq, List.flatMap_append, List.flatMap_map, List.length_append,
      List.length_map, List.count_append, ← List.range'_append_1, ← hsize] at hpass hbefore ⊢
    omega
  back := by
    intro k text htext index hindex
    by_cases hk : k < stored.length
    · rw [List.getElem?_append_left hk] at htext
      exact h.back k text htext index hindex
    · obtain ⟨m, hm, rfl⟩ := List.mem_map.mp <| List.mem_of_getElem? <|
        (List.getElem?_append_right (Nat.le_of_not_lt hk)).symm.trans htext
      obtain ⟨matched, hmatched⟩ := (hitems.segmentBlocks rule).exists_of_mem_reports hm
      have hmatched := Encodes.of_blocks hmatched
      rw [Match.markup, hmatched.tokenIndices_wrap] at hindex
      have hlt := hmatched.lt_of_mem_tokenIndices hindex
      rw [h.table_eq, Table.size_append] at hlt
      omega

theorem Linear.classify {draft : Draft} (h : Linear table draft stored) (rules : List Rule)
    (hitems : Encodes draft.table draft.table.size items draft.text) :
    Linear table (classify rules draft).toDraft
      (stored ++ (LuaMarkup.classify rules draft).trace.map Match.markup) := by
  induction rules generalizing draft stored items with
  | nil => simpa [LuaMarkup.classify] using h
  | cons rule rules ih =>
    have hrest := ih (h.apply rule hitems) (hitems.apply rule)
    rw [List.append_assoc, ← List.map_append] at hrest
    exact hrest

-- ---------------------------------------------------------------------------
-- Sources
-- ---------------------------------------------------------------------------

theorem tokenIndices_numberSentinels (text : Text) (next : Nat) :
    tokenIndices (Escape.numberSentinels next text) = List.range' next (text.count sentinel) := by
  induction text generalizing next with
  | nil => exact tokenIndices_nil
  | cons c text ih =>
    rw [Escape.numberSentinels]
    by_cases hc : c = sentinel
    · subst hc
      rw [if_pos rfl, tokenIndices_write_append, ih, List.count_cons_self, List.range'_succ]
    · rw [if_neg hc, tokenIndices_cons hc, ih, List.count_cons_of_ne hc]

theorem linear_escapeSource (source : Text) (table : Table) :
    Linear table (escapeSource source table)
      (List.replicate (source.count sentinel) [sentinel]) := by
  have hcount := Escape.count_sentinel_plain_lineEnd source
  have hnone : ∀ text ∈ List.replicate (source.count sentinel) [sentinel],
      tokenIndices text = [] := fun text htext => by
    rw [List.eq_of_mem_replicate htext, tokenIndices_sentinel]
  constructor
  case table_eq => rw [escapeSource_eq, hcount]
  case once =>
    rw [escapeSource_eq, tokenIndices_numberSentinels, hcount, List.flatMap_eq_nil_iff.mpr hnone,
      List.append_nil, List.length_replicate]
  case back =>
    intro k text htext index hindex
    rw [hnone text (List.mem_of_getElem? htext)] at hindex
    cases hindex

/-- Escaping and classifying a source, by any rules and behind any table, stores a sentinel for
each one of the source and then, match by match, what is reported, in the markup of the rule's
category. The tokens in the working text and in what is stored are the new indices, each once,
and a stored text holds indices before its own only. The markup is that of items whose boxes
have the categories of the matches, and it holds no other tags of spans. -/
theorem classify_linear (rules : List Rule) (source : Text) (table : Table) :
    ∃ stored : List Text,
      stored = List.replicate (source.count sentinel) [sentinel] ++
        (classify rules (escapeSource source table)).trace.map
          (fun m => m.rule.category.wrap m.matched) ∧
      (classify rules (escapeSource source table)).table = table.append stored ∧
      (tokenIndices (classify rules (escapeSource source table)).text ++
        stored.flatMap tokenIndices).Perm (List.range' table.size stored.length) ∧
      (∀ k text, stored[k]? = some text →
        ∀ index ∈ tokenIndices text, index < table.size + k) ∧
      ((classify rules (escapeSource source table)).table.size ≤ 10 ^ maxDigits →
        ∃ items, (classify rules (escapeSource source table)).table.resolve
            (classify rules (escapeSource source table)).text = .ok (Item.renderAll items) ∧
          spanTags (Item.renderAll items) = Item.tagsAll items ∧
          (Item.tagsAll items).Perm
            ((classify rules (escapeSource source table)).trace.flatMap fun m =>
              [.opening m.rule.category, .closing])) := by
  have hlinear := (linear_escapeSource source table).classify rules
    (encodes_escapeSource source table)
  refine ⟨_, rfl, hlinear.table_eq, hlinear.once, hlinear.back, fun hsize => ?_⟩
  exact ⟨boxedSource rules source, resolve_classify hsize,
    spanTags_renderAll (whole_boxedSource rules source),
    perm_tagsAll_boxedSource rules source table⟩

/-- A sentinel and an operator in a string, behind an entry that looks like it refers to them. -/
theorem classify_linear_nested :
    (classify [.operator, .singleQuoted]
        (escapeSource "'$='".toList ⟨#["$1;$2;".toList]⟩)).table.size ≤ 10 ^ maxDigits ∧
      (classify [.operator, .singleQuoted]
          (escapeSource "'$='".toList ⟨#["$1;$2;".toList]⟩)).table =
        (Table.mk #["$1;$2;".toList]).append
          ["$".toList, "<span class=\"operator\">=</span>".toList,
            "<span class=\"string\">'$1;$2;'</span>".toList] ∧
      ∃ items, (classify [.operator, .singleQuoted]
            (escapeSource "'$='".toList ⟨#["$1;$2;".toList]⟩)).table.resolve
          (classify [.operator, .singleQuoted]
            (escapeSource "'$='".toList ⟨#["$1;$2;".toList]⟩)).text = .ok (Item.renderAll items) ∧
        spanTags (Item.renderAll items) = Item.tagsAll items ∧
        (Item.tagsAll items).Perm
          [.opening .operator, .closing, .opening .string, .closing] := by
  have hsize := Nat.le_trans
    (size_classify_le [.operator, .singleQuoted] "'$='".toList ⟨#["$1;$2;".toList]⟩)
    (le_pow_maxDigits (by decide))
  have htrace : (classify [.operator, .singleQuoted]
      (escapeSource "'$='".toList ⟨#["$1;$2;".toList]⟩)).trace =
        [⟨.operator, ['='], []⟩, ⟨.singleQuoted, "'$1;$2;'".toList, []⟩] := by
    decide +kernel
  obtain ⟨_, rfl, htable, -, -, hspans⟩ :=
    classify_linear [.operator, .singleQuoted] "'$='".toList ⟨#["$1;$2;".toList]⟩
  rw [htrace] at htable hspans
  exact ⟨hsize, htable, hspans hsize⟩

end LuaMarkup
