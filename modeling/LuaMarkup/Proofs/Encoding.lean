import LuaMarkup.Classify
import LuaMarkup.Proofs.Blocks
import LuaMarkup.Proofs.Escape
import LuaMarkup.Proofs.Expansion
import LuaMarkup.Proofs.Item

/-!
# Tokens stand for boxes

`Encodes table limit items text`: the text is the items with a token in place of each sentinel
and each box, whatever else the table holds. Escaping starts from such a pair
(`encodes_escapeSource`), and a pass of a rule keeps it (`Encodes.apply`).
-/

namespace LuaMarkup

/-- A token is of an index below the limit. What is stored for it is the sentinel, or the markup
around a text that stands for the content of the box with tokens of smaller indices. -/
inductive Encodes (table : Table) : Nat → List Item → Text → Prop
  | nil : Encodes table limit [] []
  | char : c ≠ sentinel → Encodes table limit items text →
      Encodes table limit (.char c :: items) (c :: text)
  | sentinel : index < limit → table.get? index = some [sentinel] →
      Encodes table limit items text →
      Encodes table limit (.char sentinel :: items) (Token.write index ++ text)
  | box : index < limit → table.get? index = some (category.wrap stored) →
      Encodes table index content stored → Encodes table limit items text →
      Encodes table limit (.box category content :: items) (Token.write index ++ text)

/-- What one item may stand as. -/
def Encodes.Block (table : Table) (limit : Nat) (item : Item) (block : Text) : Prop :=
  Encodes table limit [item] block

theorem Category.sentinel_notMem_openTag (category : Category) : sentinel ∉ category.openTag := by
  cases category <;> decide

theorem Category.sentinel_notMem_closeTag : sentinel ∉ Category.closeTag := by
  decide

namespace Encodes

variable {table : Table}

theorem append (h : Encodes table limit items text) (h' : Encodes table limit items' text') :
    Encodes table limit (items ++ items') (text ++ text') := by
  induction h with
  | nil => exact h'
  | char hc _ ih => exact .char hc (ih h')
  | sentinel hindex hstored _ ih =>
    rw [List.append_assoc]
    exact .sentinel hindex hstored (ih h')
  | box hindex hstored hcontent _ _ ih =>
    rw [List.append_assoc]
    exact .box hindex hstored hcontent (ih h')

/-- Only the entries below the limit matter. -/
theorem mono {table' : Table} (h : Encodes table limit items text) (hlimit : limit ≤ limit')
    (htable : ∀ index < limit, table'.get? index = table.get? index) :
    Encodes table' limit' items text := by
  induction h generalizing limit' with
  | nil => exact .nil
  | char hc _ ih => exact .char hc (ih hlimit htable)
  | sentinel hindex hstored _ ih =>
    exact .sentinel (Nat.lt_of_lt_of_le hindex hlimit) (by rw [htable _ hindex, hstored])
      (ih hlimit htable)
  | box hindex hstored _ _ ihcontent ih =>
    exact .box (Nat.lt_of_lt_of_le hindex hlimit) (by rw [htable _ hindex, hstored])
      (ihcontent (Nat.le_refl _) fun i hi => htable i (Nat.lt_trans hi hindex))
      (ih hlimit htable)

theorem blocks (h : Encodes table limit items text) : Blocks (Block table limit) items text := by
  induction h with
  | nil => exact .nil
  | char hc _ ih =>
    rw [← List.singleton_append]
    exact .cons (.char hc .nil) ih
  | sentinel hindex hstored _ ih =>
    have hitem := Encodes.sentinel hindex hstored .nil
    rw [List.append_nil] at hitem
    exact .cons hitem ih
  | box hindex hstored hcontent _ _ ih =>
    have hitem := Encodes.box hindex hstored hcontent .nil
    rw [List.append_nil] at hitem
    exact .cons hitem ih

theorem of_blocks (h : Blocks (Block table limit) items text) :
    Encodes table limit items text := by
  induction h with
  | nil => exact .nil
  | cons ha _ ih => exact ha.append ih

-- ---------------------------------------------------------------------------
-- A pass keeps the correspondence
-- ---------------------------------------------------------------------------

theorem notMem_marks_of_mem_write (rule : Rule) {index : Nat} {c : Char}
    (h : c ∈ Token.write index) : c ≠ '\n' ∧ c ∉ rule.marks := by
  have hmarks : ∀ c ∈ rule.marks, c ≠ LuaMarkup.sentinel ∧ c.isDigit = false ∧ c ≠ terminator := by
    cases rule <;> decide
  rcases Token.mem_write h with rfl | hdigit | rfl
  · exact ⟨by decide, fun hc => (hmarks _ hc).1 rfl⟩
  · refine ⟨?_, fun hc => ?_⟩
    · rintro rfl
      revert hdigit
      decide
    · rw [(hmarks _ hc).2.1] at hdigit
      cases hdigit
  · exact ⟨by decide, fun hc => (hmarks _ hc).2.2 rfl⟩

/-- A rule sees a character in itself, and cannot tell a token from what it stands for. -/
theorem Block.standsFor (rule : Rule) (h : Block table limit item block) :
    StandsFor rule.marks item block := by
  have htoken : ∀ index, ∀ c ∈ Token.write index, Faint rule.marks c := by
    intro index c hc d hd
    obtain rfl := Option.some.inj hd
    exact notMem_marks_of_mem_write rule hc
  cases h with
  | char hc hnil =>
    cases hnil
    exact .alike rfl
  | sentinel _ _ hnil =>
    cases hnil
    rw [List.append_nil]
    refine .faint ?_ (Token.write_ne_nil _) (htoken _)
    intro c hc
    obtain rfl := Option.some.inj hc
    have hmem : LuaMarkup.sentinel ∈ Token.write 0 := by decide
    exact notMem_marks_of_mem_write rule hmem
  | box _ _ _ hnil =>
    cases hnil
    rw [List.append_nil]
    exact .faint nofun (Token.write_ne_nil _) (htoken _)

/-- A rule divides a text as it divides the items that the text stands for. -/
theorem segmentBlocks (rule : Rule) (h : Encodes table limit items text) :
    SegmentBlocks (Block table limit) (rule.segments items) (rule.segments text) :=
  Rule.segments_blocks (fun _ _ hblock => Block.standsFor rule hblock) h.blocks

theorem withTokens_plain_append (next : Nat) (block : Text) (segments : List (Segment Char)) :
    Segment.withTokens next (block.map .plain ++ segments) =
      block ++ Segment.withTokens next segments := by
  induction block with
  | nil => rfl
  | cons c block ih =>
    rw [List.map_cons, List.cons_append, Segment.withTokens, ih, List.cons_append]

theorem reports_plain_append (rule : Rule) (block : Text) (segments : List (Segment Char)) :
    Segment.reports rule (block.map .plain ++ segments) = Segment.reports rule segments := by
  induction block with
  | nil => rfl
  | cons c block ih => rw [List.map_cons, List.cons_append, Segment.reports, ih]

/-- Segments that correspond do so with their matches in boxes and in the table, if the new
table has the matches from `next` on and what the old one had below its limit. -/
theorem withTokens {rule : Rule} {old new : Table} {next : Nat}
    (h : SegmentBlocks (Block old limit) segments segments')
    (hold : ∀ index < limit, new.get? index = old.get? index) (hnext : limit ≤ next)
    (hnew : ∀ (k : Nat) m, (Segment.reports rule segments')[k]? = some m →
      new.get? (next + k) = some m.markup)
    (hlimit : next + (Segment.reports rule segments').length ≤ limit') :
    Encodes new limit' (segments.flatMap (Segment.boxed rule.category))
      (Segment.withTokens next segments') := by
  induction h generalizing next with
  | nil => exact .nil
  | plain ha _ ih =>
    rw [withTokens_plain_append]
    rw [reports_plain_append] at hnew hlimit
    have hitem := mono ha (by omega : limit ≤ limit') hold
    exact hitem.append (ih hnext hnew hlimit)
  | @hit matched matched' context context' segments segments' hmatched hcontext _ ih =>
    rw [Segment.reports, List.length_cons] at hlimit
    have hstored : new.get? next = some (rule.category.wrap matched') :=
      hnew 0 ⟨rule, matched', context'⟩ rfl
    have hlater : ∀ (k : Nat) m, (Segment.reports rule segments')[k]? = some m →
        new.get? (next + 1 + k) = some m.markup := by
      intro k m hm
      rw [Nat.add_assoc, Nat.add_comm 1 k]
      exact hnew (k + 1) m hm
    have hinside := (of_blocks hmatched).mono hnext hold
    have hbehind := (of_blocks hcontext).mono (by omega : limit ≤ limit') hold
    rw [Segment.withTokens, List.append_assoc]
    exact .box (by omega) hstored hinside (hbehind.append (ih (by omega) hlater (by omega)))

theorem apply (rule : Rule) {draft : Draft}
    (h : Encodes draft.table draft.table.size items draft.text) :
    Encodes (rule.apply draft).table (rule.apply draft).table.size (rule.box items)
      (rule.apply draft).text := by
  rw [Rule.apply_eq]
  refine withTokens (h.segmentBlocks rule) (fun index hindex => Table.get?_append_of_lt hindex _)
    (Nat.le_refl _) ?_ ?_
  · intro k m hm
    rw [Table.get?_append_size_add, List.getElem?_map, hm]
    rfl
  · exact Nat.le_of_eq (by rw [Table.size_append, List.length_map])

theorem classify (rules : List Rule) {draft : Draft}
    (h : Encodes draft.table draft.table.size items draft.text) :
    Encodes (classify rules draft).table (LuaMarkup.classify rules draft).table.size
      (boxAll rules items) (LuaMarkup.classify rules draft).text := by
  induction rules generalizing draft items with
  | nil => exact h
  | cons rule rules ih => exact ih (h.apply rule)

end Encodes

theorem notMem_write_of_mem_marks {rule : Rule} (h : c ∈ rule.marks) (index : Nat) :
    c ∉ Token.write index :=
  fun hmem => (Encodes.notMem_marks_of_mem_write rule hmem).2 h

theorem quote_notMem_write : ∀ q ∈ ['"', '\''], ∀ index, q ∉ Token.write index := by
  intro q hq index
  have hmarks : ∀ q ∈ ['"', '\''], q ∈ Rule.escapedQuote.marks := by decide
  exact notMem_write_of_mem_marks (hmarks q hq) index

theorem lineFeed_notMem_write (index : Nat) : '\n' ∉ Token.write index := fun hmem =>
  (Encodes.notMem_marks_of_mem_write .escapedQuote hmem).1 rfl

-- ---------------------------------------------------------------------------
-- Escaping starts it
-- ---------------------------------------------------------------------------

theorem encodes_numberSentinels {table : Table} {next : Nat} (text : Text)
    (hstored : ∀ k < text.count sentinel, table.get? (next + k) = some [sentinel])
    (hlimit : next + text.count sentinel ≤ limit) :
    Encodes table limit (Item.ofText text) (Escape.numberSentinels next text) := by
  induction text generalizing next with
  | nil => exact .nil
  | cons c text ih =>
    rw [Item.ofText_cons, Escape.numberSentinels]
    by_cases hc : c = sentinel
    · subst hc
      rw [List.count_cons_self] at hstored hlimit
      rw [if_pos rfl]
      refine .sentinel (by omega) (hstored 0 (by omega)) (ih ?_ (by omega))
      intro k hk
      rw [Nat.add_assoc, Nat.add_comm 1 k]
      exact hstored (k + 1) (by omega)
    · rw [List.count_cons_of_ne hc] at hstored hlimit
      rw [if_neg hc]
      exact .char hc (ih hstored hlimit)

theorem encodes_escapeSource (source : Text) (table : Table) :
    Encodes (escapeSource source table).table (escapeSource source table).table.size
      (Item.ofText (Escape.plain source ++ lineEnd)) (escapeSource source table).text := by
  rw [escapeSource_eq]
  refine encodes_numberSentinels _ ?_ ?_
  · intro k hk
    rw [Table.get?_append_size_add, List.getElem?_replicate, if_pos hk]
  · exact Nat.le_of_eq (by rw [Table.size_append, List.length_replicate])

/-- The items that classifying a source comes to, whatever table it starts with. -/
def boxedSource (rules : List Rule) (source : Text) : List Item :=
  boxAll rules (Item.ofText (Escape.plain source ++ lineEnd))

end LuaMarkup
