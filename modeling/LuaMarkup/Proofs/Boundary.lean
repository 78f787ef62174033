import LuaMarkup.Proofs.Escape
import LuaMarkup.Proofs.Item

/-!
# Where matches begin and end

A match begins with one of the openers of its rule, so a rule leaves what begins with none of
them alone: the context of its matches (`box_of_match?_append`) and the markup that escaping
puts (`box_ofText_append`). No match reaches into the line end that closes a text
(`box_append_lineEnd`).
-/

namespace LuaMarkup

namespace Rule

/-- The characters that the matches of a rule begin with. -/
def openers : Rule → List Char
  | .doubleBackslash | .escapedQuote => ['\\']
  | .singleQuoted => ['\'']
  | .doubleQuoted => ['"']
  | .lineComment => ['-']
  | .operator => operators.toList
  | .keyword => keywords.filterMap (·.toList.head?)

/-- The rules whose matches may hold boxes. -/
def nesting : List Rule :=
  [.singleQuoted, .doubleQuoted, .lineComment]

/-- The texts that the other rules accept. -/
def words : Rule → List Text
  | .doubleBackslash => [['\\', '\\']]
  | .escapedQuote => ['"', '\''].map fun quote => ['\\', quote]
  | .operator => operators.toList.map fun o => [o]
  | .keyword => keywords.map String.toList
  | .singleQuoted | .doubleQuoted | .lineComment => []

section
variable [Glyph α]

theorem Accepts.exists_spells {rule : Rule} {m c : List α} (h : rule.Accepts m c)
    (hrule : rule ∉ nesting) : ∃ word ∈ rule.words, Spells m word := by
  cases h with
  | doubleBackslash hm => exact ⟨_, List.mem_singleton.mpr rfl, hm⟩
  | escapedQuote hmem hm | operator hmem hm | keyword hmem hm _ =>
    exact ⟨_, List.mem_map_of_mem hmem, hm⟩
  | singleQuoted | doubleQuoted | lineComment => exact absurd (by decide) hrule

theorem Accepts.begins {rule : Rule} {m c : List α} (h : rule.Accepts m c) :
    ∃ a rest, m = a :: rest ∧ ∃ o ∈ rule.openers, Glyph.char? a = some o := by
  cases h with
  | doubleBackslash hm | escapedQuote _ hm =>
    obtain ⟨a, rest, rfl, ha, -⟩ := spells_cons.mp hm
    exact ⟨a, rest, rfl, _, List.mem_singleton.mpr rfl, ha⟩
  | singleQuoted hm | doubleQuoted hm =>
    obtain ⟨a, body, b, rfl, ha, -, -⟩ := hm
    exact ⟨a, _, rfl, _, List.mem_singleton.mpr rfl, ha⟩
  | lineComment hm _ _ =>
    obtain ⟨a, rest, rfl, ha, -⟩ := spells_cons.mp hm
    exact ⟨a, _, rfl, _, List.mem_singleton.mpr rfl, ha⟩
  | operator hmem hm =>
    obtain ⟨a, rest, rfl, ha, -⟩ := spells_cons.mp hm
    exact ⟨a, rest, rfl, _, hmem, ha⟩
  | @keyword word _ _ hword hm _ =>
    have hne : ∀ word ∈ keywords, word.toList ≠ [] := by decide
    obtain ⟨o, letters, heq⟩ := List.exists_cons_of_ne_nil (hne word hword)
    rw [heq] at hm
    obtain ⟨a, rest, rfl, ha, -⟩ := spells_cons.mp hm
    exact ⟨a, rest, rfl, o, List.mem_filterMap.mpr ⟨word, hword, by rw [heq]; rfl⟩, ha⟩

theorem match?_eq_none_of_notMem {rule : Rule} {a : α}
    (h : ∀ o, Glyph.char? a = some o → o ∉ rule.openers) (items : List α) :
    rule.match? (a :: items) = none := by
  apply match?_eq_none_iff.mpr
  rintro m c r haccepts heq
  obtain ⟨b, rest, rfl, o, hmem, hb⟩ := haccepts.begins
  obtain rfl := (List.cons.inj heq).1
  exact h o hb hmem

theorem Accepts.notMem_context {rule : Rule} {m c : List α} (h : rule.Accepts m c) :
    ∀ a ∈ c, ∀ o, Glyph.char? a = some o → o ∉ rule.openers := by
  have hspelled : ∀ text : Text, Spells c text → (∀ o ∈ text, o ∉ rule.openers) →
      ∀ a ∈ c, ∀ o, Glyph.char? a = some o → o ∉ rule.openers := by
    intro text htext hnone a ha o ho
    have hmem : some o ∈ c.map Glyph.char? := List.mem_map.mpr ⟨a, ha, ho⟩
    rw [show c.map Glyph.char? = text.map some from htext] at hmem
    exact hnone o (by simpa using hmem)
  cases h with
  | lineComment _ _ hc => exact hspelled _ hc (by decide)
  | keyword _ _ hc => exact hspelled _ hc (by decide)
  | _ => exact nofun

end

-- ---------------------------------------------------------------------------
-- What a pass leaves alone
-- ---------------------------------------------------------------------------

theorem segments_append_of_notMem [Glyph α] {rule : Rule} {front : List α}
    (h : ∀ a ∈ front, ∀ o, Glyph.char? a = some o → o ∉ rule.openers) (items : List α) :
    rule.segments (front ++ items) = front.map .plain ++ rule.segments items :=
  segments_append_of_match?_eq_none (fun a ha => match?_eq_none_of_notMem (h a ha)) items

theorem box_append_of_notMem {rule : Rule} {front : List Item}
    (h : ∀ item ∈ front, ∀ o, Glyph.char? item = some o → o ∉ rule.openers) (items : List Item) :
    rule.box (front ++ items) = front ++ rule.box items := by
  rw [box, segments_append_of_notMem h, List.flatMap_append, List.flatMap_map]
  simp [Segment.boxed, box]

/-- A pass might as well go on before the context of a match. -/
theorem box_of_match?_append {rule : Rule} {items : List Item} {hit : Hit Item}
    (h : rule.match? items = some hit) :
    rule.box items = .box rule.category hit.matched :: rule.box (hit.context ++ hit.rest) := by
  rw [box_of_match? h, box_append_of_notMem (match?_sound h).notMem_context]

/-- No match of the rule begins inside of the text, whatever follows it. -/
def Skips (rule : Rule) : Text → Prop
  | [] => True
  | c :: text => (∀ rest : List Item, rule.match? (Item.ofText (c :: text) ++ rest) = none) ∧
      Skips rule text

theorem box_ofText_append_of_skips {rule : Rule} {text : Text} (h : rule.Skips text)
    (items : List Item) :
    rule.box (Item.ofText text ++ items) = Item.ofText text ++ rule.box items := by
  induction text with
  | nil => rfl
  | cons c text ih =>
    have hnone := h.1 items
    rw [Item.ofText_cons, List.cons_append] at hnone ⊢
    rw [box_of_match?_eq_none hnone, ih h.2, List.cons_append]

theorem skips_entity (rule : Rule) : ∀ entity ∈ entities, rule.Skips entity := by
  intro entity h
  simp only [entities, List.mem_cons, List.not_mem_nil, or_false] at h
  -- the letters of a keyword are in some of these, but none has a tag behind its letters
  rcases h with rfl | rfl | rfl | rfl
  all_goals
    repeat' apply And.intro
    all_goals first
      | trivial
      | exact fun _ => by cases rule <;> rfl

theorem box_ofText_append {entity : Text} (h : entity ∈ entities) (rule : Rule)
    (items : List Item) :
    rule.box (Item.ofText entity ++ items) = Item.ofText entity ++ rule.box items :=
  box_ofText_append_of_skips (rule.skips_entity entity h) items

-- ---------------------------------------------------------------------------
-- The last line end
-- ---------------------------------------------------------------------------

theorem char_notMem_of_spells {items : List Item} (h : Spells items text) (hc : c ∉ text) :
    Item.char c ∉ items := by
  rw [Item.spells_iff.mp h]
  simpa [Item.ofText] using hc

theorem Accepts.tag_notMem {rule : Rule} {m c : List Item} (h : rule.Accepts m c)
    (hrule : rule ∉ nesting) : Item.char '<' ∉ m := by
  have hwords : ∀ rule ∈ all, ∀ word ∈ rule.words, '<' ∉ word := by decide
  obtain ⟨word, hmem, hspell⟩ := h.exists_spells hrule
  exact char_notMem_of_spells hspell (hwords rule (by cases rule <;> decide) word hmem)

theorem quote_mem_of_quoted {quote : Char} {front back : List Item} {item : Item}
    (h : Quoted quote (front ++ item :: back)) : Item.char quote ∈ item :: back := by
  obtain ⟨first, body, last, heq, -, -, hlast⟩ := h
  obtain rfl := Item.char?_eq_some_iff.mp hlast
  have hlast : (front ++ item :: back).getLast? = some (.char quote) := by
    simp [heq, List.getLast?_cons]
  rw [List.getLast?_append_of_ne_nil _ (List.cons_ne_nil item back)] at hlast
  exact List.mem_of_getLast? hlast

/-- What a rule accepts does not end inside of the last line end. -/
theorem Accepts.not_into_lineEnd {rule : Rule} {front taken c r : List Item} {item : Item}
    (h : rule.Accepts (front ++ item :: taken) c) :
    Item.ofText lineEnd ≠ item :: taken ++ (c ++ r) := by
  intro heq
  by_cases hrule : rule ∈ nesting
  · have hsub : ∀ i ∈ item :: taken, i ∈ Item.ofText lineEnd := fun i hi => by
      rw [heq]
      exact List.mem_append_left _ hi
    have hquote : ∀ quote ∉ lineEnd, Item.char quote ∉ item :: taken := fun quote hquote hmem =>
      char_notMem_of_spells (Item.spells_iff.mpr rfl) hquote (hsub _ hmem)
    generalize hm : front ++ item :: taken = m at h
    cases h with
    | singleQuoted h => exact hquote '\'' (by decide) (quote_mem_of_quoted (hm ▸ h))
    | doubleQuoted h => exact hquote '"' (by decide) (quote_mem_of_quoted (hm ▸ h))
    | lineComment _ _ hspell =>
      -- the context alone is as long as what is left
      have hlen := congrArg List.length heq
      have hfour : (Item.ofText lineEnd).length = 4 := rfl
      simp only [hfour, List.cons_append, List.length_cons, List.length_append,
        hspell.length_eq] at hlen
      have hfour : "<br>".toList.length = 4 := rfl
      omega
    | doubleBackslash | escapedQuote | operator | keyword => exact absurd hrule (by decide)
  · obtain rfl := (List.cons.inj heq).1
    exact h.tag_notMem hrule (List.mem_append_right _ List.mem_cons_self)

/-- A match before the last line end takes nothing of it. -/
theorem match?_append_lineEnd {rule : Rule} {items : List Item} {hit : Hit Item}
    (h : rule.match? (items ++ Item.ofText lineEnd) = some hit) :
    ∃ behind, items = hit.matched ++ behind ∧
      hit.context ++ hit.rest = behind ++ Item.ofText lineEnd := by
  have heq := append_of_match? h
  rw [List.append_assoc] at heq
  rcases List.append_eq_append_iff.mp heq with ⟨taken, hmatched, htail⟩ | ⟨behind, hitems, htail⟩
  · cases taken with
    | nil => exact ⟨[], by simpa using hmatched.symm, by simpa using htail.symm⟩
    | cons item taken =>
      have haccepts := match?_sound h
      rw [hmatched] at haccepts
      exact absurd htail haccepts.not_into_lineEnd
  · exact ⟨behind, hitems, htail⟩

/-- A pass goes from match to match up to the last line end, over the items between. -/
@[elab_as_elim]
theorem lineEnd_induction (rule : Rule) {motive : List Item → Prop} (nil : motive [])
    (hit : ∀ {hit : Hit Item} {behind : List Item},
      rule.match? (hit.matched ++ behind ++ Item.ofText lineEnd) = some hit →
      hit.context ++ hit.rest = behind ++ Item.ofText lineEnd → motive behind →
      motive (hit.matched ++ behind))
    (skip : ∀ {item : Item} {items : List Item},
      rule.match? (item :: (items ++ Item.ofText lineEnd)) = none → motive items →
      motive (item :: items))
    (items : List Item) : motive items := by
  induction hlen : items.length using Nat.strongRecOn generalizing items with
  | ind n ih =>
    cases hmatch : rule.match? (items ++ Item.ofText lineEnd) with
    | some match' =>
      obtain ⟨behind, rfl, htail⟩ := match?_append_lineEnd hmatch
      have hpos := List.length_pos_iff.mpr (matched_ne_nil hmatch)
      rw [List.length_append] at hlen
      exact hit hmatch htail (ih behind.length (by omega) behind rfl)
    | none =>
      cases items with
      | nil => exact nil
      | cons item items => exact skip hmatch (ih items.length (by simp [← hlen]) items rfl)

theorem box_lineEnd (rule : Rule) : rule.box (Item.ofText lineEnd) = Item.ofText lineEnd := by
  have hskip := box_ofText_append (List.mem_of_elem_eq_true rfl : lineEnd ∈ entities) rule []
  simpa [box_nil] using hskip

theorem box_append_lineEnd (rule : Rule) (items : List Item) :
    ∃ out, rule.box (items ++ Item.ofText lineEnd) = out ++ Item.ofText lineEnd := by
  induction items using rule.lineEnd_induction with
  | nil => exact ⟨[], rule.box_lineEnd⟩
  | @hit hit behind hmatch htail ih =>
    obtain ⟨out, hout⟩ := ih
    exact ⟨.box rule.category hit.matched :: out, by
      rw [box_of_match?_append hmatch, htail, hout, List.cons_append]⟩
  | @skip item items hnone ih =>
    obtain ⟨out, hout⟩ := ih
    exact ⟨item :: out, by
      rw [List.cons_append, box_of_match?_eq_none hnone, hout, List.cons_append]⟩

end Rule

theorem boxAll_append_lineEnd (rules : List Rule) (items : List Item) :
    ∃ out, boxAll rules (items ++ Item.ofText lineEnd) = out ++ Item.ofText lineEnd := by
  induction rules generalizing items with
  | nil => exact ⟨items, rfl⟩
  | cons rule rules ih =>
    obtain ⟨middle, hmiddle⟩ := rule.box_append_lineEnd items
    rw [boxAll_cons, hmiddle]
    exact ih middle

end LuaMarkup
