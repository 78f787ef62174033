import LuaMarkup.Proofs.Opaque

/-!
# Passes keep pieces whole

Escaped text is put together from pieces: plain characters and entities. `Content` says so of
items, with boxes among them, and says which pieces and which boxes there may be. A match
neither begins nor ends inside of a piece (`Content.cut`), so a pass keeps all pieces whole
(`Content.box`), and the boxes that it adds are themselves put together from pieces.
-/

namespace LuaMarkup

/-- Items put together from the pieces in `direct` and the boxes in `span`. -/
inductive Content (direct : Text → Prop) (span : Category → List Item → Prop) : List Item → Prop
  | nil : Content direct span []
  | plain : Escape.IsPlain c → direct [c] → Content direct span items →
      Content direct span (.char c :: items)
  | entity : entity ∈ entities → direct entity → Content direct span items →
      Content direct span (Item.ofText entity ++ items)
  | box : span category content → Content direct span items →
      Content direct span (.box category content :: items)

/-- The characters of entities behind their first. -/
def innerCharacters : List Char :=
  entities.flatMap List.tail

theorem entity_eq_cons : ∀ entity ∈ entities, ∃ c rest, entity = c :: rest ∧ ¬Escape.IsPlain c ∧
    ∀ d ∈ rest, d ∈ innerCharacters := by
  intro entity h
  have hfirst : ∀ entity ∈ entities, ∀ c ∈ entity.take 1, ¬Escape.IsPlain c := by decide
  have hne : ∀ entity ∈ entities, entity ≠ [] := by decide
  obtain ⟨c, rest, rfl⟩ := List.exists_cons_of_ne_nil (hne entity h)
  exact ⟨c, rest, rfl, hfirst _ h c List.mem_cons_self, fun d hd => List.mem_flatMap.mpr ⟨_, h, hd⟩⟩

/-- Of the entities only the line end begins like one. -/
theorem eq_lineEnd_of_append_eq {entity : Text} {items back : List Item} (hmem : entity ∈ entities)
    (heq : Item.ofText entity ++ items = .char '<' :: .char 'b' :: back) : entity = lineEnd := by
  simp only [entities, List.mem_cons, List.not_mem_nil, or_false] at hmem
  rcases hmem with rfl | rfl | rfl | rfl
  · simp at heq
  · simp at heq
  · rfl
  · rw [show spaceMarkup = '<' :: 'w' :: "br>&nbsp;".toList from rfl] at heq
    simp at heq

/-- A character that no entity has inside of it stands behind an entity or begins it. -/
theorem eq_nil_or_behind_entity {entity : Text} {front back items : List Item}
    (hmem : entity ∈ entities) (hc : c ∉ innerCharacters)
    (heq : front ++ .char c :: back = Item.ofText entity ++ items) :
    front = [] ∨ ∃ front', front = Item.ofText entity ++ front' ∧
      items = front' ++ .char c :: back := by
  obtain ⟨d, rest, rfl, -, hinner⟩ := entity_eq_cons _ hmem
  rcases List.append_eq_append_iff.mp heq with ⟨taken, hentity, htail⟩ | ⟨front', hfront, htail⟩
  · cases front with
    | nil => exact .inl rfl
    | cons item front =>
      have hrest : Item.ofText rest = front ++ taken := (List.cons.inj hentity).2
      cases taken with
      | nil =>
        refine .inr ⟨[], ?_, htail.symm⟩
        rw [List.append_nil] at hentity ⊢
        exact hentity.symm
      | cons item' taken =>
        obtain ⟨rfl, -⟩ := List.cons.inj htail
        have hin : Item.char c ∈ Item.ofText rest := by simp [hrest]
        exact absurd (hinner c (by simpa [Item.ofText] using hin)) hc
  · exact .inr ⟨front', hfront, htail⟩

namespace Content

variable {direct direct' : Text → Prop} {span span' : Category → List Item → Prop}

theorem append (h : Content direct span items) (h' : Content direct span items') :
    Content direct span (items ++ items') := by
  induction h with
  | nil => exact h'
  | plain hplain hdirect _ ih => exact .plain hplain hdirect ih
  | entity hmem hdirect _ ih =>
    rw [List.append_assoc]
    exact .entity hmem hdirect ih
  | box hspan _ ih => exact .box hspan ih

/-- A piece needs to be allowed only where it stands. -/
theorem imp (h : Content direct span items)
    (hdirect : ∀ front piece back, items = front ++ (Item.ofText piece ++ back) → direct piece →
      direct' piece)
    (hspan : ∀ category content, span category content → span' category content) :
    Content direct' span' items := by
  induction h with
  | nil => exact .nil
  | @plain c items hplain hd _ ih =>
    refine .plain hplain (hdirect [] [c] items rfl hd) (ih ?_)
    rintro front piece back rfl
    exact hdirect (.char c :: front) piece back rfl
  | @entity entity items hmem hd _ ih =>
    refine .entity hmem (hdirect [] entity items rfl hd) (ih ?_)
    rintro front piece back rfl
    exact hdirect (Item.ofText entity ++ front) piece back (by simp)
  | @box category content items hs _ ih =>
    refine .box (hspan _ _ hs) (ih ?_)
    rintro front piece back rfl
    exact hdirect (.box category content :: front) piece back rfl

-- ---------------------------------------------------------------------------
-- Cutting between pieces
-- ---------------------------------------------------------------------------

theorem cut_plain (hplain : ∀ c ∈ text, Escape.IsPlain c)
    (h : Content direct span (Item.ofText text ++ items)) :
    Content direct span (Item.ofText text) ∧ Content direct span items := by
  induction text with
  | nil => exact ⟨.nil, h⟩
  | cons c text ih =>
    have hc : Escape.IsPlain c := hplain c List.mem_cons_self
    rw [Item.ofText_cons, List.cons_append] at h
    generalize heq : Item.char c :: (Item.ofText text ++ items) = whole at h
    cases h with
    | nil => cases heq
    | plain _ hdirect htail =>
      obtain ⟨hchar, rfl⟩ := List.cons.inj heq
      obtain rfl := Item.char.inj hchar
      obtain ⟨htext, hitems⟩ := ih (fun d hd => hplain d (List.mem_cons_of_mem _ hd)) htail
      exact ⟨.plain hc hdirect htext, hitems⟩
    | entity hmem =>
      obtain ⟨d, rest, rfl, hd, -⟩ := entity_eq_cons _ hmem
      obtain rfl := Item.char.inj (List.cons.inj heq).1
      exact absurd hc hd
    | box => cases heq

/-- Before a character that no entity has inside of it, one piece ends and another begins. -/
theorem cut_before (hc : c ∉ innerCharacters)
    (h : Content direct span (front ++ .char c :: back)) :
    Content direct span front ∧ Content direct span (.char c :: back) := by
  generalize heq : front ++ .char c :: back = whole at h
  induction h generalizing front with
  | nil => simp at heq
  | plain hplain hdirect hitems ih =>
    cases front with
    | nil =>
      rw [List.nil_append] at heq
      rw [heq]
      exact ⟨.nil, .plain hplain hdirect hitems⟩
    | cons item front =>
      obtain ⟨rfl, htail⟩ := List.cons.inj heq
      obtain ⟨hfront, hback⟩ := ih htail
      exact ⟨.plain hplain hdirect hfront, hback⟩
  | entity hmem hdirect hitems ih =>
    rcases eq_nil_or_behind_entity hmem hc heq with rfl | ⟨front', rfl, hrest⟩
    · rw [List.nil_append] at heq
      rw [heq]
      exact ⟨.nil, .entity hmem hdirect hitems⟩
    · obtain ⟨hfront, hback⟩ := ih hrest.symm
      exact ⟨.entity hmem hdirect hfront, hback⟩
  | box hspan hitems ih =>
    cases front with
    | nil => cases heq
    | cons item front =>
      obtain ⟨rfl, htail⟩ := List.cons.inj heq
      obtain ⟨hfront, hback⟩ := ih htail
      exact ⟨.box hspan hfront, hback⟩

theorem cut_quoted {quote : Char} {m r : List Item} (hplain : Escape.IsPlain quote)
    (hinner : quote ∉ innerCharacters) (hm : Quoted quote m)
    (h : Content direct span (m ++ r)) : Content direct span m ∧ Content direct span r := by
  obtain ⟨first, body, last, rfl, hfirst, -, hlast⟩ := hm
  obtain rfl := Item.char?_eq_some_iff.mp hfirst
  obtain rfl := Item.char?_eq_some_iff.mp hlast
  have hquote : ∀ c ∈ [quote], Escape.IsPlain c := by simpa using hplain
  have h : Content direct span (Item.ofText [quote] ++ (body ++ .char quote :: r)) := by
    simpa using h
  obtain ⟨hopen, h⟩ := cut_plain hquote h
  obtain ⟨hbody, h⟩ := cut_before hinner h
  have h : Content direct span (Item.ofText [quote] ++ r) := h
  obtain ⟨hclose, hr⟩ := cut_plain hquote h
  exact ⟨hopen.append (hbody.append hclose), hr⟩

/-- A match in whole pieces is whole pieces, and so is what follows it. -/
theorem cut {rule : Rule} {m c r : List Item} (hm : rule.Accepts m c)
    (h : Content direct span (m ++ (c ++ r))) :
    Content direct span m ∧ Content direct span (c ++ r) := by
  cases hm with
  | doubleBackslash hspell =>
    obtain rfl := Item.spells_iff.mp hspell
    exact cut_plain (by decide) h
  | escapedQuote hmem hspell =>
    have hplain : ∀ quote ∈ ['"', '\''], ∀ c ∈ ['\\', quote], Escape.IsPlain c := by decide
    obtain rfl := Item.spells_iff.mp hspell
    exact cut_plain (hplain _ hmem) h
  | singleQuoted hm => exact cut_quoted (by decide) (by decide) hm h
  | doubleQuoted hm => exact cut_quoted (by decide) (by decide) hm h
  | @lineComment _ body _ hdashes _ hc =>
    obtain rfl := Item.spells_iff.mp hdashes
    obtain rfl := Item.spells_iff.mp hc
    rw [List.append_assoc] at h
    obtain ⟨hdashes, h⟩ := cut_plain (by decide) h
    obtain ⟨hbody, h⟩ := cut_before (by decide : '<' ∉ innerCharacters) h
    exact ⟨hdashes.append hbody, h⟩
  | operator hmem hspell =>
    have hplain : ∀ o ∈ operators.toList, ∀ c ∈ [o], Escape.IsPlain c := by decide
    obtain rfl := Item.spells_iff.mp hspell
    exact cut_plain (hplain _ hmem) h
  | keyword hmem hspell =>
    have hplain : ∀ word ∈ keywords, ∀ c ∈ word.toList, Escape.IsPlain c := by decide
    obtain rfl := Item.spells_iff.mp hspell
    exact cut_plain (hplain _ hmem) h

-- ---------------------------------------------------------------------------
-- A pass
-- ---------------------------------------------------------------------------

/-- A pass keeps the boxes there are and adds those of its matches. -/
theorem box_of_shortest {rule : Rule} (h : Content direct span items)
    (hspan : ∀ category content, span category content → span' category content)
    (hmatch : ∀ items hit, Content direct span hit.matched → rule.Shortest items hit →
      span' rule.category hit.matched) : Content direct span' (rule.box items) := by
  -- on the length, since a match takes many items and the pass goes on before its context
  induction hlen : items.length using Nat.strongRecOn generalizing items with
  | ind n ih =>
    subst hlen
    cases hhit : rule.match? items with
    | some hit =>
      have hshort := Rule.match?_eq_some_iff.mp hhit
      have hpos := List.length_pos_iff.mpr (Rule.matched_ne_nil hhit)
      have heq := hshort.items_eq
      rw [List.append_assoc] at heq
      have hshorter : (hit.context ++ hit.rest).length < items.length := by
        have hlen := congrArg List.length heq
        rw [List.length_append] at hlen
        omega
      rw [heq] at h
      obtain ⟨hmatched, hbehind⟩ := h.cut hshort.accepts
      rw [Rule.box_of_match?_append hhit]
      exact .box (hmatch items hit hmatched hshort) (ih _ hshorter hbehind rfl)
    | none =>
      cases h with
      | nil =>
        rw [Rule.box_nil]
        exact .nil
      | plain hplain hdirect hitems =>
        rw [Rule.box_of_match?_eq_none hhit]
        exact .plain hplain hdirect (ih _ (Nat.lt_succ_self _) hitems rfl)
      | entity hmem hdirect hitems =>
        obtain ⟨c, rest, rfl, -, -⟩ := entity_eq_cons _ hmem
        rw [Rule.box_ofText_append hmem]
        refine .entity hmem hdirect (ih _ ?_ hitems rfl)
        simp only [Item.ofText_cons, List.length_cons, List.length_append]
        omega
      | box hs hitems =>
        rw [Rule.box_of_match?_eq_none hhit]
        exact .box (hspan _ _ hs) (ih _ (Nat.lt_succ_self _) hitems rfl)

theorem of_entities {pieces : List Text} (hmem : ∀ piece ∈ pieces, piece ∈ entities)
    (hdirect : ∀ piece ∈ pieces, direct piece) (h : Content direct span items) :
    Content direct span (Item.ofText pieces.flatten ++ items) := by
  induction pieces with
  | nil => exact h
  | cons piece pieces ih =>
    rw [List.flatten_cons, Item.ofText_append, List.append_assoc]
    exact .entity (hmem piece List.mem_cons_self) (hdirect piece List.mem_cons_self)
      (ih (fun p hp => hmem p (List.mem_cons_of_mem piece hp))
        fun p hp => hdirect p (List.mem_cons_of_mem piece hp))

/-- Escaped text holds no boxes yet, and no pieces but those of its characters. -/
theorem of_plain {source : Text}
    (hdirect : ∀ c ∈ Text.joinLineEnds source, ∀ piece, piece <:+: Escape.character c →
      direct piece) (h : Content direct span items) :
    Content direct span (Item.ofText (Escape.plain source) ++ items) := by
  rw [Escape.plain]
  generalize Text.joinLineEnds source = text at hdirect ⊢
  induction text with
  | nil => exact h
  | cons c text ih =>
    rw [List.flatMap_cons, Item.ofText_append, List.append_assoc]
    have hc := hdirect c List.mem_cons_self
    have htail := ih fun d hd => hdirect d (List.mem_cons_of_mem c hd)
    by_cases hplain : Escape.IsPlain c
    · rw [Escape.character_of_isPlain hplain] at hc ⊢
      exact .plain hplain (hc [c] (List.infix_refl _)) htail
    · obtain ⟨entity, hmem, n, heq⟩ := Escape.character_of_not_isPlain hplain
      rw [heq] at hc ⊢
      refine of_entities (fun piece hpiece => ?_) (fun piece hpiece => hc piece ?_) htail
      · rwa [List.eq_of_mem_replicate hpiece]
      · exact List.infix_of_mem_flatten hpiece

end Content

-- ---------------------------------------------------------------------------
-- Whole pieces on every level
-- ---------------------------------------------------------------------------

/-- Items put together from pieces, and boxes with such items inside. -/
inductive Whole : List Item → Prop
  | nil : Whole []
  | plain : Escape.IsPlain c → Whole items → Whole (.char c :: items)
  | entity : entity ∈ entities → Whole items → Whole (Item.ofText entity ++ items)
  | box : Whole content → Whole items → Whole (.box category content :: items)

theorem whole_iff : Whole items ↔ Content (fun _ => True) (fun _ => Whole) items := by
  constructor
  · intro h
    induction h with
    | nil => exact .nil
    | plain hplain _ ih => exact .plain hplain trivial ih
    | entity hmem _ ih => exact .entity hmem trivial ih
    | box hcontent _ _ ih => exact .box hcontent ih
  · intro h
    induction h with
    | nil => exact .nil
    | plain hplain _ _ ih => exact .plain hplain ih
    | entity hmem _ _ ih => exact .entity hmem ih
    | box hcontent _ ih => exact .box hcontent ih

theorem Whole.box_rule (rule : Rule) (h : Whole items) : Whole (rule.box items) :=
  whole_iff.mpr ((whole_iff.mp h).box_of_shortest (fun _ _ => id)
    fun _ _ hmatched _ => whole_iff.mpr hmatched)

theorem Whole.boxAll (rules : List Rule) (h : Whole items) : Whole (boxAll rules items) := by
  induction rules generalizing items with
  | nil => exact h
  | cons rule rules ih => exact ih (h.box_rule rule)

theorem content_ofText_plain_lineEnd {span : Category → List Item → Prop} (source : Text) :
    Content (fun _ => True) span (Item.ofText (Escape.plain source ++ lineEnd)) := by
  have hend : Content (fun _ => True) span (Item.ofText lineEnd ++ []) :=
    .entity (by decide) trivial .nil
  rw [Item.ofText_append]
  exact .of_plain (fun _ _ _ _ => trivial) (by simpa using hend)

/-- Whatever rules are applied, every piece of the source stays whole. -/
theorem whole_boxedSource (rules : List Rule) (source : Text) : Whole (boxedSource rules source) :=
  Whole.boxAll rules (whole_iff.mpr (content_ofText_plain_lineEnd source))

/-- What is printed of a source: whole items that hold the escaped source. -/
theorem exists_whole_items (h : (classifySource source).table.size ≤ 10 ^ maxDigits) :
    ∃ items, Whole items ∧ Item.lettersAll items = Escape.plain source ∧
      (classifySource source).table.resolve (classifySource source).text =
        .ok (Item.renderAll items ++ lineEnd) := by
  obtain ⟨items, hboxed⟩ := exists_boxedSource_eq Rule.all source
  have hwhole := whole_boxedSource Rule.all source
  have hletters : Item.lettersAll (boxedSource Rule.all source) =
      Escape.plain source ++ lineEnd := by
    rw [boxedSource, lettersAll_boxAll, Item.lettersAll_ofText]
  rw [hboxed] at hwhole hletters
  rw [Item.lettersAll_append, Item.lettersAll_ofText] at hletters
  have hcut := (whole_iff.mp hwhole).cut_before (by decide : '<' ∉ innerCharacters)
  exact ⟨items, whole_iff.mpr hcut.1, List.append_cancel_right hletters,
    resolve_classifySource h hboxed⟩

end LuaMarkup
