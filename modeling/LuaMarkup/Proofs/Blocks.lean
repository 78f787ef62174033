import LuaMarkup.Proofs.Matching

/-!
# Sequences that correspond block by block

In `Blocks R items text` each item of one sequence stands for a block of the other. Where an
item stands for one like it, or a faint item, which no mark of a rule's patterns names, for
faint ones, the rule cuts both sequences in the same places (`Blocks.segments`).
-/

namespace LuaMarkup

/-- The characters that a pattern is written with. -/
def Pattern.marks : Pattern → List Char
  | .each classes context => classes.flatten ++ context
  | .run opening closing context => opening ++ closing ++ context

def Rule.marks (rule : Rule) : List Char :=
  rule.alternatives.flatMap Pattern.marks

/-- A pattern written with `marks` meets the glyph inside of a run only. -/
def Faint [Glyph α] (marks : List Char) (a : α) : Prop :=
  ∀ c, Glyph.char? a = some c → c ≠ '\n' ∧ c ∉ marks

/-- No pattern written with `marks` can tell the block from the glyph. -/
inductive StandsFor [Glyph α] [Glyph β] (marks : List Char) (a : α) : List β → Prop
  | alike : Glyph.char? b = Glyph.char? a → StandsFor marks a [b]
  | faint : Faint marks a → block ≠ [] → (∀ b ∈ block, Faint marks b) → StandsFor marks a block

inductive Blocks (R : α → List β → Prop) : List α → List β → Prop
  | nil : Blocks R [] []
  | cons : R a block → Blocks R items text → Blocks R (a :: items) (block ++ text)

/-- Both parts of a cut correspond. -/
def CutBlocks (R : α → List β → Prop) (x : List α × List α) (y : List β × List β) : Prop :=
  Blocks R x.1 y.1 ∧ Blocks R x.2 y.2

/-- Matches that correspond part by part. -/
structure HitBlocks (R : α → List β → Prop) (hit : Hit α) (hit' : Hit β) : Prop where
  matched : Blocks R hit.matched hit'.matched
  context : Blocks R hit.context hit'.context
  rest : Blocks R hit.rest hit'.rest

/-- Segments that correspond. A plain item corresponds to a block of plain items. -/
inductive SegmentBlocks (R : α → List β → Prop) : List (Segment α) → List (Segment β) → Prop
  | nil : SegmentBlocks R [] []
  | plain : R a block → SegmentBlocks R segments segments' →
      SegmentBlocks R (.plain a :: segments) (block.map .plain ++ segments')
  | hit : Blocks R matched matched' → Blocks R context context' →
      SegmentBlocks R segments segments' →
      SegmentBlocks R (.hit matched context :: segments) (.hit matched' context' :: segments')

-- ---------------------------------------------------------------------------
-- Faint glyphs
-- ---------------------------------------------------------------------------

section
variable [Glyph α] {marks : List Char}

namespace Pattern

theorem cut?_of_faint {a : α} (h : Faint marks a) (hsub : allowed ⊆ marks)
    (classes : List (List Char)) (items : List α) :
    cut? (allowed :: classes) (a :: items) = none := by
  simp only [cut?]
  split
  · rename_i c hc
    rw [if_neg fun hmem => (h c hc).2 (hsub hmem)]
  · rfl

theorem fixed?_of_faint {a : α} {classes : List (List Char)} {context : Text} (h : Faint marks a)
    (hsub : classes.flatten ++ context ⊆ marks) (hne : classes ≠ [] ∨ context ≠ [])
    (items : List α) : fixed? classes context (a :: items) = none := by
  cases classes with
  | cons allowed classes =>
    have hallowed : allowed ⊆ marks := fun c hc => hsub (by simp [hc])
    simp [fixed?, cut?_of_faint h hallowed]
  | nil =>
    cases context with
    | nil => simp at hne
    | cons c context =>
      have hc : [c] ⊆ marks := fun d hd => hsub (by simp [List.mem_singleton.mp hd])
      have hcut : cut? (exactly (c :: context)) (a :: items) = none :=
        cut?_of_faint h hc (exactly context) items
      have hnil : cut? [] (a :: items) = some ([], a :: items) := rfl
      simp [fixed?, hnil, hcut]

theorem isLineFeed_of_faint {a : α} (h : Faint marks a) : isLineFeed a = false :=
  Bool.eq_false_iff.mpr fun hfeed => (h _ (isLineFeed_iff.mp hfeed)).1 rfl

theorem flatten_exactly (text : Text) : (exactly text).flatten = text := by
  induction text with
  | nil => rfl
  | cons c text ih => simpa [exactly] using ih

/-- A run passes over a block of faint glyphs. -/
theorem shortest?_faint_append {closing context : Text} {block : List α}
    (h : ∀ a ∈ block, Faint marks a) (hsub : closing ++ context ⊆ marks)
    (hne : closing ++ context ≠ []) (items : List α) :
    shortest? closing context (block ++ items) =
      (shortest? closing context items).map fun hit =>
        { hit with matched := block ++ hit.matched } := by
  induction block with
  | nil => simp
  | cons a block ih =>
    have ha := h a List.mem_cons_self
    have hnow : fixed? (exactly closing) context (a :: (block ++ items)) = none := by
      apply fixed?_of_faint ha
      · rwa [flatten_exactly]
      · by_cases hclosing : closing = []
        · exact .inr fun hcontext => hne (by rw [hclosing, hcontext]; rfl)
        · exact .inl fun hnil => hclosing (List.map_eq_nil_iff.mp hnil)
    rw [List.cons_append, shortest?, hnow, isLineFeed_of_faint ha,
      ih fun b hb => h b (List.mem_cons_of_mem a hb)]
    simp only [Bool.false_eq_true, ↓reduceIte, Option.map_map]
    rfl

end Pattern

/-- The first character of a match is one of the marks. -/
theorem Rule.match?_of_faint {rule : Rule} {a : α} (h : Faint rule.marks a) (items : List α) :
    rule.match? (a :: items) = none := by
  apply List.findSome?_eq_none_iff.mpr
  intro pattern hmem
  have hadvances := advances_of_mem hmem
  have hmarks : pattern.marks ⊆ rule.marks := fun c hc =>
    List.mem_flatMap.mpr ⟨pattern, hmem, hc⟩
  cases pattern with
  | each classes context => exact Pattern.fixed?_of_faint h hmarks (.inl hadvances) items
  | run opening closing context =>
    obtain ⟨c, opening, rfl⟩ := List.exists_cons_of_ne_nil hadvances
    have hc : [c] ⊆ rule.marks := fun d hd =>
      hmarks (by simp [Pattern.marks, List.mem_singleton.mp hd])
    simp [Pattern.match?, Pattern.exactly, Pattern.cut?_of_faint h hc]

theorem Rule.segments_faint_append {rule : Rule} {block : List α}
    (h : ∀ a ∈ block, Faint rule.marks a) (items : List α) :
    rule.segments (block ++ items) = block.map .plain ++ rule.segments items :=
  segments_append_of_match?_eq_none (fun a ha => match?_of_faint (h a ha)) items

end

-- ---------------------------------------------------------------------------
-- Matching block by block
-- ---------------------------------------------------------------------------

theorem rel_bind {R : α → β → Prop} {S : γ → δ → Prop} {x : Option α} {y : Option β}
    {f : α → Option γ} {g : β → Option δ} (h : Option.Rel R x y)
    (hfg : ∀ a b, R a b → Option.Rel S (f a) (g b)) : Option.Rel S (x.bind f) (y.bind g) := by
  cases h with
  | none => exact .none
  | some hab => exact hfg _ _ hab

theorem rel_map {R : α → β → Prop} {S : γ → δ → Prop} {x : Option α} {y : Option β}
    {f : α → γ} {g : β → δ} (h : Option.Rel R x y) (hfg : ∀ a b, R a b → S (f a) (g b)) :
    Option.Rel S (x.map f) (y.map g) := by
  cases h with
  | none => exact .none
  | some hab => exact .some (hfg _ _ hab)

section
variable {R : α → List β → Prop}

theorem Blocks.append (h : Blocks R items text) (h' : Blocks R items' text') :
    Blocks R (items ++ items') (text ++ text') := by
  induction h with
  | nil => exact h'
  | cons ha _ ih =>
    rw [List.cons_append, List.append_assoc]
    exact .cons ha ih

end

section
variable [Glyph α] [Glyph β] {R : α → List β → Prop} {marks : List Char}

namespace Pattern

theorem cut?_blocks (hR : ∀ a block, R a block → StandsFor marks a block)
    {classes : List (List Char)} (hsub : classes.flatten ⊆ marks) (h : Blocks R items text) :
    Option.Rel (CutBlocks R) (cut? classes items) (cut? classes text) := by
  induction classes generalizing items text with
  | nil => exact .some ⟨.nil, h⟩
  | cons allowed classes ih =>
    have hallowed : allowed ⊆ marks := fun c hc => hsub (by simp [hc])
    cases h with
    | nil => exact .none
    | @cons a block items text ha h =>
      cases hR a block ha with
      | @alike b hb =>
        have hrest := ih (fun c hc => hsub (List.mem_append_right allowed hc)) h
        simp only [List.cons_append, List.nil_append, cut?, hb]
        cases hc : Glyph.char? a with
        | none => exact .none
        | some c =>
          by_cases hmem : c ∈ allowed
          · simp only [hmem, ↓reduceIte]
            exact rel_map hrest fun _ _ hcut => ⟨.cons ha hcut.1, hcut.2⟩
          · simp only [hmem, ↓reduceIte]
            exact .none
      | faint hfaint hne hblock =>
        obtain ⟨b, block, rfl⟩ := List.exists_cons_of_ne_nil hne
        rw [cut?_of_faint hfaint hallowed, List.cons_append,
          cut?_of_faint (hblock b List.mem_cons_self) hallowed]
        exact .none

theorem fixed?_blocks (hR : ∀ a block, R a block → StandsFor marks a block)
    {classes : List (List Char)} {context : Text} (hsub : classes.flatten ++ context ⊆ marks)
    (h : Blocks R items text) :
    Option.Rel (HitBlocks R) (fixed? classes context items) (fixed? classes context text) := by
  have hclasses : classes.flatten ⊆ marks := fun c hc => hsub (List.mem_append_left context hc)
  have hcontext : (exactly context).flatten ⊆ marks := by
    rw [flatten_exactly]
    exact fun c hc => hsub (List.mem_append_right _ hc)
  simp only [fixed?, Option.bind_eq_bind]
  refine rel_bind (cut?_blocks hR hclasses h) ?_
  rintro ⟨l, r⟩ ⟨l', r'⟩ ⟨hl, hr⟩
  refine rel_bind (cut?_blocks hR hcontext hr) ?_
  rintro ⟨c, s⟩ ⟨c', s'⟩ ⟨hc, hs⟩
  exact .some ⟨hl, hc, hs⟩

theorem shortest?_blocks (hR : ∀ a block, R a block → StandsFor marks a block)
    {closing context : Text} (hsub : closing ++ context ⊆ marks) (hne : closing ++ context ≠ [])
    (h : Blocks R items text) :
    Option.Rel (HitBlocks R) (shortest? closing context items)
      (shortest? closing context text) := by
  have hclasses : (exactly closing).flatten ++ context ⊆ marks := by rwa [flatten_exactly]
  induction h with
  | nil => exact fixed?_blocks hR hclasses .nil
  | @cons a block items text ha h ih =>
    cases hR a block ha with
    | @alike b hb =>
      have hnow := fixed?_blocks hR hclasses (Blocks.cons ha h)
      have hfeed : isLineFeed b = isLineFeed a := by simp [isLineFeed, hb]
      simp only [List.cons_append, List.nil_append, shortest?, hfeed] at hnow ⊢
      generalize fixed? (exactly closing) context (a :: items) = x at hnow ⊢
      generalize fixed? (exactly closing) context (b :: text) = y at hnow ⊢
      cases hnow with
      | some hhit => exact .some hhit
      | none =>
        cases isLineFeed a with
        | true => exact .none
        | false =>
          exact rel_map ih fun _ _ hhit => ⟨.cons ha hhit.matched, hhit.context, hhit.rest⟩
    | faint hfaint _ hblock =>
      have hone : ∀ b ∈ [a], Faint marks b := by simpa using hfaint
      rw [← List.singleton_append, shortest?_faint_append hone hsub hne items,
        shortest?_faint_append hblock hsub hne text]
      exact rel_map ih fun _ _ hhit => ⟨.cons ha hhit.matched, hhit.context, hhit.rest⟩

/-- A run says where it ends. -/
def Ends : Pattern → Prop
  | .each _ _ => True
  | .run _ closing context => closing ++ context ≠ []

theorem match?_blocks {pattern : Pattern} (hR : ∀ a block, R a block → StandsFor marks a block)
    (hends : pattern.Ends) (hsub : pattern.marks ⊆ marks) (h : Blocks R items text) :
    Option.Rel (HitBlocks R) (pattern.match? items) (pattern.match? text) := by
  cases pattern with
  | each classes context => exact fixed?_blocks hR hsub h
  | run opening closing context =>
    have hall : opening ++ (closing ++ context) ⊆ marks := by
      rwa [← List.append_assoc]
    have hopening : (exactly opening).flatten ⊆ marks := by
      rw [flatten_exactly]
      exact fun c hc => hall (List.mem_append_left _ hc)
    have hrest : closing ++ context ⊆ marks := fun c hc => hall (List.mem_append_right _ hc)
    simp only [match?, Option.bind_eq_bind]
    refine rel_bind (cut?_blocks hR hopening h) ?_
    rintro ⟨l, r⟩ ⟨l', r'⟩ ⟨hl, hr⟩
    refine rel_bind (shortest?_blocks hR hrest hends hr) ?_
    rintro hit hit' hhit
    exact .some ⟨hl.append hhit.matched, hhit.context, hhit.rest⟩

end Pattern

namespace Rule

theorem ends_of_mem {rule : Rule} {pattern : Pattern} (h : pattern ∈ rule.alternatives) :
    pattern.Ends := by
  cases rule with
  | keyword =>
    obtain ⟨word, -, rfl⟩ := List.mem_map.mp h
    trivial
  | singleQuoted | doubleQuoted | lineComment =>
    obtain rfl := List.mem_singleton.mp h
    exact List.cons_ne_nil _ _
  | doubleBackslash | escapedQuote | operator =>
    obtain rfl := List.mem_singleton.mp h
    trivial

theorem match?_blocks {rule : Rule} (hR : ∀ a block, R a block → StandsFor rule.marks a block)
    (h : Blocks R items text) :
    Option.Rel (HitBlocks R) (rule.match? items) (rule.match? text) := by
  have hall : ∀ patterns ⊆ rule.alternatives, Option.Rel (HitBlocks R)
      (patterns.findSome? (·.match? items)) (patterns.findSome? (·.match? text)) := by
    intro patterns hsub
    induction patterns with
    | nil => exact .none
    | cons pattern patterns ih =>
      have hmem := hsub List.mem_cons_self
      have hmarks : pattern.marks ⊆ rule.marks := fun c hc =>
        List.mem_flatMap.mpr ⟨pattern, hmem, hc⟩
      have hfirst := Pattern.match?_blocks hR (ends_of_mem hmem) hmarks h
      have hrest := ih fun p hp => hsub (List.mem_cons_of_mem pattern hp)
      simp only [List.findSome?_cons]
      generalize pattern.match? items = x at hfirst ⊢
      generalize pattern.match? text = y at hfirst ⊢
      cases hfirst with
      | none => exact hrest
      | some hhit => exact .some hhit
  exact hall _ fun _ hp => hp

/-- A rule cuts sequences that correspond in the same places. -/
theorem segments_blocks {rule : Rule} (hR : ∀ a block, R a block → StandsFor rule.marks a block)
    (h : Blocks R items text) :
    SegmentBlocks R (rule.segments items) (rule.segments text) := by
  induction items using @Rule.induction_on α _ rule generalizing text with
  | nil =>
    cases h
    rw [segments_nil, segments_nil]
    exact .nil
  | hit a items hit hmatch ih =>
    have hrel := match?_blocks hR h
    rw [hmatch] at hrel
    generalize htext : rule.match? text = found at hrel
    cases hrel with
    | some hhit =>
      rw [segments_of_match? hmatch, segments_of_match? htext]
      exact .hit hhit.matched hhit.context (ih hhit.rest)
  | plain a items hmatch ih =>
    rw [segments_of_match?_eq_none hmatch]
    have hrel := match?_blocks hR h
    rw [hmatch] at hrel
    generalize htext : rule.match? text = found at hrel
    cases hrel
    cases h with
    | @cons _ block _ text ha h =>
      cases hR a block ha with
      | @alike b =>
        rw [show [b] ++ text = b :: text from rfl] at htext ⊢
        rw [segments_of_match?_eq_none htext]
        exact .plain ha (ih h)
      | faint _ _ hblock =>
        rw [segments_faint_append hblock]
        exact .plain ha (ih h)

end Rule
end
end LuaMarkup
