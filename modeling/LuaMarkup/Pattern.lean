import LuaMarkup.Text.Basic

/-!
Patterns over sequences of glyphs. A glyph that stands for one character can match it; any
other glyph is opaque and is met only by a run. Patterns are tried in order at every place from
the left, and matches do not overlap.
-/

namespace LuaMarkup

/-- What a pattern can see of the items of a sequence. -/
class Glyph (α : Type) where
  char? : α → Option Char

instance : Glyph Char := ⟨some⟩

/-- A match at the start of a sequence: what is classified, what is read after it as context,
and what follows both. -/
structure Hit (α : Type) where
  matched : List α
  context : List α
  rest : List α

def Hit.cons (a : α) (hit : Hit α) : Hit α :=
  { hit with matched := a :: hit.matched }

/-- A sequence cut by patterns: the items that no match took, and the matches, in order. -/
inductive Segment (α : Type) where
  | plain (a : α)
  | hit (matched context : List α)

inductive Pattern where
  /-- One character of each class in turn, before `context`. -/
  | each (classes : List (List Char)) (context : Text)
  /-- From `opening` through the nearest `closing` that stands before `context`, on one line. -/
  | run (opening closing context : Text)
deriving DecidableEq, Repr

namespace Pattern

variable [Glyph α]

/-- Cuts a sequence after one glyph of each class. -/
def cut? : List (List Char) → List α → Option (List α × List α)
  | [], items => some ([], items)
  | _ :: _, [] => none
  | allowed :: classes, a :: items =>
    match Glyph.char? a with
    | some c => if c ∈ allowed then (cut? classes items).map fun (l, r) => (a :: l, r) else none
    | none => none

/-- The class of each character of a text: that character alone. -/
def exactly (text : Text) : List (List Char) :=
  text.map ([·])

def fixed? (classes : List (List Char)) (context : Text) (items : List α) : Option (Hit α) := do
  let (matched, items) ← cut? classes items
  let (context, rest) ← cut? (exactly context) items
  return { matched, context, rest }

def isLineFeed (a : α) : Bool :=
  Glyph.char? a == some '\n'

/-- The shortest run up to `closing` and `context` that holds no line feed before them. -/
def shortest? (closing context : Text) : List α → Option (Hit α)
  | [] => fixed? (exactly closing) context []
  | a :: items =>
    match fixed? (exactly closing) context (a :: items) with
    | some hit => some hit
    | none => if isLineFeed a then none else (shortest? closing context items).map (·.cons a)

/-- A match at the start of a sequence. -/
def match? : Pattern → List α → Option (Hit α)
  | .each classes context, items => fixed? classes context items
  | .run opening closing context, items => do
    let (start, items) ← cut? (exactly opening) items
    let hit ← shortest? closing context items
    return { hit with matched := start ++ hit.matched }

theorem append_of_cut? {classes : List (List Char)} {items l r : List α}
    (h : cut? classes items = some (l, r)) : items = l ++ r ∧ l.length = classes.length := by
  induction classes generalizing items l with
  | nil => simp_all [cut?]
  | cons allowed classes ih =>
    cases items with
    | nil => simp [cut?] at h
    | cons a items =>
      simp only [cut?] at h
      split at h
      · split at h
        · obtain ⟨⟨l', r'⟩, hcut, heq⟩ := Option.map_eq_some_iff.mp h
          obtain ⟨rfl, rfl⟩ := Prod.mk.inj heq
          have := ih hcut
          simp [this.1, this.2]
        · cases h
      · cases h

theorem append_of_fixed? {classes : List (List Char)} {context : Text} {items : List α}
    {hit : Hit α} (h : fixed? classes context items = some hit) :
    items = hit.matched ++ hit.context ++ hit.rest ∧ hit.matched.length = classes.length := by
  simp only [fixed?, Option.bind_eq_bind, Option.bind_eq_some_iff] at h
  obtain ⟨⟨l, r⟩, hl, ⟨c, s⟩, hc, heq⟩ := h
  obtain rfl := Option.some.inj heq
  have h₁ := append_of_cut? hl
  have h₂ : r = c ++ s := (append_of_cut? hc).1
  simp [h₁.1, h₁.2, h₂]

theorem append_of_shortest? {closing context : Text} {items : List α} {hit : Hit α}
    (h : shortest? closing context items = some hit) :
    items = hit.matched ++ hit.context ++ hit.rest := by
  induction items generalizing hit with
  | nil => exact (append_of_fixed? h).1
  | cons a items ih =>
    simp only [shortest?] at h
    split at h
    · rename_i found hfound
      obtain rfl := Option.some.inj h
      exact (append_of_fixed? hfound).1
    · split at h
      · cases h
      · obtain ⟨inner, hinner, rfl⟩ := Option.map_eq_some_iff.mp h
        simp [Hit.cons, ih hinner]

/-- A match takes its parts from the sequence in order. -/
theorem append_of_match? {pattern : Pattern} {items : List α} {hit : Hit α}
    (h : pattern.match? items = some hit) :
    items = hit.matched ++ hit.context ++ hit.rest := by
  cases pattern with
  | each classes context => exact (append_of_fixed? h).1
  | run opening closing context =>
    simp only [match?, Option.bind_eq_bind, Option.bind_eq_some_iff] at h
    obtain ⟨⟨l, r⟩, hl, inner, hinner, heq⟩ := h
    obtain rfl := Option.some.inj heq
    have hr : r = inner.matched ++ inner.context ++ inner.rest := append_of_shortest? hinner
    simp [(append_of_cut? hl).1, hr]

/-- The pattern matches no empty sequence. -/
def Advances : Pattern → Prop
  | .each classes _ => classes ≠ []
  | .run opening _ _ => opening ≠ []

instance (pattern : Pattern) : Decidable pattern.Advances := by
  cases pattern <;> unfold Advances <;> infer_instance

theorem matched_ne_nil {pattern : Pattern} (hp : pattern.Advances) {items : List α}
    {hit : Hit α} (h : pattern.match? items = some hit) : hit.matched ≠ [] := by
  cases pattern with
  | each classes context =>
    have := (append_of_fixed? h).2
    intro hnil
    exact hp (List.length_eq_zero_iff.mp (by rw [← this, hnil]; rfl))
  | run opening closing context =>
    simp only [match?, Option.bind_eq_bind, Option.bind_eq_some_iff] at h
    obtain ⟨⟨l, r⟩, hl, inner, hinner, heq⟩ := h
    obtain rfl := Option.some.inj heq
    have := (append_of_cut? hl).2
    intro hnil
    have hl : l = [] := (List.append_eq_nil_iff.mp hnil).1
    subst hl
    exact hp (List.map_eq_nil_iff.mp (List.length_eq_zero_iff.mp this.symm))

/-- The match at the start of a sequence of the first pattern that has one there. -/
def first? (patterns : List Pattern) (items : List α) : Option (Hit α) :=
  patterns.findSome? (·.match? items)

theorem append_of_first? {patterns : List Pattern} {items : List α} {hit : Hit α}
    (h : first? patterns items = some hit) : items = hit.matched ++ hit.context ++ hit.rest := by
  obtain ⟨_, _, hmatch⟩ := List.exists_of_findSome?_eq_some h
  exact append_of_match? hmatch

section
variable {patterns : List Pattern} (hp : ∀ pattern ∈ patterns, pattern.Advances)
include hp

theorem matched_ne_nil_of_first? {items : List α} {hit : Hit α}
    (h : first? patterns items = some hit) : hit.matched ≠ [] := by
  obtain ⟨_, hmem, hmatch⟩ := List.exists_of_findSome?_eq_some h
  exact matched_ne_nil (hp _ hmem) hmatch

theorem length_rest_lt {items : List α} {hit : Hit α} (h : first? patterns items = some hit) :
    hit.rest.length < items.length := by
  have := List.length_pos_iff.mpr (matched_ne_nil_of_first? hp h)
  rw [append_of_first? h, List.length_append, List.length_append]
  omega

end

/-- The matches of these patterns from left to right, and what lies between them. -/
def segments (patterns : List Pattern) (hp : ∀ pattern ∈ patterns, pattern.Advances)
    (items : List α) : List (Segment α) :=
  match items with
  | [] => []
  | a :: tail =>
    match h : first? patterns (a :: tail) with
    | some hit =>
      have := length_rest_lt hp h
      .hit hit.matched hit.context :: segments patterns hp hit.rest
    | none => .plain a :: segments patterns hp tail
termination_by items.length
decreasing_by all_goals simp only [List.length_cons] at *; omega

section
variable {patterns : List Pattern} {hp : ∀ pattern ∈ patterns, pattern.Advances}

theorem segments_nil : segments patterns hp ([] : List α) = [] := by
  rw [segments]

theorem segments_of_first?_eq_none {a : α} {items : List α}
    (h : first? patterns (a :: items) = none) :
    segments patterns hp (a :: items) = .plain a :: segments patterns hp items := by
  rw [segments]
  split
  · rename_i hsome
    simp [h] at hsome
  · rfl

theorem segments_of_first? {items : List α} {hit : Hit α}
    (h : first? patterns items = some hit) :
    segments patterns hp items =
      .hit hit.matched hit.context :: segments patterns hp hit.rest := by
  fun_cases segments patterns hp items with
  | case1 =>
    have := length_rest_lt hp h
    simp at this
  | case2 a tail hit' h' =>
    obtain rfl := Option.some.inj (h.symm.trans h')
    rfl
  | case3 a tail h' => simp [h'] at h

/-- Patterns that match alike cut alike. -/
theorem segments_congr {patterns' : List Pattern} {hp' : ∀ pattern ∈ patterns', pattern.Advances}
    (h : ∀ items : List α, first? patterns items = first? patterns' items) (items : List α) :
    segments patterns hp items = segments patterns' hp' items := by
  fun_induction segments patterns hp items with
  | case1 => rw [segments_nil]
  | case2 a tail hit hhit _ ih => rw [segments_of_first? ((h _).symm.trans hhit), ih]
  | case3 a tail hnone ih => rw [segments_of_first?_eq_none ((h _).symm.trans hnone), ih]

end

end Pattern
end LuaMarkup
