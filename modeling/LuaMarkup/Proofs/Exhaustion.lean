import LuaMarkup.Proofs.Boundary
import LuaMarkup.Proofs.Encoding

/-!
# One pass of each rule is enough

`Rule.Exhausted`: the rule matches nowhere in a text. A pass exhausts its rule
(`Rule.exhausted_withTokens`), and no pass brings a match of another rule about, since it only
hides stretches of one line behind tokens (`Hides`), which no pattern can see. So all rules are
exhausted after their passes over any text, and a second classification finds nothing
(`classify_all_exhausts`).
-/

namespace LuaMarkup

/-- The second text is the first with some stretches, each on one line, behind tokens. -/
inductive Hides : Text → Text → Prop
  | nil : Hides [] []
  | keep : Hides text out → Hides (c :: text) (c :: out)
  | hide : OnOneLine stretch → Hides text out → Hides (stretch ++ text) (Token.write index ++ out)

namespace Hides

theorem append_left (front : Text) (h : Hides text out) : Hides (front ++ text) (front ++ out) := by
  induction front with
  | nil => exact h
  | cons c front ih => exact .keep ih

/-- A word that no token has a character of stood in the text before. -/
theorem of_word_append {word : Text} (hword : ∀ c ∈ word, ∀ index, c ∉ Token.write index)
    (h : Hides text (word ++ out)) : ∃ rest, text = word ++ rest ∧ Hides rest out := by
  induction word generalizing text with
  | nil => exact ⟨text, rfl, h⟩
  | cons c word ih =>
    generalize hwhole : c :: word ++ out = whole at h
    cases h with
    | nil => cases hwhole
    | keep h =>
      obtain ⟨rfl, rfl⟩ := List.cons.inj hwhole
      obtain ⟨rest, rfl, hrest⟩ := ih (fun d hd => hword d (List.mem_cons_of_mem c hd)) h
      exact ⟨rest, rfl, hrest⟩
    | @hide _ _ _ index _ _ =>
      obtain ⟨d, digits, hwrite⟩ := List.exists_cons_of_ne_nil (Token.write_ne_nil index)
      rw [hwrite] at hwhole
      obtain ⟨rfl, -⟩ := List.cons.inj hwhole
      exact absurd (hwrite ▸ List.mem_cons_self) (hword c List.mem_cons_self index)

/-- A character that no token has stands between what hides the two sides of it. -/
theorem cut {front back : Text} (hc : ∀ index, c ∉ Token.write index)
    (h : Hides text (front ++ c :: back)) : ∃ front' back', text = front' ++ c :: back' ∧
      Hides front' front ∧ Hides back' back := by
  generalize hwhole : front ++ c :: back = whole at h
  induction h generalizing front with
  | nil => simp at hwhole
  | @keep text out d h ih =>
    cases front with
    | nil =>
      obtain ⟨rfl, rfl⟩ := List.cons.inj hwhole
      exact ⟨[], text, rfl, .nil, h⟩
    | cons e front =>
      obtain ⟨rfl, htail⟩ := List.cons.inj hwhole
      obtain ⟨front', back', rfl, hfront, hback⟩ := ih htail
      exact ⟨e :: front', back', rfl, .keep hfront, hback⟩
  | @hide stretch text out index hstretch h ih =>
    rcases List.append_eq_append_iff.mp hwhole with ⟨taken, hwrite, htail⟩ | ⟨more, rfl, htail⟩
    · cases taken with
      | nil =>
        have htail : [] ++ c :: back = out := htail
        obtain ⟨front', back', rfl, hfront, hback⟩ := ih htail
        rw [List.append_nil] at hwrite
        have hhidden : Hides (stretch ++ front') (Token.write index ++ []) := .hide hstretch hfront
        refine ⟨stretch ++ front', back', (List.append_assoc ..).symm, ?_, hback⟩
        rwa [hwrite, List.append_nil] at hhidden
      | cons d taken =>
        obtain ⟨rfl, -⟩ := List.cons.inj htail
        exact absurd (hwrite ▸ List.mem_append_right front List.mem_cons_self) (hc index)
    · obtain ⟨front', back', rfl, hfront, hback⟩ := ih htail.symm
      exact ⟨stretch ++ front', back', (List.append_assoc ..).symm, .hide hstretch hfront, hback⟩

theorem onOneLine (h : Hides text out) (hout : OnOneLine out) : OnOneLine text := by
  induction h with
  | nil => exact hout
  | keep _ ih =>
    obtain ⟨hc, hout⟩ := List.forall_mem_cons.mp hout
    exact List.forall_mem_cons.mpr ⟨hc, ih hout⟩
  | hide hstretch _ ih =>
    exact List.forall_mem_append.mpr ⟨hstretch, ih (List.forall_mem_append.mp hout).2⟩

end Hides

-- ---------------------------------------------------------------------------
-- Hiding brings no match about
-- ---------------------------------------------------------------------------

theorem mem_flatten_of_forall₂_fits {classes : List (List Char)} {m : Text}
    (h : List.Forall₂ Fits classes m) : ∀ c ∈ m, c ∈ classes.flatten := by
  induction h with
  | nil => exact nofun
  | cons hfits _ ih =>
    obtain ⟨d, hd, hc⟩ := hfits
    obtain rfl := Option.some.inj hc
    intro e he
    rcases List.mem_cons.mp he with rfl | he
    · exact List.mem_append_left _ hd
    · exact List.mem_append_right _ (ih e he)

/-- What a pattern accepts behind tokens it accepts in front of them. -/
theorem Pattern.Accepts.of_hides {pattern : Pattern} {m c : Text} (hends : pattern.Ends)
    (hmarks : ∀ d ∈ pattern.marks, ∀ index, d ∉ Token.write index) (h : pattern.Accepts m c)
    (hhides : Hides text (m ++ c ++ back)) :
    ∃ m' c' back', pattern.Accepts m' c' ∧ text = m' ++ c' ++ back' := by
  cases pattern with
  | each classes context =>
    obtain ⟨hfits, hcontext⟩ := h
    obtain rfl := spells_text_iff.mp hcontext
    have hword : ∀ d ∈ m ++ c, ∀ index, d ∉ Token.write index := fun d hd => hmarks d <|
      (List.mem_append.mp hd).elim
        (fun hm => List.mem_append_left c (mem_flatten_of_forall₂_fits hfits d hm))
        (List.mem_append_right _)
    obtain ⟨back', htext, -⟩ := hhides.of_word_append hword
    exact ⟨m, c, back', ⟨hfits, hcontext⟩, htext⟩
  | run opening closing context =>
    obtain ⟨start, body, stop, rfl, hstart, hbody, hstop, hcontext⟩ := h
    obtain rfl := spells_text_iff.mp hstart
    obtain rfl := spells_text_iff.mp hstop
    obtain rfl := spells_text_iff.mp hcontext
    have hword : ∀ d ∈ stop ++ c, ∀ index, d ∉ Token.write index := fun d hd => hmarks d <| by
      rw [marks, List.append_assoc]
      exact List.mem_append_right start hd
    have hopen : ∀ d ∈ start, ∀ index, d ∉ Token.write index := fun d hd => hmarks d <| by
      rw [marks, List.append_assoc]
      exact List.mem_append_left _ hd
    obtain ⟨d, word, hd⟩ := List.exists_cons_of_ne_nil (hends : stop ++ c ≠ [])
    have hwhole : start ++ body ++ stop ++ c ++ back =
        start ++ (body ++ d :: (word ++ back)) := by
      rw [← List.cons_append, ← hd]
      simp
    rw [hwhole] at hhides
    rw [hd] at hword
    obtain ⟨_, rfl, hrun⟩ := hhides.of_word_append hopen
    obtain ⟨body', _, rfl, hbody', hbehind⟩ := hrun.cut (hword d List.mem_cons_self)
    obtain ⟨back', rfl, -⟩ :=
      hbehind.of_word_append fun e he => hword e (List.mem_cons_of_mem d he)
    refine ⟨start ++ body' ++ stop, c, back',
      ⟨start, body', stop, rfl, hstart, hbody'.onOneLine hbody, hstop, hcontext⟩, ?_⟩
    rw [List.append_assoc _ stop, hd]
    simp

namespace Rule

theorem match?_eq_none_of_hides {rule : Rule} (hhides : Hides text out)
    (h : rule.match? text = none) : rule.match? out = none := by
  rw [match?_eq_none_iff] at h ⊢
  rintro m c back haccepts rfl
  obtain ⟨pattern, hmem, hpattern⟩ := accepts_iff.mp haccepts
  have hmarks : ∀ d ∈ pattern.marks, ∀ index, d ∉ Token.write index := fun d hd =>
    notMem_write_of_mem_marks (List.mem_flatMap.mpr ⟨pattern, hmem, hd⟩)
  obtain ⟨m', c', back', haccepts', htext⟩ := hpattern.of_hides (ends_of_mem hmem) hmarks hhides
  exact h m' c' back' (accepts_iff.mpr ⟨pattern, hmem, haccepts'⟩) htext

/-- No match of the rule begins anywhere in the text. -/
def Exhausted (rule : Rule) (text : Text) : Prop :=
  ∀ back, back <:+ text → rule.match? back = none

theorem match?_nil (rule : Rule) : rule.match? ([] : Text) = none := by
  rw [match?_eq_none_iff]
  intro m c r haccepts heq
  obtain ⟨a, rest, rfl, -⟩ := haccepts.begins
  cases heq

theorem exhausted_nil (rule : Rule) : rule.Exhausted [] := by
  intro back hback
  rw [List.suffix_nil.mp hback]
  exact rule.match?_nil

theorem exhausted_cons_iff {rule : Rule} :
    rule.Exhausted (c :: text) ↔ rule.match? (c :: text) = none ∧ rule.Exhausted text := by
  constructor
  · exact fun h => ⟨h _ (List.suffix_refl _), fun back hback =>
      h back (hback.trans (List.suffix_cons c text))⟩
  · rintro ⟨hnone, h⟩ back hback
    rcases List.suffix_cons_iff.mp hback with rfl | hback
    · exact hnone
    · exact h back hback

theorem Exhausted.append_of_notMem {rule : Rule} {front : Text}
    (hfront : ∀ c ∈ front, c ∉ rule.openers) (h : rule.Exhausted text) :
    rule.Exhausted (front ++ text) := by
  induction front with
  | nil => exact h
  | cons c front ih =>
    have hc : ∀ o, Glyph.char? c = some o → o ∉ rule.openers := by
      rintro o ho
      obtain rfl := Option.some.inj ho
      exact hfront c List.mem_cons_self
    exact exhausted_cons_iff.mpr ⟨match?_eq_none_of_notMem hc _,
      ih fun d hd => hfront d (List.mem_cons_of_mem c hd)⟩

theorem openers_subset_marks (rule : Rule) : ∀ o ∈ rule.openers, o ∈ rule.marks := by
  cases rule <;> decide

theorem notMem_openers_of_mem_write (rule : Rule) (index : Nat) :
    ∀ c ∈ Token.write index, c ∉ rule.openers := fun _ hc hmem =>
  notMem_write_of_mem_marks (rule.openers_subset_marks _ hmem) index hc

theorem Exhausted.of_hides {rule : Rule} (h : rule.Exhausted text) (hhides : Hides text out) :
    rule.Exhausted out := by
  induction hhides with
  | nil => exact h
  | keep hhides ih =>
    obtain ⟨hnone, h⟩ := exhausted_cons_iff.mp h
    exact exhausted_cons_iff.mpr ⟨match?_eq_none_of_hides (.keep hhides) hnone, ih h⟩
  | @hide stretch text _ index _ _ ih =>
    have hback : rule.Exhausted text := fun back hback =>
      h back (hback.trans (List.suffix_append stretch text))
    exact (ih hback).append_of_notMem (rule.notMem_openers_of_mem_write index)

-- ---------------------------------------------------------------------------
-- A pass
-- ---------------------------------------------------------------------------

theorem lineFeed_notMem_marks (rule : Rule) : '\n' ∉ rule.marks := by
  cases rule <;> decide

/-- A match lies on one line. -/
theorem Accepts.onOneLine {rule : Rule} {m c : Text} (h : rule.Accepts m c) : OnOneLine m := by
  obtain ⟨pattern, hmem, hpattern⟩ := accepts_iff.mp h
  have hmarks : ∀ d ∈ pattern.marks, Glyph.char? d ≠ some '\n' := by
    rintro d hd hfeed
    obtain rfl := Option.some.inj hfeed
    exact rule.lineFeed_notMem_marks (List.mem_flatMap.mpr ⟨pattern, hmem, hd⟩)
  cases pattern with
  | each classes context =>
    exact fun d hd => hmarks d
      (List.mem_append_left context (mem_flatten_of_forall₂_fits hpattern.1 d hd))
  | run opening closing context =>
    obtain ⟨start, body, stop, rfl, hstart, hbody, hstop, -⟩ := hpattern
    obtain rfl := spells_text_iff.mp hstart
    obtain rfl := spells_text_iff.mp hstop
    refine List.forall_mem_append.mpr ⟨List.forall_mem_append.mpr ⟨fun d hd => hmarks d ?_, hbody⟩,
      fun d hd => hmarks d ?_⟩
    · exact List.mem_append_left context (List.mem_append_left stop hd)
    · exact List.mem_append_left context (List.mem_append_right start hd)

theorem hides_withTokens (rule : Rule) (text : Text) (next : Nat) :
    Hides text (Segment.withTokens next (rule.segments text)) := by
  induction text using @Rule.induction_on Char _ rule generalizing next with
  | nil =>
    rw [segments_nil]
    exact .nil
  | hit c text hit hmatch ih =>
    rw [segments_of_match? hmatch, append_of_match? hmatch, List.append_assoc,
      Segment.withTokens, List.append_assoc]
    exact .hide (match?_sound hmatch).onOneLine ((ih (next + 1)).append_left hit.context)
  | plain c text hnone ih =>
    rw [segments_of_match?_eq_none hnone]
    exact .keep (ih next)

/-- A pass takes every match of its rule. -/
theorem exhausted_withTokens (rule : Rule) (text : Text) (next : Nat) :
    rule.Exhausted (Segment.withTokens next (rule.segments text)) := by
  induction text using @Rule.induction_on Char _ rule generalizing next with
  | nil =>
    rw [segments_nil]
    exact rule.exhausted_nil
  | hit c text hit hmatch ih =>
    have hcontext : ∀ d ∈ hit.context, d ∉ rule.openers := fun d hd =>
      (match?_sound hmatch).notMem_context d hd d rfl
    rw [segments_of_match? hmatch, Segment.withTokens, List.append_assoc]
    exact ((ih (next + 1)).append_of_notMem hcontext).append_of_notMem
      (rule.notMem_openers_of_mem_write next)
  | plain c text hnone ih =>
    rw [segments_of_match?_eq_none hnone]
    have hhides : Hides (c :: text) (c :: Segment.withTokens next (rule.segments text)) :=
      .keep (rule.hides_withTokens text next)
    exact exhausted_cons_iff.mpr ⟨match?_eq_none_of_hides hhides hnone, ih next⟩

theorem exhausted_apply (rule : Rule) (draft : Draft) : rule.Exhausted (rule.apply draft).text :=
  rule.exhausted_withTokens draft.text draft.table.size

theorem Exhausted.apply {rule : Rule} {draft : Draft} (h : rule.Exhausted draft.text)
    (other : Rule) : rule.Exhausted (other.apply draft).text :=
  h.of_hides (other.hides_withTokens draft.text draft.table.size)

theorem segments_of_exhausted {rule : Rule} (h : rule.Exhausted text) :
    rule.segments text = text.map .plain := by
  induction text with
  | nil => exact rule.segments_nil
  | cons c text ih =>
    obtain ⟨hnone, h⟩ := exhausted_cons_iff.mp h
    rw [segments_of_match?_eq_none hnone, ih h, List.map_cons]

/-- A pass of an exhausted rule leaves all as it is. -/
theorem apply_of_exhausted {rule : Rule} {draft : Draft} (h : rule.Exhausted draft.text) :
    rule.apply draft = { draft with trace := [] } := by
  have htext := Encodes.withTokens_plain_append draft.table.size draft.text []
  have hreports := Encodes.reports_plain_append rule draft.text []
  rw [List.append_nil] at htext hreports
  rw [apply_eq, segments_of_exhausted h, htext, hreports]
  simp [Segment.withTokens, Segment.reports, Table.append]

end Rule

-- ---------------------------------------------------------------------------
-- All passes
-- ---------------------------------------------------------------------------

theorem Rule.Exhausted.classify {rule : Rule} {draft : Draft} (h : rule.Exhausted draft.text)
    (rules : List Rule) : rule.Exhausted (classify rules draft).text := by
  induction rules generalizing draft with
  | nil => exact h
  | cons first rules ih => exact ih (h.apply first)

/-- Whatever rules come before and after it, a rule is exhausted by its pass. -/
theorem exhausted_classify_of_mem {rules : List Rule} {rule : Rule} (h : rule ∈ rules)
    (draft : Draft) : rule.Exhausted (classify rules draft).text := by
  induction rules generalizing draft with
  | nil => cases h
  | cons first rules ih =>
    rcases List.mem_cons.mp h with rfl | h
    · exact (rule.exhausted_apply draft).classify rules
    · exact ih h _

theorem classify_of_exhausted {rules : List Rule} {draft : Draft}
    (h : ∀ rule ∈ rules, rule.Exhausted draft.text) :
    classify rules draft = { draft with trace := [] } := by
  induction rules with
  | nil => rfl
  | cons rule rules ih =>
    have hrest := ih fun other hother => h other (List.mem_cons_of_mem rule hother)
    rw [classify, Rule.apply_of_exhausted (h rule List.mem_cons_self), hrest]
    rfl

/-- Classifying any text leaves one in which no rule matches anywhere. Classifying that again,
by whatever rules and with whatever table, leaves it as it is, stores nothing and reports
nothing. -/
theorem classify_all_exhausts (draft : Draft) :
    (∀ rule : Rule, rule.Exhausted (classify Rule.all draft).text) ∧
      ∀ (rules : List Rule) (table : Table),
        classify rules { text := (classify Rule.all draft).text, table } =
          { text := (classify Rule.all draft).text, table, trace := [] } := by
  have hall : ∀ rule : Rule, rule.Exhausted (classify Rule.all draft).text := fun rule =>
    exhausted_classify_of_mem (by cases rule <;> decide) draft
  exact ⟨hall, fun rules table => classify_of_exhausted fun rule _ => hall rule⟩

/-- Two quotes on two lines close no string, and two dashes without a line end no comment. -/
example : (classify Rule.all { text := "'\n'--".toList, table := .empty }).text =
    "'\n'$0;$1;".toList := by
  decide +kernel

end LuaMarkup
