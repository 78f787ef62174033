import Mathlib
import LuaMarkup.Rule

/-!
# What a rule matches

`Rule.Accepts` lists, rule by rule, what may be classified and which context has to follow it.
`match?_eq_some_iff`: the match of a rule at the start of a sequence is the shortest one that
is accepted there. `match?_eq_none_iff`: there is no match only where nothing is accepted.
-/

namespace LuaMarkup

/-- Only the characters of the text are looked at. -/
instance {p : Char → Prop} [DecidablePred p] (text : Text) : Decidable (∀ c ∈ text, p c) :=
  List.decidableBAll p text

section
variable [Glyph α]

/-- The items are characters and read as the text. -/
def Spells (items : List α) (text : Text) : Prop :=
  items.map Glyph.char? = text.map some

/-- What may stand between the marks of a run: anything but a line feed. -/
def OnOneLine (items : List α) : Prop :=
  ∀ a ∈ items, Glyph.char? a ≠ some '\n'

/-- The item is one of the characters allowed at its place. -/
def Fits (allowed : List Char) (a : α) : Prop :=
  ∃ c ∈ allowed, Glyph.char? a = some c

theorem Spells.length_eq {items : List α} (h : Spells items text) : items.length = text.length := by
  simpa using congrArg List.length h

theorem spells_nil {items : List α} : Spells items [] ↔ items = [] := by
  simp [Spells]

theorem spells_cons {items : List α} :
    Spells items (c :: text) ↔
      ∃ a rest, items = a :: rest ∧ Glyph.char? a = some c ∧ Spells rest text := by
  cases items with
  | nil => simp [Spells]
  | cons a rest =>
    simp only [Spells, List.map_cons, List.cons.injEq]
    constructor
    · rintro ⟨ha, hrest⟩
      exact ⟨a, rest, ⟨rfl, rfl⟩, ha, hrest⟩
    · rintro ⟨_, _, ⟨rfl, rfl⟩, ha, hrest⟩
      exact ⟨ha, hrest⟩

theorem spells_text_iff {letters : Text} : Spells letters text ↔ letters = text :=
  List.map_inj_right fun _ _ => Option.some.inj

theorem ne_append_of_forall_ne {body : List α} (h : ∀ a ∈ body, Glyph.char? a ≠ some o) :
    ∀ front stop back, Spells stop (o :: mark) → body ≠ front ++ (stop ++ back) := by
  rintro front _ back hstop rfl
  obtain ⟨a, stop, rfl, ha, -⟩ := spells_cons.mp hstop
  exact h a (by simp) ha

/-- A mark that cannot begin inside of itself comes first where none stands before it. -/
theorem length_le_of_mark {body stop rest body' stop' rest' : List α} (hmark : o ∉ mark)
    (hnone : ∀ front stop back, Spells stop (o :: mark) → body ≠ front ++ (stop ++ back))
    (hstop : Spells stop (o :: mark)) (hstop' : Spells stop' (o :: mark))
    (h : body ++ (stop ++ rest) = body' ++ (stop' ++ rest')) : body.length ≤ body'.length := by
  rcases List.append_eq_append_iff.mp h with ⟨more, rfl, -⟩ | ⟨behind, rfl, htail⟩
  · simp
  rcases List.append_eq_append_iff.mp htail with ⟨back, rfl, -⟩ | ⟨inside, rfl, hrest⟩
  · exact absurd rfl (hnone body' stop' back hstop')
  rcases behind with _ | ⟨a, behind⟩
  · simp
  rcases inside with _ | ⟨b, inside⟩
  · exact absurd (by simp) (hnone body' _ [] hstop')
  obtain ⟨_, _, rfl, hb, -⟩ := spells_cons.mp hstop
  obtain ⟨rfl, -⟩ := List.cons.inj hrest
  obtain ⟨_, _, heq, -, hspell⟩ := spells_cons.mp hstop'
  obtain ⟨-, rfl⟩ := List.cons.inj heq
  have hmem : some o ∈ mark.map some := by
    rw [← show (behind ++ _ :: inside).map Glyph.char? = mark.map some from hspell, ← hb]
    simp
  exact absurd (by simpa using hmem) hmark

theorem forall₂_exactly {items : List α} :
    List.Forall₂ Fits (Pattern.exactly text) items ↔ Spells items text := by
  induction text generalizing items with
  | nil =>
    rw [spells_nil]
    constructor
    · rintro ⟨⟩
      rfl
    · rintro rfl
      exact .nil
  | cons c text ih =>
    rw [spells_cons]
    constructor
    · rintro (_ | ⟨⟨d, hd, ha⟩, hrest⟩)
      obtain rfl := List.mem_singleton.mp hd
      exact ⟨_, _, rfl, ha, ih.mp hrest⟩
    · rintro ⟨a, rest, rfl, ha, hrest⟩
      exact .cons ⟨c, List.mem_singleton.mpr rfl, ha⟩ (ih.mpr hrest)

namespace Pattern

theorem cut?_sound {classes : List (List Char)} {items l r : List α}
    (h : cut? classes items = some (l, r)) : items = l ++ r ∧ List.Forall₂ Fits classes l := by
  induction classes generalizing items l with
  | nil =>
    obtain ⟨rfl, rfl⟩ := Prod.mk.inj (Option.some.inj h)
    exact ⟨rfl, .nil⟩
  | cons allowed classes ih =>
    cases items with
    | nil => simp [cut?] at h
    | cons a items =>
      simp only [cut?] at h
      split at h
      · rename_i c hc
        split at h
        · rename_i hmem
          obtain ⟨⟨l', r'⟩, hcut, heq⟩ := Option.map_eq_some_iff.mp h
          obtain ⟨rfl, rfl⟩ := Prod.mk.inj heq
          obtain ⟨rfl, hfits⟩ := ih hcut
          exact ⟨rfl, .cons ⟨c, hmem, hc⟩ hfits⟩
        · cases h
      · cases h

theorem cut?_complete {classes : List (List Char)} {l : List α}
    (h : List.Forall₂ Fits classes l) (r : List α) : cut? classes (l ++ r) = some (l, r) := by
  induction h with
  | nil => rfl
  | cons hfits _ ih =>
    obtain ⟨c, hmem, hc⟩ := hfits
    simp [cut?, hc, hmem, ih]

theorem fixed?_sound {classes : List (List Char)} {context : Text} {items : List α} {hit : Hit α}
    (h : fixed? classes context items = some hit) :
    List.Forall₂ Fits classes hit.matched ∧ Spells hit.context context ∧
      items = hit.matched ++ hit.context ++ hit.rest := by
  simp only [fixed?, Option.bind_eq_bind, Option.bind_eq_some_iff] at h
  obtain ⟨⟨l, r⟩, hl, ⟨c, s⟩, hc, heq⟩ := h
  obtain rfl := Option.some.inj heq
  obtain ⟨rfl, hfits⟩ := cut?_sound hl
  obtain ⟨hr, hcontext⟩ := cut?_sound hc
  exact ⟨hfits, forall₂_exactly.mp hcontext, by simp [show r = c ++ s from hr]⟩

theorem fixed?_complete {classes : List (List Char)} {context : Text} {m c : List α}
    (hm : List.Forall₂ Fits classes m) (hc : Spells c context) (r : List α) :
    fixed? classes context (m ++ c ++ r) = some ⟨m, c, r⟩ := by
  simp [fixed?, cut?_complete hm, cut?_complete (forall₂_exactly.mpr hc)]

theorem isLineFeed_iff {a : α} : isLineFeed a = true ↔ Glyph.char? a = some '\n' := by
  simp [isLineFeed]

theorem shortest?_sound {closing context : Text} {items : List α} {hit : Hit α}
    (h : shortest? closing context items = some hit) :
    ∃ body stop, hit.matched = body ++ stop ∧ OnOneLine body ∧ Spells stop closing ∧
      Spells hit.context context := by
  induction items generalizing hit with
  | nil =>
    obtain ⟨hfits, hcontext, -⟩ := fixed?_sound h
    exact ⟨[], hit.matched, rfl, nofun, forall₂_exactly.mp hfits, hcontext⟩
  | cons a items ih =>
    simp only [shortest?] at h
    split at h
    · rename_i found hfound
      obtain rfl := Option.some.inj h
      obtain ⟨hfits, hcontext, -⟩ := fixed?_sound hfound
      exact ⟨[], found.matched, rfl, nofun, forall₂_exactly.mp hfits, hcontext⟩
    · split at h
      · cases h
      · rename_i hfeed
        obtain ⟨inner, hinner, rfl⟩ := Option.map_eq_some_iff.mp h
        obtain ⟨body, stop, heq, hbody, hstop, hcontext⟩ := ih hinner
        refine ⟨a :: body, stop, by simp [Hit.cons, heq], ?_, hstop, hcontext⟩
        intro b hb
        rcases List.mem_cons.mp hb with rfl | hb
        · exact fun hc => hfeed (isLineFeed_iff.mpr hc)
        · exact hbody b hb

/-- A run ends no later than at any place where it could end. -/
theorem shortest?_complete {closing context : Text} {body stop c : List α}
    (hbody : OnOneLine body) (hstop : Spells stop closing) (hc : Spells c context) (r : List α) :
    ∃ hit, shortest? closing context (body ++ stop ++ c ++ r) = some hit ∧
      hit.matched.length ≤ (body ++ stop).length := by
  have hnow := fixed?_complete (forall₂_exactly.mpr hstop) hc r
  induction body with
  | nil =>
    refine ⟨⟨stop, c, r⟩, ?_, Nat.le_refl _⟩
    rw [List.nil_append]
    generalize stop ++ c ++ r = items at hnow ⊢
    cases items with
    | nil => exact hnow
    | cons a items => simp [shortest?, hnow]
  | cons a body ih =>
    simp only [List.cons_append, shortest?]
    cases hfixed : fixed? (exactly closing) context (a :: (body ++ stop ++ c ++ r)) with
    | some hit =>
      have hlen := (forall₂_exactly.mp (fixed?_sound hfixed).1).length_eq
      refine ⟨hit, rfl, ?_⟩
      simp only [List.length_cons, List.length_append, hlen, ← hstop.length_eq]
      omega
    | none =>
      have hfeed : isLineFeed a = false :=
        Bool.eq_false_iff.mpr fun h => hbody a List.mem_cons_self (isLineFeed_iff.mp h)
      obtain ⟨hit, hhit, hlen⟩ := ih fun b hb => hbody b (List.mem_cons_of_mem a hb)
      refine ⟨hit.cons a, by rw [hhit, hfeed]; rfl, ?_⟩
      simpa [Hit.cons] using hlen

/-- What a pattern may classify and the context after it, wherever they stand. -/
def Accepts : Pattern → List α → List α → Prop
  | .each classes context, m, c => List.Forall₂ Fits classes m ∧ Spells c context
  | .run opening closing context, m, c =>
    ∃ start body stop, m = start ++ body ++ stop ∧ Spells start opening ∧ OnOneLine body ∧
      Spells stop closing ∧ Spells c context

theorem match?_sound {pattern : Pattern} {items : List α} {hit : Hit α}
    (h : pattern.match? items = some hit) : pattern.Accepts hit.matched hit.context := by
  cases pattern with
  | each classes context =>
    obtain ⟨hfits, hcontext, -⟩ := fixed?_sound h
    exact ⟨hfits, hcontext⟩
  | run opening closing context =>
    simp only [match?, Option.bind_eq_bind, Option.bind_eq_some_iff] at h
    obtain ⟨⟨start, r⟩, hstart, inner, hinner, heq⟩ := h
    obtain rfl := Option.some.inj heq
    obtain ⟨body, stop, hmatched, hbody, hstop, hcontext⟩ := shortest?_sound hinner
    exact ⟨start, body, stop, by simp [hmatched], forall₂_exactly.mp (cut?_sound hstart).2, hbody,
      hstop, hcontext⟩

theorem match?_complete {pattern : Pattern} {m c : List α} (h : pattern.Accepts m c)
    (r : List α) : ∃ hit, pattern.match? (m ++ c ++ r) = some hit ∧
      hit.matched.length ≤ m.length := by
  cases pattern with
  | each classes context =>
    exact ⟨⟨m, c, r⟩, fixed?_complete h.1 h.2 r, Nat.le_refl _⟩
  | run opening closing context =>
    obtain ⟨start, body, stop, rfl, hstart, hbody, hstop, hc⟩ := h
    obtain ⟨hit, hhit, hlen⟩ := shortest?_complete hbody hstop hc r
    refine ⟨{ hit with matched := start ++ hit.matched }, ?_, ?_⟩
    · have hcut := cut?_complete (forall₂_exactly.mpr hstart) (body ++ stop ++ c ++ r)
      simp only [List.append_assoc] at hcut hhit ⊢
      simp [match?, hcut, hhit]
    · simp only [List.length_append] at hlen ⊢
      omega

end Pattern

/-- A quote, a stretch of one line and the quote again. -/
def Quoted (quote : Char) (m : List α) : Prop :=
  ∃ first body last, m = first :: (body ++ [last]) ∧ Glyph.char? first = some quote ∧
    OnOneLine body ∧ Glyph.char? last = some quote

namespace Rule

/-- What a rule may classify and the context after it, wherever they stand. -/
inductive Accepts : Rule → List α → List α → Prop
  | doubleBackslash : Spells m ['\\', '\\'] → Accepts .doubleBackslash m []
  | escapedQuote : quote ∈ ['"', '\''] → Spells m ['\\', quote] → Accepts .escapedQuote m []
  | singleQuoted : Quoted '\'' m → Accepts .singleQuoted m []
  | doubleQuoted : Quoted '"' m → Accepts .doubleQuoted m []
  | lineComment : Spells dashes ['-', '-'] → OnOneLine body → Spells c "<br>".toList →
      Accepts .lineComment (dashes ++ body) c
  | operator : o ∈ operators.toList → Spells m [o] → Accepts .operator m []
  | keyword : word ∈ keywords → Spells m word.toList → Spells c ['<'] → Accepts .keyword m c

/-- A match at the start of a sequence that is no longer than any other there. -/
structure Shortest (rule : Rule) (items : List α) (hit : Hit α) : Prop where
  accepts : rule.Accepts hit.matched hit.context
  items_eq : items = hit.matched ++ hit.context ++ hit.rest
  least : ∀ m c r, rule.Accepts m c → items = m ++ c ++ r → hit.matched.length ≤ m.length

theorem quoted_iff {quote : Char} {m : List α} :
    Quoted quote m ↔ Pattern.Accepts (.run [quote] [quote] []) m [] := by
  simp only [Quoted, Pattern.Accepts, spells_cons, spells_nil]
  constructor
  · rintro ⟨a, body, b, rfl, ha, hbody, hb⟩
    exact ⟨[a], body, [b], rfl, ⟨a, [], rfl, ha, rfl⟩, hbody, ⟨b, [], rfl, hb, rfl⟩, trivial⟩
  · rintro ⟨_, body, _, rfl, ⟨a, _, rfl, ha, rfl⟩, hbody, ⟨b, _, rfl, hb, rfl⟩, -⟩
    exact ⟨a, body, b, rfl, ha, hbody, hb⟩

theorem accepts_iff {rule : Rule} {m c : List α} :
    rule.Accepts m c ↔ ∃ pattern ∈ rule.alternatives, pattern.Accepts m c := by
  constructor
  · intro h
    cases h with
    | doubleBackslash hm =>
      exact ⟨_, List.mem_singleton.mpr rfl, forall₂_exactly.mpr hm, spells_nil.mpr rfl⟩
    | escapedQuote hquote hm =>
      obtain ⟨a, _, rfl, ha, hrest⟩ := spells_cons.mp hm
      obtain ⟨b, _, rfl, hb, hnil⟩ := spells_cons.mp hrest
      obtain rfl := spells_nil.mp hnil
      exact ⟨_, List.mem_singleton.mpr rfl,
        .cons ⟨_, List.mem_singleton.mpr rfl, ha⟩ (.cons ⟨_, hquote, hb⟩ .nil), spells_nil.mpr rfl⟩
    | singleQuoted hm => exact ⟨_, List.mem_singleton.mpr rfl, quoted_iff.mp hm⟩
    | doubleQuoted hm => exact ⟨_, List.mem_singleton.mpr rfl, quoted_iff.mp hm⟩
    | @lineComment dashes body _ hdashes hbody hc =>
      exact ⟨_, List.mem_singleton.mpr rfl, dashes, body, [], by simp, hdashes, hbody,
        spells_nil.mpr rfl, hc⟩
    | operator hmem hm =>
      obtain ⟨a, _, rfl, ha, hnil⟩ := spells_cons.mp hm
      obtain rfl := spells_nil.mp hnil
      exact ⟨_, List.mem_singleton.mpr rfl, .cons ⟨_, hmem, ha⟩ .nil, spells_nil.mpr rfl⟩
    | keyword hword hm hc => exact ⟨_, List.mem_map_of_mem hword, forall₂_exactly.mpr hm, hc⟩
  · rintro ⟨pattern, hmem, h⟩
    cases rule with
    | doubleBackslash =>
      obtain rfl := List.mem_singleton.mp hmem
      obtain rfl := spells_nil.mp h.2
      exact .doubleBackslash (forall₂_exactly.mp h.1)
    | escapedQuote =>
      obtain rfl := List.mem_singleton.mp hmem
      obtain ⟨_ | ⟨⟨_, hd, ha⟩, _ | ⟨⟨quote, hquote, hb⟩, ⟨⟩⟩⟩, hc⟩ := h
      obtain rfl := List.mem_singleton.mp hd
      obtain rfl := spells_nil.mp hc
      have hlast := spells_cons.mpr ⟨_, _, rfl, hb, spells_nil.mpr rfl⟩
      exact .escapedQuote hquote (spells_cons.mpr ⟨_, _, rfl, ha, hlast⟩)
    | singleQuoted =>
      obtain rfl := List.mem_singleton.mp hmem
      obtain ⟨start, body, stop, heq, hstart, hbody, hstop, hc⟩ := h
      obtain rfl := spells_nil.mp hc
      exact .singleQuoted (quoted_iff.mpr ⟨start, body, stop, heq, hstart, hbody, hstop, hc⟩)
    | doubleQuoted =>
      obtain rfl := List.mem_singleton.mp hmem
      obtain ⟨start, body, stop, heq, hstart, hbody, hstop, hc⟩ := h
      obtain rfl := spells_nil.mp hc
      exact .doubleQuoted (quoted_iff.mpr ⟨start, body, stop, heq, hstart, hbody, hstop, hc⟩)
    | lineComment =>
      obtain rfl := List.mem_singleton.mp hmem
      obtain ⟨start, body, stop, rfl, hstart, hbody, hstop, hc⟩ := h
      obtain rfl := spells_nil.mp hstop
      rw [List.append_nil]
      exact .lineComment hstart hbody hc
    | operator =>
      obtain rfl := List.mem_singleton.mp hmem
      obtain ⟨_ | ⟨⟨o, ho, ha⟩, ⟨⟩⟩, hc⟩ := h
      obtain rfl := spells_nil.mp hc
      exact .operator ho (spells_cons.mpr ⟨_, _, rfl, ha, rfl⟩)
    | keyword =>
      obtain ⟨word, hword, rfl⟩ := List.mem_map.mp hmem
      exact .keyword hword (forall₂_exactly.mp h.1) h.2

/-- The quote that opens and closes the matches of a rule, if they stand between quotes. -/
def quote? : Rule → Option Char
  | .singleQuoted => some '\''
  | .doubleQuoted => some '"'
  | _ => none

theorem quote_mem_of_quote? {rule : Rule} (h : rule.quote? = some q) : q ∈ ['"', '\''] := by
  cases rule with
  | singleQuoted | doubleQuoted =>
    obtain rfl := Option.some.inj h
    decide
  | _ => cases h

theorem accepts_of_quote? {rule : Rule} {m c : List α} (h : rule.quote? = some q) :
    rule.Accepts m c ↔ Quoted q m ∧ c = [] := by
  cases rule with
  | singleQuoted | doubleQuoted =>
    obtain rfl := Option.some.inj h
    constructor
    · rintro ⟨⟩
      exact ⟨‹_›, rfl⟩
    · rintro ⟨hm, rfl⟩
      constructor
      exact hm
  | _ => cases h

/-- From one quote to the next of its kind there is a string, on one line. -/
theorem shortest_between_quotes {rule : Rule} (hquote : rule.quote? = some q) {first last : α}
    {body : List α} (hfirst : Glyph.char? first = some q) (hbody : OnOneLine body)
    (hnone : ∀ a ∈ body, Glyph.char? a ≠ some q) (hlast : Glyph.char? last = some q)
    (back : List α) : rule.Shortest (first :: (body ++ last :: back))
      ⟨first :: (body ++ [last]), [], back⟩ where
  accepts := (accepts_of_quote? hquote).mpr ⟨⟨first, body, last, rfl, hfirst, hbody, hlast⟩, rfl⟩
  items_eq := by simp
  least := by
    intro m c r haccepts heq
    obtain ⟨⟨_, body', last', rfl, -, -, hlast'⟩, rfl⟩ := (accepts_of_quote? hquote).mp haccepts
    have htail : body ++ ([last] ++ back) = body' ++ ([last'] ++ r) := by
      simpa using (List.cons.inj heq).2
    have hlen := length_le_of_mark List.not_mem_nil (ne_append_of_forall_ne hnone)
      (spells_cons.mpr ⟨last, [], rfl, hlast, rfl⟩) (spells_cons.mpr ⟨last', [], rfl, hlast', rfl⟩)
      htail
    simpa using hlen

/-- From two dashes to the first line end there is a comment. -/
theorem shortest_to_lineEnd {dashes body stop : List α} (hdashes : Spells dashes ['-', '-'])
    (hbody : OnOneLine body) (hstop : Spells stop "<br>".toList)
    (hnone : ∀ front mark back, Spells mark "<br>".toList → body ≠ front ++ (mark ++ back))
    (rest : List α) : Rule.lineComment.Shortest (dashes ++ (body ++ (stop ++ rest)))
      ⟨dashes ++ body, stop, rest⟩ where
  accepts := .lineComment hdashes hbody hstop
  items_eq := by simp
  least := by
    intro m c r haccepts heq
    cases haccepts with
    | @lineComment dashes' body' _ hdashes' _ hstop' =>
      have hmark : '<' ∉ "br>".toList := by decide
      have hlen : dashes.length = dashes'.length := hdashes.length_eq.trans hdashes'.length_eq.symm
      rw [List.append_assoc, List.append_assoc] at heq
      have htail := (List.append_inj heq hlen).2
      rw [List.length_append, List.length_append, hlen]
      exact Nat.add_le_add_left (length_le_of_mark hmark hnone hstop hstop' htail) _

theorem notMem_of_mem_keywords : ∀ word ∈ keywords, '<' ∉ word.toList := by
  decide

/-- Two keywords that stand in one place, each before a tag, are one. -/
theorem keyword_unique {m c r m' c' r' : List α} (hm : Spells m word) (hc : Spells c ['<'])
    (hm' : Spells m' word') (hc' : Spells c' ['<']) (hword : '<' ∉ word) (hword' : '<' ∉ word')
    (h : m ++ c ++ r = m' ++ c' ++ r') : m = m' := by
  have hnone : ∀ {m : List α} {word}, Spells m word → '<' ∉ word →
      ∀ a ∈ m, Glyph.char? a ≠ some '<' := by
    intro m word hm hword a ha heq
    have hmem := List.mem_map_of_mem (f := Glyph.char?) ha
    rw [show m.map Glyph.char? = word.map some from hm, heq] at hmem
    exact hword (by simpa using hmem)
  rw [List.append_assoc, List.append_assoc] at h
  have hle := length_le_of_mark List.not_mem_nil
    (ne_append_of_forall_ne (hnone hm hword)) hc hc' h
  have hle' := length_le_of_mark List.not_mem_nil
    (ne_append_of_forall_ne (hnone hm' hword')) hc' hc h.symm
  exact List.append_inj_left h (Nat.le_antisymm hle hle')

theorem match?_sound {rule : Rule} {items : List α} {hit : Hit α}
    (h : rule.match? items = some hit) : rule.Accepts hit.matched hit.context := by
  obtain ⟨pattern, hmem, hmatch⟩ := List.exists_of_findSome?_eq_some h
  exact accepts_iff.mpr ⟨pattern, hmem, Pattern.match?_sound hmatch⟩

theorem match?_of_alternatives_eq {rule : Rule} {items : List α}
    (h : rule.alternatives = [pattern]) : rule.match? items = pattern.match? items := by
  rw [match?, Pattern.first?, h, List.findSome?_cons]
  cases pattern.match? items <;> rfl

theorem match?_complete {rule : Rule} {m c : List α} (h : rule.Accepts m c) (r : List α) :
    ∃ hit, rule.match? (m ++ c ++ r) = some hit ∧ hit.matched.length ≤ m.length := by
  obtain ⟨pattern, hmem, haccepts⟩ := accepts_iff.mp h
  obtain ⟨found, hfound, hlen⟩ := Pattern.match?_complete haccepts r
  have hsome : (rule.match? (m ++ c ++ r)).isSome :=
    List.findSome?_isSome_iff.mpr ⟨pattern, hmem, Option.isSome_of_eq_some hfound⟩
  obtain ⟨hit, hhit⟩ := Option.isSome_iff_exists.mp hsome
  refine ⟨hit, hhit, ?_⟩
  -- only the keywords are several patterns, and of these no two match in one place
  cases rule with
  | keyword =>
    cases h with
    | keyword hword hm hc =>
      have hitems := append_of_match? hhit
      cases match?_sound hhit with
      | keyword hword' hm' hc' =>
        have hsame := keyword_unique hm hc hm' hc' (notMem_of_mem_keywords _ hword)
          (notMem_of_mem_keywords _ hword') hitems
        exact Nat.le_of_eq (congrArg List.length hsame.symm)
  | _ =>
    obtain rfl := List.mem_singleton.mp hmem
    rw [match?_of_alternatives_eq rfl] at hhit
    obtain rfl := Option.some.inj (hhit.symm.trans hfound)
    exact hlen

theorem match?_eq_none_iff {rule : Rule} {items : List α} :
    rule.match? items = none ↔ ∀ m c r, rule.Accepts m c → items ≠ m ++ c ++ r := by
  constructor
  · rintro h m c r haccepts rfl
    obtain ⟨hit, hhit, -⟩ := match?_complete haccepts r
    cases h.symm.trans hhit
  · intro h
    cases hmatch : rule.match? items with
    | none => rfl
    | some hit => exact absurd (append_of_match? hmatch) (h _ _ _ (match?_sound hmatch))

/-- The context of a match has the length that the rule gives it. -/
theorem Accepts.length_context {rule : Rule} {m c m' c' : List α} (h : rule.Accepts m c)
    (h' : rule.Accepts m' c') : c.length = c'.length := by
  cases h <;> cases h'
  case lineComment.lineComment hc _ _ _ _ hc' => rw [hc.length_eq, hc'.length_eq]
  case keyword.keyword hc _ _ _ hc' => rw [hc.length_eq, hc'.length_eq]
  all_goals rfl

theorem match?_eq_some_iff {rule : Rule} {items : List α} {hit : Hit α} :
    rule.match? items = some hit ↔ rule.Shortest items hit := by
  constructor
  · intro h
    refine ⟨match?_sound h, append_of_match? h, ?_⟩
    rintro m c r haccepts rfl
    obtain ⟨hit', hhit', hlen⟩ := match?_complete haccepts r
    obtain rfl := Option.some.inj (h.symm.trans hhit')
    exact hlen
  · intro h
    obtain ⟨hit', hhit', hlen⟩ := match?_complete h.accepts hit.rest
    rw [← h.items_eq] at hhit'
    have hitems := append_of_match? hhit'
    have hleast := h.least _ _ _ (match?_sound hhit') hitems
    have heq := h.items_eq.symm.trans hitems
    have hcontext := h.accepts.length_context (match?_sound hhit')
    obtain ⟨hfront, hrest⟩ := List.append_inj heq (by simp only [List.length_append]; omega)
    obtain ⟨hmatched, hctx⟩ := List.append_inj hfront (by omega)
    rw [hhit']
    cases hit
    cases hit'
    simp_all

/-- What no match begins with is passed over. -/
theorem segments_append_of_match?_eq_none {rule : Rule} {front : List α}
    (h : ∀ a ∈ front, ∀ rest, rule.match? (a :: rest) = none) (items : List α) :
    rule.segments (front ++ items) = front.map .plain ++ rule.segments items := by
  induction front with
  | nil => rfl
  | cons a front ih =>
    rw [List.cons_append, segments_of_match?_eq_none (h a List.mem_cons_self _),
      ih fun b hb => h b (List.mem_cons_of_mem a hb), List.map_cons, List.cons_append]

end Rule
end
end LuaMarkup
