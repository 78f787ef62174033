import LuaMarkup.Html.Style
import Mathlib

/-!
# Cutting declarations out of a style

What stands up to the first colon decides: a declaration is found at the start of a text if that
is the name of the property with blanks around it (`afterDeclaration?_eq_some_iff`). Where it is
found, all up to the next semicolon goes (`dropDeclarations_property`), and a text that it is
found nowhere in stays (`dropDeclarations_append`).
-/

namespace LuaMarkup

-- ---------------------------------------------------------------------------
-- Trimming
-- ---------------------------------------------------------------------------

namespace Text

variable {blanks text : Text} {c : Char}

theorem trimStart_blanks_append (h : blanks.all isBlank) (text : Text) :
    trimStart (blanks ++ text) = trimStart text :=
  List.dropWhile_append_of_pos (List.all_eq_true.mp h)

theorem trimEnd_append_blanks (h : blanks.all isBlank) (text : Text) :
    trimEnd (text ++ blanks) = trimEnd text := by
  have hreverse : ∀ c ∈ blanks.reverse, isBlank c := fun c hc =>
    List.all_eq_true.mp h c (List.mem_reverse.mp hc)
  rw [trimEnd, List.reverse_append, List.dropWhile_append_of_pos hreverse, trimEnd]

theorem trim_blanks_append (h : blanks.all isBlank) (text : Text) :
    trim (blanks ++ text) = trim text := by
  rw [trim, trimStart_blanks_append h, trim]

theorem trim_append_blanks (h : blanks.all isBlank) (text : Text) :
    trim (text ++ blanks) = trim text := by
  rw [trim, trim, trimStart, trimStart, List.dropWhile_append]
  split
  · rename_i hnil
    have hblanks : blanks.dropWhile isBlank = [] :=
      List.dropWhile_eq_nil_iff.mpr (List.all_eq_true.mp h)
    rw [hblanks, List.isEmpty_iff.mp hnil]
  · exact trimEnd_append_blanks h _

theorem trim_of_isBlank (h : blanks.all isBlank) : trim blanks = [] := by
  rw [← List.append_nil blanks, trim_blanks_append h]
  rfl

/-- Only blanks are trimmed. -/
theorem exists_trim_eq (text : Text) : ∃ front back, front.all isBlank ∧ back.all isBlank ∧
    text = front ++ (trim text ++ back) := by
  have hend : ∀ text : Text, ∃ back, back.all isBlank ∧ text = trimEnd text ++ back := by
    intro text
    refine ⟨(text.reverse.takeWhile isBlank).reverse, ?_, ?_⟩
    · rw [List.all_reverse]
      exact List.all_takeWhile
    · rw [trimEnd, ← List.reverse_append, List.takeWhile_append_dropWhile, List.reverse_reverse]
  obtain ⟨back, hback, heq⟩ := hend (trimStart text)
  refine ⟨text.takeWhile isBlank, back, List.all_takeWhile, hback, ?_⟩
  rw [trim, ← heq, trimStart, List.takeWhile_append_dropWhile]

theorem trim_eq_nil_iff : trim text = [] ↔ text.all isBlank := by
  refine ⟨fun h => ?_, trim_of_isBlank⟩
  obtain ⟨front, back, hfront, hback, heq⟩ := exists_trim_eq text
  rw [h, List.nil_append] at heq
  rw [heq, List.all_append, hfront, hback, Bool.and_true]

theorem trim_of_forall_not_isBlank (h : ∀ c ∈ text, ¬isBlank c) : trim text = text := by
  have hstart : ∀ {text : Text}, (∀ c ∈ text, ¬isBlank c) → text.dropWhile isBlank = text := by
    intro text h
    cases text with
    | nil => rfl
    | cons c text => exact List.dropWhile_cons_of_neg (h c List.mem_cons_self)
  rw [trim, trimStart, hstart h, trimEnd, hstart fun c hc => h c (List.mem_reverse.mp hc),
    List.reverse_reverse]

theorem dropWhile_blanks_append (h : blanks.all isBlank) (hc : ¬isBlank c) (text : Text) :
    (blanks ++ c :: text).dropWhile isBlank = c :: text := by
  rw [List.dropWhile_append_of_pos (List.all_eq_true.mp h), List.dropWhile_cons_of_neg hc]

theorem countP_trim {p : Char → Bool} (h : ∀ c, p c → ¬isBlank c) (text : Text) :
    (trim text).countP p = text.countP p := by
  have hblanks : ∀ {blanks : Text}, blanks.all isBlank → blanks.countP p = 0 := fun hblanks =>
    List.countP_eq_zero.mpr fun c hc hp => h c hp (List.all_eq_true.mp hblanks c hc)
  obtain ⟨front, back, hfront, hback, heq⟩ := exists_trim_eq text
  conv_rhs => rw [heq]
  rw [List.countP_append, List.countP_append, hblanks hfront, hblanks hback, Nat.zero_add,
    Nat.add_zero]

end Text

namespace Html.Style

variable {text rest front after p q word name tail : Text} {c : Char}

-- ---------------------------------------------------------------------------
-- The name of the property
-- ---------------------------------------------------------------------------

def property : Text := "white-space".toList

/-- What the search takes for the name of the property. -/
def IsProperty (word : Text) : Prop :=
  List.Forall₂ (fun letter c => sameLetter letter c) property word

theorem afterName?_eq_some_iff : afterName? name text = some rest ↔
    ∃ word, List.Forall₂ (fun letter c => sameLetter letter c) name word ∧ text = word ++ rest := by
  induction name generalizing text with
  | nil => simp [afterName?]
  | cons letter name ih =>
    cases text with
    | nil => simp [afterName?, List.forall₂_cons_left_iff]
    | cons c text =>
      rw [afterName?]
      split
      · rename_i hc
        rw [ih]
        constructor
        · rintro ⟨word, hword, rfl⟩
          exact ⟨c :: word, .cons hc hword, rfl⟩
        · rintro ⟨word, hword, heq⟩
          cases hword with
          | cons _ hword =>
            obtain ⟨rfl, rfl⟩ := List.cons.inj heq
            exact ⟨_, hword, rfl⟩
      · rename_i hc
        simp only [reduceCtorEq, false_iff, not_exists, not_and]
        intro word hword heq
        cases hword with
        | cons hletter _ =>
          obtain ⟨rfl, -⟩ := List.cons.inj heq
          exact hc hletter

/-- The characters of property names. -/
def isNameChar (c : Char) : Bool := c.isAlphanum || c == '-'

/-- The marks between the parts of a style. -/
def isMark (c : Char) : Bool := c == ':' || c == ';'

theorem isMark_colon : isMark ':' := rfl

theorem isMark_semicolon : isMark ';' := rfl

theorem not_isBlank_of_isMark (h : isMark c) : ¬Text.isBlank c := by
  rw [isMark, Bool.or_eq_true, beq_iff_eq, beq_iff_eq] at h
  rcases h with rfl | rfl <;> decide

theorem not_isBlank_of_isNameChar (h : isNameChar c) : ¬Text.isBlank c ∧ ¬isMark c := by
  refine ⟨fun hblank => ?_, fun hmark => ?_⟩
  · have hbounds : 48 ≤ c.toNat ∧ c.toNat ≤ 122 ∨ c = '-' := by
      simp only [isNameChar, Char.isAlphanum, Char.isAlpha, Char.isUpper, Char.isLower,
        Char.isDigit, UInt32.le_iff_toNat_le, ge_iff_le, Bool.or_eq_true, Bool.and_eq_true,
        decide_eq_true_eq, beq_iff_eq] at h
      change ((65 ≤ c.toNat ∧ c.toNat ≤ 90 ∨ 97 ≤ c.toNat ∧ c.toNat ≤ 122) ∨
        48 ≤ c.toNat ∧ c.toNat ≤ 57) ∨ c = '-' at h
      exact h.imp_left fun h => by omega
    rcases hbounds with hbounds | rfl
    · simp only [Text.isBlank, Bool.or_eq_true, Bool.and_eq_true, decide_eq_true_eq,
        beq_iff_eq] at hblank
      omega
    · exact absurd hblank (by decide)
  · rw [isMark, Bool.or_eq_true, beq_iff_eq, beq_iff_eq] at hmark
    rcases hmark with rfl | rfl <;> exact absurd h (by decide)

theorem count_colon_trim (text : Text) : (Text.trim text).count ':' = text.count ':' :=
  Text.countP_trim (fun c hc => by rw [beq_iff_eq.mp hc]; decide) text

theorem not_isUpper_of_isBlank (h : Text.isBlank c) : ¬c.isUpper := by
  intro hupper
  have hbounds : 65 ≤ c.toNat ∧ c.toNat ≤ 90 := by
    simpa [Char.isUpper, UInt32.le_iff_toNat_le] using hupper
  simp only [Text.isBlank, Bool.or_eq_true, Bool.and_eq_true, decide_eq_true_eq, beq_iff_eq] at h
  omega

theorem not_isUpper_of_isMark (h : isMark c) : ¬c.isUpper := by
  rw [isMark, Bool.or_eq_true, beq_iff_eq, beq_iff_eq] at h
  rcases h with rfl | rfl <;> decide

theorem exists_sameLetter_of_mem
    (h : List.Forall₂ (fun letter c => sameLetter letter c) name word) (hc : c ∈ word) :
    ∃ letter ∈ name, sameLetter letter c := by
  induction h with
  | nil => cases hc
  | cons hletter _ ih =>
    rcases List.mem_cons.mp hc with rfl | hc
    · exact ⟨_, List.mem_cons_self, hletter⟩
    · obtain ⟨letter, hmem, hletter⟩ := ih hc
      exact ⟨letter, List.mem_cons_of_mem _ hmem, hletter⟩

theorem IsProperty.of_mem (h : IsProperty word) (hc : c ∈ word) : ¬Text.isBlank c ∧ ¬isMark c := by
  obtain ⟨letter, hmem, hletter⟩ := exists_sameLetter_of_mem h hc
  have hletters : property.all fun letter => !Text.isBlank letter && !isMark letter := by decide
  rw [sameLetter, Bool.or_eq_true, Bool.or_eq_true, beq_iff_eq] at hletter
  rcases hletter with (hlower | hlong) | hdots
  · have hself : ¬c.isUpper → ¬Text.isBlank c ∧ ¬isMark c := by
      intro hupper
      rw [Char.toLower_eq_of_not_isUpper hupper] at hlower
      subst hlower
      simpa using List.all_eq_true.mp hletters c hmem
    exact ⟨fun hblank => (hself (not_isUpper_of_isBlank hblank)).1 hblank,
      fun hmark => (hself (not_isUpper_of_isMark hmark)).2 hmark⟩
  · obtain ⟨-, rfl⟩ : letter = 's' ∧ c = 'ſ' := by simpa using hlong
    decide
  · obtain ⟨-, rfl | rfl⟩ : letter = 'i' ∧ (c = 'İ' ∨ c = 'ı') := by simpa using hdots
    · decide
    · decide

theorem IsProperty.length_eq (h : IsProperty word) : word.length = property.length :=
  (List.Forall₂.length_eq h).symm

theorem sameLetter_iff {letter : Char} (h : isNameChar c) :
    sameLetter letter c ↔ c.toLower = letter := by
  have hother : c ≠ 'ſ' ∧ c ≠ 'İ' ∧ c ≠ 'ı' := by
    refine ⟨?_, ?_, ?_⟩ <;> rintro rfl <;> exact absurd h (by decide)
  simp [sameLetter, hother]

/-- Among the characters that names have, letters agree up to ASCII case and no further. -/
theorem isProperty_iff (h : word.all isNameChar) :
    IsProperty word ↔ Text.lowerAscii word = property := by
  have hnames : ∀ name, List.Forall₂ (fun letter c => sameLetter letter c) name word ↔
      Text.lowerAscii word = name := by
    induction word with
    | nil => intro name; cases name <;> simp [Text.lowerAscii]
    | cons c word ih =>
      obtain ⟨hc, hword⟩ := Bool.and_eq_true_iff.mp h
      intro name
      cases name with
      | nil => simp [Text.lowerAscii]
      | cons letter name =>
        rw [List.forall₂_cons, ih hword, sameLetter_iff hc]
        simp only [Text.lowerAscii, List.map_cons, List.cons.injEq]
  exact hnames property

-- ---------------------------------------------------------------------------
-- The start of a declaration
-- ---------------------------------------------------------------------------

def NoMark (text : Text) : Prop := ∀ c ∈ text, ¬isMark c

instance : DecidablePred NoMark := fun text =>
  decidable_of_iff (text.all (!isMark ·)) (by simp [NoMark])

theorem noMark_of_isBlank (h : text.all Text.isBlank) : NoMark text := fun c hc hmark =>
  not_isBlank_of_isMark hmark (List.all_eq_true.mp h c hc)

theorem NoMark.of_suffix (h : NoMark text) (hp : p <:+ text) : NoMark p := fun c hc =>
  h c (hp.mem hc)

theorem NoMark.count_colon (h : NoMark text) : text.count ':' = 0 :=
  List.count_eq_zero.mpr fun hc => h ':' hc isMark_colon

/-- Texts with a mark behind them that is their first are equal if they go on alike. -/
theorem NoMark.append_cons_inj {d : Char} (hp : NoMark p) (hq : NoMark q) (hc : isMark c)
    (hd : isMark d) (h : p ++ c :: rest = q ++ d :: after) : p = q ∧ c = d ∧ rest = after := by
  have htake : ∀ {p : Text} {c : Char}, NoMark p → isMark c → ∀ rest,
      (p ++ c :: rest).takeWhile (!isMark ·) = p := by
    intro p c hp hc rest
    rw [List.takeWhile_append_of_pos fun c hc => by simpa using hp c hc,
      List.takeWhile_cons_of_neg (by simpa using hc), List.append_nil]
  obtain rfl : p = q := by rw [← htake hp hc rest, h, htake hq hd after]
  exact ⟨rfl, List.cons.inj (List.append_cancel_left h)⟩

theorem IsProperty.noMark (h : IsProperty (Text.trim front)) : NoMark front := by
  intro c hc hmark
  have hpos : 0 < (Text.trim front).countP isMark := by
    rw [Text.countP_trim (fun _ => not_isBlank_of_isMark)]
    exact List.countP_pos_iff.mpr ⟨c, hc, hmark⟩
  obtain ⟨d, hd, hmark⟩ := List.countP_pos_iff.mp hpos
  exact (h.of_mem hd).2 hmark

theorem IsProperty.trim_eq {before gap : Text} (h : IsProperty word)
    (hbefore : before.all Text.isBlank) (hgap : gap.all Text.isBlank) :
    Text.trim (before ++ (word ++ gap)) = word := by
  rw [Text.trim_blanks_append hbefore, Text.trim_append_blanks hgap,
    Text.trim_of_forall_not_isBlank fun c hc => (h.of_mem hc).1]

theorem IsProperty.countP_eq (h : IsProperty (Text.trim front)) :
    front.countP (!Text.isBlank ·) = property.length := by
  rw [← Text.countP_trim (by simp), ← h.length_eq, List.countP_eq_length]
  exact fun c hc => by simpa using (h.of_mem hc).1

theorem IsProperty.not_isProperty_append_cons {gap : Text} (h : IsProperty word)
    (hgap : gap.all Text.isBlank) (hc : ¬Text.isBlank c) (front : Text) :
    ¬IsProperty (Text.trim (front ++ c :: (word ++ gap))) := by
  intro hlonger
  have htrim : Text.trim ([] ++ (word ++ gap)) = word := h.trim_eq rfl hgap
  have hword : (word ++ gap).countP (!Text.isBlank ·) = property.length :=
    IsProperty.countP_eq (htrim.symm ▸ h)
  have hcount := hlonger.countP_eq
  rw [List.countP_append, List.countP_cons_of_pos (by simpa using hc), hword] at hcount
  omega

/-- A declaration of the property starts a text if there is nothing but the name of the property,
with blanks around it, up to the first colon. It ends behind the next semicolon. -/
theorem afterDeclaration?_eq_some_iff : afterDeclaration? text = some after ↔
    ∃ front value, IsProperty (Text.trim front) ∧ text = front ++ ':' :: value ∧
      after = (value.dropWhile (· ≠ ';')).drop 1 := by
  simp only [afterDeclaration?, Option.bind_eq_bind, Option.bind_eq_some_iff,
    afterName?_eq_some_iff]
  constructor
  · rintro ⟨rest, ⟨word, hword, hdrop⟩, h⟩
    split at h
    · cases h
    · rename_i c value hcolon
      split at h
      · rename_i hc
        subst hc
        refine ⟨text.takeWhile Text.isBlank ++ (word ++ rest.takeWhile Text.isBlank), value, ?_, ?_,
          (Option.some.inj h).symm⟩
        · rwa [IsProperty.trim_eq hword List.all_takeWhile List.all_takeWhile]
        · rw [List.append_assoc, List.append_assoc, ← hcolon, List.takeWhile_append_dropWhile,
            ← hdrop, List.takeWhile_append_dropWhile]
      · cases h
  · rintro ⟨front, value, hfront, rfl, rfl⟩
    obtain ⟨before, gap, hbefore, hgap, heq⟩ := Text.exists_trim_eq front
    have hcolon : ¬Text.isBlank ':' := by decide
    refine ⟨gap ++ ':' :: value, ⟨Text.trim front, hfront, ?_⟩, ?_⟩
    · obtain ⟨c, word, hword⟩ : ∃ c word, Text.trim front = c :: word :=
        List.exists_cons_of_length_pos (by rw [hfront.length_eq]; decide)
      have hc := (hfront.of_mem (hword ▸ List.mem_cons_self)).1
      conv_lhs => rw [heq, hword]
      simp only [List.append_assoc, List.cons_append, hword]
      exact Text.dropWhile_blanks_append hbefore hc _
    · rw [Text.dropWhile_blanks_append hgap hcolon]
      rfl

/-- What may stand behind a declaration. -/
inductive Tail : Text → Prop
  | nil : Tail []
  | semicolon (rest : Text) : Tail (';' :: rest)

theorem afterDeclaration?_eq_none_of_tail (hp : NoMark p) (htail : Tail tail) :
    afterDeclaration? (p ++ tail) = none := by
  refine Option.eq_none_iff_forall_ne_some.mpr fun after h => ?_
  obtain ⟨front, value, hfront, heq, -⟩ := afterDeclaration?_eq_some_iff.mp h
  cases htail with
  | nil =>
    rw [List.append_nil] at heq
    exact hp ':' (by simp [heq]) isMark_colon
  | semicolon rest =>
    obtain ⟨-, hmark, -⟩ := hp.append_cons_inj hfront.noMark isMark_semicolon isMark_colon heq
    exact absurd hmark (by decide)

theorem afterDeclaration?_eq_none_of_not_isProperty (hp : NoMark p)
    (hproperty : ¬IsProperty (Text.trim p)) (q : Text) :
    afterDeclaration? (p ++ ':' :: q) = none := by
  refine Option.eq_none_iff_forall_ne_some.mpr fun after h => ?_
  obtain ⟨front, value, hfront, heq, -⟩ := afterDeclaration?_eq_some_iff.mp h
  obtain ⟨rfl, -⟩ := hp.append_cons_inj hfront.noMark isMark_colon isMark_colon heq
  exact hproperty hfront

-- ---------------------------------------------------------------------------
-- Cutting declarations out
-- ---------------------------------------------------------------------------

theorem dropDeclarations_nil : dropDeclarations [] = [] := by
  rw [dropDeclarations.eq_def]

theorem dropDeclarations_of_afterDeclaration? (h : afterDeclaration? text = some after) :
    dropDeclarations text = dropDeclarations after := by
  fun_cases dropDeclarations text with
  | case1 => cases h
  | case2 c rest after' h' =>
    obtain rfl := Option.some.inj (h.symm.trans h')
    rfl
  | case3 c rest h' => cases h.symm.trans h'

theorem dropDeclarations_cons (h : afterDeclaration? (c :: rest) = none) :
    dropDeclarations (c :: rest) = c :: dropDeclarations rest := by
  rw [dropDeclarations.eq_def]
  dsimp only
  split
  · rename_i hsome
    cases h.symm.trans hsome
  · rfl

/-- What no declaration begins in stays. -/
theorem dropDeclarations_append
    (h : ∀ back, back <:+ front → back ≠ [] → afterDeclaration? (back ++ rest) = none) :
    dropDeclarations (front ++ rest) = front ++ dropDeclarations rest := by
  induction front with
  | nil => rfl
  | cons c front ih =>
    have hnone := h (c :: front) (List.suffix_refl _) (List.cons_ne_nil c front)
    have hfront := ih fun back hback => h back (hback.trans (List.suffix_cons c front))
    rw [List.cons_append] at hnone ⊢
    rw [dropDeclarations_cons hnone, hfront, List.cons_append]

theorem dropDeclarations_property {before gap value : Text} (hword : IsProperty word)
    (hbefore : before.all Text.isBlank) (hgap : gap.all Text.isBlank) (hvalue : NoMark value)
    (htail : Tail tail) :
    dropDeclarations (before ++ (word ++ gap) ++ ':' :: (value ++ tail)) =
      dropDeclarations (tail.drop 1) := by
  refine dropDeclarations_of_afterDeclaration? (afterDeclaration?_eq_some_iff.mpr
    ⟨before ++ (word ++ gap), value ++ tail, ?_, rfl, ?_⟩)
  · rwa [hword.trim_eq hbefore hgap]
  · have hne : ∀ c ∈ value, decide (c ≠ ';') = true := fun c hc =>
      decide_eq_true fun heq => hvalue c hc (heq ▸ isMark_semicolon)
    rw [List.dropWhile_append_of_pos hne]
    cases htail with
    | nil => rfl
    | semicolon rest => rfl

end Html.Style
end LuaMarkup
