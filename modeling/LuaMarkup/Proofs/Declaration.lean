import LuaMarkup.Proofs.Style

/-!
# Styles that list declarations

A declaration stays if its name does not end in that of the property
(`Declaration.dropDeclarations_write_append`), and is cut out behind the front of its name if it
does (`Declaration.exists_dropDeclarations_eq`). Each declaration has one colon, so the colons that
are left count those that stay. `dropWhiteSpace_removes_declarations`: just the declarations of the
property go, if and only if no longer name ends in its name.
-/

namespace LuaMarkup.Html.Style

variable {text p q tail : Text} {c : Char}

theorem suffix_append_iff {α : Type} {l a b : List α} :
    l <:+ a ++ b ↔ l <:+ b ∨ ∃ t, t <:+ a ∧ l = t ++ b := by
  constructor
  · rintro ⟨u, h⟩
    rcases List.append_eq_append_iff.mp h with ⟨t, rfl, rfl⟩ | ⟨t, rfl, rfl⟩
    · exact .inr ⟨t, List.suffix_append u t, rfl⟩
    · exact .inl (List.suffix_append t l)
  · rintro (h | ⟨t, ht, rfl⟩)
    · exact List.suffix_append_of_suffix h
    · exact List.suffix_append_self_iff.mpr ht

-- ---------------------------------------------------------------------------
-- Declarations
-- ---------------------------------------------------------------------------

/-- A declaration, with blanks around its name. The blanks around its value are taken as part of
the value. -/
structure Declaration where
  before : Text := []
  name : Text
  gap : Text := []
  value : Text
  before_blank : before.all Text.isBlank := by decide
  name_ne_nil : name ≠ [] := by decide
  name_chars : name.all isNameChar := by decide
  gap_blank : gap.all Text.isBlank := by decide
  value_noMark : NoMark value := by decide

namespace Declaration

variable {d : Declaration}

/-- What stands before the colon. -/
def head (d : Declaration) : Text := d.before ++ (d.name ++ d.gap)

def write (d : Declaration) : Text := d.head ++ ':' :: d.value

/-- The declaration without the blanks around it. -/
def trimmed (d : Declaration) : Text := Text.trim d.write

def isWhiteSpace (d : Declaration) : Bool := Text.lowerAscii d.name == property

/-- Whether the name ends in that of the property, as a custom or a prefixed name can. -/
def endsInWhiteSpace (d : Declaration) : Bool := property.isSuffixOf (Text.lowerAscii d.name)

theorem endsInWhiteSpace_of_isWhiteSpace (h : d.isWhiteSpace) : d.endsInWhiteSpace := by
  rw [endsInWhiteSpace, beq_iff_eq.mp h]
  decide

theorem not_isBlank_of_mem_name (hc : c ∈ d.name) : ¬Text.isBlank c ∧ ¬isMark c :=
  not_isBlank_of_isNameChar (List.all_eq_true.mp d.name_chars c hc)

theorem noMark_head (d : Declaration) : NoMark d.head := by
  intro c hc
  rcases List.mem_append.mp hc with hc | hc
  · exact noMark_of_isBlank d.before_blank c hc
  · rcases List.mem_append.mp hc with hc | hc
    · exact (not_isBlank_of_mem_name hc).2
    · exact noMark_of_isBlank d.gap_blank c hc

/-- What stands right before the colon is trimmed to an ending of the name. -/
theorem trim_suffix_name (h : p <:+ d.head) : Text.trim p <:+ d.name := by
  have hname : ∀ {t : Text}, t <:+ d.name → Text.trim t = t := fun ht =>
    Text.trim_of_forall_not_isBlank fun c hc => (not_isBlank_of_mem_name (ht.mem hc)).1
  have hblanks : ∀ {blanks t : Text}, blanks.all Text.isBlank → t <:+ blanks →
      t.all Text.isBlank := fun h ht =>
    List.all_eq_true.mpr fun c hc => List.all_eq_true.mp h c (ht.mem hc)
  rcases suffix_append_iff.mp h with h | ⟨t, ht, rfl⟩
  · rcases suffix_append_iff.mp h with h | ⟨t, ht, rfl⟩
    · rw [Text.trim_of_isBlank (hblanks d.gap_blank h)]
      exact List.nil_suffix
    · rwa [Text.trim_append_blanks d.gap_blank, hname ht]
  · rw [Text.trim_blanks_append (hblanks d.before_blank ht), Text.trim_append_blanks d.gap_blank,
      hname (List.suffix_refl _)]

theorem not_isProperty_of_suffix (h : ¬d.endsInWhiteSpace) (hp : p <:+ d.head) :
    ¬IsProperty (Text.trim p) := by
  intro hproperty
  obtain ⟨front, hfront⟩ := trim_suffix_name hp
  have hchars := d.name_chars
  rw [← hfront, List.all_append, Bool.and_eq_true] at hchars
  rw [isProperty_iff hchars.2] at hproperty
  refine h (List.isSuffixOf_iff_suffix.mpr ⟨Text.lowerAscii front, ?_⟩)
  rw [← hproperty, ← hfront, Text.lowerAscii, Text.lowerAscii, Text.lowerAscii, List.map_append]

/-- A declaration of another property stays. -/
theorem dropDeclarations_write_append (h : ¬d.endsInWhiteSpace) (htail : Tail tail) :
    dropDeclarations (d.write ++ tail) = d.write ++ dropDeclarations tail := by
  refine dropDeclarations_append fun back hback _ => ?_
  have hcolon : ∀ t, t <:+ d.head → afterDeclaration? (t ++ ':' :: d.value ++ tail) = none := by
    intro t ht
    rw [List.append_assoc]
    exact afterDeclaration?_eq_none_of_not_isProperty
      (d.noMark_head.of_suffix ht) (not_isProperty_of_suffix h ht) _
  rcases suffix_append_iff.mp hback with hback | ⟨t, ht, rfl⟩
  · rcases List.suffix_cons_iff.mp hback with rfl | hback
    · exact hcolon [] List.nil_suffix
    · exact afterDeclaration?_eq_none_of_tail (d.value_noMark.of_suffix hback) htail
  · exact hcolon t ht

theorem exists_name_eq (h : d.endsInWhiteSpace) : ∃ front word, d.name = front ++ word ∧
    IsProperty word ∧ (d.isWhiteSpace ↔ front = []) := by
  obtain ⟨_, hname⟩ := List.isSuffixOf_iff_suffix.mp h
  obtain ⟨front, word, hname, -, hword⟩ := List.map_eq_append_iff.mp hname.symm
  have hchars := d.name_chars
  rw [hname, List.all_append, Bool.and_eq_true] at hchars
  have hproperty : IsProperty word := (isProperty_iff hchars.2).mpr hword
  refine ⟨front, word, hname, hproperty, fun hd => ?_, fun hfront => ?_⟩
  · have hlength := congrArg List.length (beq_iff_eq.mp hd)
    rw [Text.lowerAscii, List.length_map, hname, List.length_append, hproperty.length_eq]
      at hlength
    exact List.eq_nil_of_length_eq_zero (by omega)
  · rw [isWhiteSpace, hname, hfront, List.nil_append, beq_iff_eq]
    exact hword

/-- Of a declaration with such a name only what stands before the name of the property stays,
and the semicolon behind it goes. -/
theorem exists_dropDeclarations_eq (h : d.endsInWhiteSpace) (htail : Tail tail) :
    ∃ front, NoMark front ∧
      (if d.isWhiteSpace then front = [] else ¬front.all Text.isBlank) ∧
      dropDeclarations (d.write ++ tail) = front ++ dropDeclarations (tail.drop 1) := by
  obtain ⟨first, word, hname, hproperty, hfirst⟩ := exists_name_eq h
  rcases List.eq_nil_or_concat' first with rfl | ⟨first, last, rfl⟩
  · refine ⟨[], nofun, by rw [if_pos (hfirst.mpr rfl)], ?_⟩
    rw [write, head, hname, List.nil_append, List.append_assoc, List.cons_append,
      dropDeclarations_property hproperty d.before_blank d.gap_blank d.value_noMark htail,
      List.nil_append]
  · have hd : ¬d.isWhiteSpace := hfirst.not.mpr (List.concat_ne_nil last first)
    have hlast : ¬Text.isBlank last := (not_isBlank_of_mem_name (d := d) (by simp [hname])).1
    have hhead : d.head = d.before ++ first ++ last :: (word ++ d.gap) := by
      rw [head, hname]
      simp only [List.append_assoc, List.cons_append, List.nil_append]
    have hfront : d.write ++ tail =
        d.before ++ first ++ [last] ++ ([] ++ (word ++ d.gap) ++ ':' :: (d.value ++ tail)) := by
      rw [write, hhead]
      simp only [List.append_assoc, List.nil_append, List.cons_append]
    refine ⟨d.before ++ first ++ [last], fun c hc => d.noMark_head c ?_, ?_, ?_⟩
    · rw [hhead, List.append_cons]
      exact List.mem_append_left _ hc
    · rw [if_neg hd, List.all_append, Bool.and_eq_true]
      exact fun hblank => hlast (by simpa using hblank.2)
    · rw [hfront, dropDeclarations_append,
        dropDeclarations_property hproperty rfl d.gap_blank d.value_noMark htail]
      -- at each earlier place the name is too long
      intro back hback hne
      obtain ⟨t, rfl, ht⟩ := (List.suffix_concat_iff.mp hback).resolve_left hne
      have hback : t ++ last :: (word ++ d.gap) <:+ d.head := by
        rw [hhead]
        exact List.suffix_append_self_iff.mpr ht
      have hnone := afterDeclaration?_eq_none_of_not_isProperty
        (d.noMark_head.of_suffix hback)
        (hproperty.not_isProperty_append_cons d.gap_blank hlast t) (d.value ++ tail)
      simpa using hnone

theorem count_colon_write (d : Declaration) : d.write.count ':' = 1 := by
  rw [write, List.count_append, List.count_cons_self, d.noMark_head.count_colon,
    d.value_noMark.count_colon]

theorem notMem_write (d : Declaration) : ';' ∉ d.write := by
  intro h
  rcases List.mem_append.mp h with h | h
  · exact d.noMark_head ';' h isMark_semicolon
  · rcases List.mem_cons.mp h with h | h
    · exact absurd h (by decide)
    · exact d.value_noMark ';' h isMark_semicolon

theorem not_isBlank_write (d : Declaration) : ¬d.write.all Text.isBlank := by
  rw [write, List.all_append, List.all_cons]
  have hcolon : Text.isBlank ':' = false := by decide
  simp [hcolon]

end Declaration

-- ---------------------------------------------------------------------------
-- Lists of declarations
-- ---------------------------------------------------------------------------

/-- The parts of a style between its semicolons, without the blanks around them and without the
empty ones. -/
def declarations (style : Text) : List Text :=
  ((style.splitOn ';').map Text.trim).filter (!·.isEmpty)

theorem declarations_append_cons (p q : Text) :
    declarations (p ++ ';' :: q) = declarations p ++ declarations q := by
  rw [declarations, List.splitOn_append_cons_self, List.map_append, List.filter_append,
    declarations, declarations]

theorem declarations_of_notMem (h : ';' ∉ p) :
    declarations p = [Text.trim p].filter (!·.isEmpty) := by
  rw [declarations, List.splitOn_eq_singleton h, List.map_singleton]

/-- Induction on the parts between the semicolons. -/
theorem semicolon_induction {motive : Text → Prop} (last : ∀ p, ';' ∉ p → motive p)
    (cons : ∀ p q, ';' ∉ p → motive q → motive (p ++ ';' :: q)) (text : Text) : motive text := by
  induction hn : text.length using Nat.strong_induction_on generalizing text with
  | _ n ih =>
    by_cases h : ';' ∈ text
    · obtain ⟨p, q, rfl, hp⟩ := List.eq_append_cons_of_mem h
      refine cons p q hp (ih q.length ?_ q rfl)
      rw [← hn, List.length_append, List.length_cons]
      omega
    · exact last text h

theorem declarations_of_isBlank (h : text.all Text.isBlank) : declarations text = [] := by
  have hsemicolon : ';' ∉ text := fun hc => noMark_of_isBlank h ';' hc isMark_semicolon
  rw [declarations_of_notMem hsemicolon, Text.trim_of_isBlank h]
  rfl

theorem declarations_blanks_append {blanks : Text} (h : blanks.all Text.isBlank) (text : Text) :
    declarations (blanks ++ text) = declarations text := by
  have hsemicolon : ';' ∉ blanks := fun hc => noMark_of_isBlank h ';' hc isMark_semicolon
  have hlast : ∀ p, ';' ∉ p → declarations (blanks ++ p) = declarations p := by
    intro p hp
    rw [declarations_of_notMem (by simp [hsemicolon, hp]), declarations_of_notMem hp,
      Text.trim_blanks_append h]
  induction text using semicolon_induction with
  | last p hp => exact hlast p hp
  | cons p q hp _ =>
    rw [← List.append_assoc, declarations_append_cons, declarations_append_cons, hlast p hp]

theorem declarations_append_blanks {blanks : Text} (h : blanks.all Text.isBlank) (text : Text) :
    declarations (text ++ blanks) = declarations text := by
  have hsemicolon : ';' ∉ blanks := fun hc => noMark_of_isBlank h ';' hc isMark_semicolon
  induction text using semicolon_induction with
  | last p hp =>
    rw [declarations_of_notMem (by simp [hsemicolon, hp]), declarations_of_notMem hp,
      Text.trim_append_blanks h]
  | cons p q _ ih =>
    rw [List.append_assoc, List.cons_append, declarations_append_cons, declarations_append_cons,
      ih]

theorem declarations_trim (text : Text) : declarations (Text.trim text) = declarations text := by
  obtain ⟨front, back, hfront, hback, heq⟩ := Text.exists_trim_eq text
  conv_rhs => rw [heq]
  rw [declarations_blanks_append hfront, declarations_append_blanks hback]

/-- Only blanks and semicolons are lost. -/
theorem count_colon_declarations (text : Text) :
    (declarations text).flatten.count ':' = text.count ':' := by
  have hlast : ∀ p, ';' ∉ p → (declarations p).flatten.count ':' = p.count ':' := by
    intro p hp
    rw [declarations_of_notMem hp, ← count_colon_trim p]
    cases hempty : (Text.trim p).isEmpty with
    | false => simp [hempty]
    | true => simp [List.isEmpty_iff.mp hempty]
  induction text using semicolon_induction with
  | last p hp => exact hlast p hp
  | cons p q hp ih =>
    rw [declarations_append_cons, List.flatten_append, List.count_append, List.count_append,
      hlast p hp, ih, List.count_cons_of_ne (by decide)]

/-- A style that lists declarations, with a semicolon behind each but the last, where it may
stand as well. -/
inductive Lists : Text → List Declaration → Prop
  | blank {text : Text} (h : text.all Text.isBlank) : Lists text []
  | cons (d : Declaration) {ds : List Declaration} {tail : Text} (htail : Tail tail)
    (hrest : Lists (tail.drop 1) ds) : Lists (d.write ++ tail) (d :: ds)

theorem Tail.count_colon (htail : Tail tail) : tail.count ':' = (tail.drop 1).count ':' := by
  cases htail with
  | nil => rfl
  | semicolon rest => exact List.count_cons_of_ne (by decide)

/-- What may stand behind a declaration still may after the cuts. -/
theorem Tail.dropDeclarations (htail : Tail tail) : Tail (dropDeclarations tail) ∧
    (dropDeclarations tail).drop 1 = Style.dropDeclarations (tail.drop 1) := by
  cases htail with
  | nil =>
    rw [dropDeclarations_nil]
    exact ⟨.nil, dropDeclarations_nil.symm⟩
  | semicolon rest =>
    have hnone := afterDeclaration?_eq_none_of_tail (p := []) nofun (.semicolon rest)
    rw [dropDeclarations_cons hnone]
    exact ⟨.semicolon _, rfl⟩

theorem dropDeclarations_of_isBlank (h : text.all Text.isBlank) : dropDeclarations text = text := by
  have hkeeps : dropDeclarations (text ++ []) = text ++ dropDeclarations [] :=
    dropDeclarations_append fun back hback _ =>
      afterDeclaration?_eq_none_of_tail ((noMark_of_isBlank h).of_suffix hback) .nil
  rwa [dropDeclarations_nil, List.append_nil] at hkeeps

theorem declarations_write_append (d : Declaration) (htail : Tail tail) :
    declarations (d.write ++ tail) = d.trimmed :: declarations (tail.drop 1) := by
  have hwrite : declarations d.write = [d.trimmed] := by
    have hne : d.trimmed ≠ [] := fun h => d.not_isBlank_write (Text.trim_eq_nil_iff.mp h)
    rw [declarations_of_notMem d.notMem_write, ← Declaration.trimmed,
      List.filter_cons_of_pos (by simpa using hne), List.filter_nil]
  cases htail with
  | nil => rw [List.append_nil, hwrite, List.drop_nil, declarations_of_isBlank rfl]
  | semicolon rest => rw [declarations_append_cons, hwrite, List.singleton_append, List.drop_one,
      List.tail_cons]

namespace Lists

variable {ds : List Declaration}

theorem declarations_eq (h : Lists text ds) : declarations text = ds.map Declaration.trimmed := by
  induction h with
  | blank h => exact declarations_of_isBlank h
  | cons d htail _ ih => rw [declarations_write_append d htail, ih, List.map_cons]

theorem count_colon_dropDeclarations (h : Lists text ds) :
    (dropDeclarations text).count ':' = ds.countP (!·.endsInWhiteSpace) := by
  induction h with
  | blank h =>
    rw [dropDeclarations_of_isBlank h]
    exact (noMark_of_isBlank h).count_colon
  | cons d htail _ ih =>
    cases hd : d.endsInWhiteSpace with
    | false =>
      rw [Declaration.dropDeclarations_write_append (by simp [hd]) htail, List.count_append,
        d.count_colon_write, htail.dropDeclarations.1.count_colon, htail.dropDeclarations.2, ih,
        List.countP_cons_of_pos (by simp [hd]), Nat.add_comm]
    | true =>
      obtain ⟨front, hfront, -, heq⟩ := Declaration.exists_dropDeclarations_eq hd htail
      rw [heq, List.count_append, hfront.count_colon, ih, List.countP_cons_of_neg (by simp [hd]),
        Nat.zero_add]

/-- Nothing but blanks is left if and only if every declaration goes. -/
theorem isBlank_dropDeclarations_iff (h : Lists text ds) :
    (dropDeclarations text).all Text.isBlank ↔ ∀ d ∈ ds, d.isWhiteSpace := by
  induction h with
  | blank h => simpa [dropDeclarations_of_isBlank h] using h
  | cons d htail _ ih =>
    rw [List.forall_mem_cons, ← ih]
    cases hd : d.endsInWhiteSpace with
    | false =>
      have hname : ¬d.isWhiteSpace := fun h => by
        rw [Declaration.endsInWhiteSpace_of_isWhiteSpace h] at hd
        cases hd
      rw [Declaration.dropDeclarations_write_append (by simp [hd]) htail, List.all_append,
        Bool.and_eq_true]
      exact iff_of_false (fun h => d.not_isBlank_write h.1) (fun h => hname h.1)
    | true =>
      obtain ⟨front, -, hfront, heq⟩ := Declaration.exists_dropDeclarations_eq hd htail
      rw [heq, List.all_append, Bool.and_eq_true]
      cases hname : d.isWhiteSpace with
      | false =>
        rw [hname, if_neg Bool.false_ne_true] at hfront
        exact iff_of_false (fun h => hfront h.1) (fun h => Bool.false_ne_true h.1)
      | true =>
        rw [hname, if_pos rfl] at hfront
        rw [hfront, List.all_nil]

theorem declarations_dropDeclarations (h : Lists text ds)
    (hnames : ∀ d ∈ ds, d.endsInWhiteSpace → d.isWhiteSpace) :
    declarations (dropDeclarations text) =
      (ds.filter (!·.isWhiteSpace)).map Declaration.trimmed := by
  induction h with
  | blank h =>
    rw [dropDeclarations_of_isBlank h, declarations_of_isBlank h]
    rfl
  | cons d htail _ ih =>
    obtain ⟨hname, hnames⟩ := List.forall_mem_cons.mp hnames
    cases hd : d.isWhiteSpace with
    | false =>
      have hends : ¬d.endsInWhiteSpace := fun hends =>
        Bool.false_ne_true (hd.symm.trans (hname hends))
      rw [Declaration.dropDeclarations_write_append hends htail,
        declarations_write_append d htail.dropDeclarations.1, htail.dropDeclarations.2, ih hnames,
        List.filter_cons_of_pos (by simp [hd]), List.map_cons]
    | true =>
      obtain ⟨front, -, hfront, heq⟩ := Declaration.exists_dropDeclarations_eq
        (Declaration.endsInWhiteSpace_of_isWhiteSpace hd) htail
      rw [if_pos hd] at hfront
      rw [heq, hfront, List.nil_append, ih hnames, List.filter_cons_of_neg (by simp [hd])]

/-- The declarations of the property go and the others stay, if and only if no longer name ends
in that of the property. -/
theorem declarations_dropDeclarations_iff (h : Lists text ds) :
    declarations (dropDeclarations text) =
        (ds.filter (!·.isWhiteSpace)).map Declaration.trimmed ↔
      ∀ d ∈ ds, d.endsInWhiteSpace → d.isWhiteSpace := by
  refine ⟨fun heq => ?_, h.declarations_dropDeclarations⟩
  have hcolons : ∀ ds : List Declaration,
      (ds.map Declaration.trimmed).flatten.count ':' = ds.length := by
    intro ds
    simp [List.count_flatten, Function.comp_def, Declaration.trimmed, count_colon_trim,
      Declaration.count_colon_write]
  have hlength : (ds.filter (!·.endsInWhiteSpace)).length =
      (ds.filter (!·.isWhiteSpace)).length := by
    rw [← hcolons (ds.filter (!·.isWhiteSpace)), ← heq, count_colon_declarations,
      h.count_colon_dropDeclarations, List.countP_eq_length_filter]
  -- every declaration whose name ends otherwise is of another property
  have hfilter : (ds.filter (!·.isWhiteSpace)).filter (!·.endsInWhiteSpace) =
      ds.filter (!·.endsInWhiteSpace) := by
    rw [List.filter_filter]
    refine List.filter_congr fun d _ => ?_
    cases hd : d.isWhiteSpace with
    | false => simp
    | true => simp [Declaration.endsInWhiteSpace_of_isWhiteSpace hd]
  rw [← hfilter, List.length_filter_eq_length_iff] at hlength
  intro d hd hends
  by_contra hname
  have hkept := hlength d (List.mem_filter.mpr ⟨hd, by simpa using hname⟩)
  simp [hends] at hkept

end Lists

-- ---------------------------------------------------------------------------
-- Attributes
-- ---------------------------------------------------------------------------

section Attributes

variable {attributes : List Attribute} {key : String} {value style : Text}

theorem exists_mem_of_get? (h : Attribute.get? key attributes = some value) :
    ∃ a ∈ attributes, a.name = key := by
  obtain ⟨a, ha, -⟩ := Option.bind_eq_some_iff.mp h
  exact ⟨a, List.mem_of_find?_eq_some ha, by simpa using List.find?_some ha⟩

theorem get?_set (h : ∃ a ∈ attributes, a.name = key) (value : Text) :
    Attribute.get? key (Attribute.set key value attributes) = some value := by
  simp only [Attribute.get?, Attribute.set]
  induction attributes with
  | nil => simp at h
  | cons a attributes ih =>
    by_cases ha : a.name = key
    · simp [ha]
    · rw [List.map_cons, if_neg ha, List.find?_cons_of_neg (by simpa using ha)]
      exact ih (by simpa [ha] using h)

theorem get?_erase (key : String) (attributes : List Attribute) :
    Attribute.get? key (Attribute.erase key attributes) = none := by
  have hnone : (Attribute.erase key attributes).find? (·.name == key) = none :=
    List.find?_eq_none.mpr fun a ha => by simpa using (List.mem_filter.mp ha).2
  rw [Attribute.get?, hnone, Option.bind_none]

theorem filter_set (key : String) (value : Text) (attributes : List Attribute) :
    (Attribute.set key value attributes).filter (·.name != key) =
      attributes.filter (·.name != key) := by
  rw [Attribute.set]
  induction attributes with
  | nil => rfl
  | cons a attributes ih =>
    rw [List.map_cons, List.filter_cons, List.filter_cons, ih]
    by_cases ha : a.name = key <;> simp [ha]

theorem filter_erase (key : String) (attributes : List Attribute) :
    (Attribute.erase key attributes).filter (·.name != key) =
      attributes.filter (·.name != key) := by
  rw [Attribute.erase, List.filter_filter]
  simp only [Bool.and_self]

end Attributes

theorem dropWhiteSpace_eq {attributes : List Attribute} {style : Text}
    (h : Attribute.get? "style" attributes = some style) :
    dropWhiteSpace attributes =
      if (dropDeclarations style).all Text.isBlank then Attribute.erase "style" attributes
      else Attribute.set "style" (Text.trim (dropDeclarations style)) attributes := by
  rw [dropWhiteSpace, h]
  simp only [List.isEmpty_iff, Text.trim_eq_nil_iff]

/-- The rest of the attributes is left alone, and the style goes if and only if it lists nothing
but declarations of the property. Of those it lists exactly the others stay, unchanged and in
order, if and only if no other name ends in that of the property. -/
theorem dropWhiteSpace_removes_declarations {attributes : List Attribute} {style : Text}
    {ds : List Declaration} (hstyle : Attribute.get? "style" attributes = some style)
    (hlists : Lists style ds) :
    (dropWhiteSpace attributes).filter (·.name != "style") =
        attributes.filter (·.name != "style") ∧
      ((∀ a ∈ dropWhiteSpace attributes, a.name ≠ "style") ↔ ∀ d ∈ ds, d.isWhiteSpace) ∧
      declarations style = ds.map Declaration.trimmed ∧
      (declarations ((Attribute.get? "style" (dropWhiteSpace attributes)).getD []) =
          (ds.filter (!·.isWhiteSpace)).map Declaration.trimmed ↔
        ∀ d ∈ ds, d.endsInWhiteSpace → d.isWhiteSpace) := by
  rw [← hlists.isBlank_dropDeclarations_iff, ← hlists.declarations_dropDeclarations_iff,
    dropWhiteSpace_eq hstyle]
  have hmem := exists_mem_of_get? hstyle
  by_cases hblank : (dropDeclarations style).all Text.isBlank
  · rw [if_pos hblank, get?_erase, Option.getD_none]
    refine ⟨filter_erase _ _, iff_of_true (fun a ha => ?_) hblank, hlists.declarations_eq, ?_⟩
    · simpa using (List.mem_filter.mp ha).2
    · rw [declarations_of_isBlank hblank, declarations_of_isBlank rfl]
  · rw [if_neg hblank, get?_set hmem, Option.getD_some, declarations_trim]
    refine ⟨filter_set _ _ _, iff_of_false (fun hnone => ?_) hblank, hlists.declarations_eq,
      Iff.rfl⟩
    obtain ⟨a, ha, hname⟩ := exists_mem_of_get? (get?_set hmem _)
    exact hnone a ha hname

def shouted : Declaration := { name := "WHITE-SPACE".toList, gap := [' '], value := " pre".toList }

def custom : Declaration := { name := "--white".toList, value := "white-space ".toList }

def plain : Declaration := { name := "white-space".toList, value := [] }

def prefixed : Declaration := { name := "-moz-white-space".toList, value := " pre".toList }

def colored : Declaration := { before := [' '], name := "color".toList, value := " red".toList }

/-- A style with declarations of the property among others. -/
def mixedStyle : Text := "WHITE-SPACE : pre;--white:white-space ; color: red;white-space:; ".toList

theorem dropWhiteSpace_removes_declarations_mixed :
    Attribute.get? "style" [⟨"id", some ['a']⟩, ⟨"style", some mixedStyle⟩] = some mixedStyle ∧
      Lists mixedStyle [shouted, custom, colored, plain] ∧
      declarations ((Attribute.get? "style"
        (dropWhiteSpace [⟨"id", some ['a']⟩, ⟨"style", some mixedStyle⟩])).getD []) =
          ["--white:white-space".toList, "color: red".toList] := by
  have hstyle : Attribute.get? "style" [⟨"id", some ['a']⟩, ⟨"style", some mixedStyle⟩] =
      some mixedStyle := rfl
  have hlists : Lists mixedStyle [shouted, custom, colored, plain] :=
    .cons shouted (.semicolon "--white:white-space ; color: red;white-space:; ".toList) <|
    .cons custom (.semicolon " color: red;white-space:; ".toList) <|
    .cons colored (.semicolon "white-space:; ".toList) <|
    .cons plain (.semicolon [' ']) (.blank rfl)
  have hnames : ∀ d ∈ [shouted, custom, colored, plain], d.endsInWhiteSpace → d.isWhiteSpace := by
    decide
  obtain ⟨-, -, -, hkept⟩ := dropWhiteSpace_removes_declarations hstyle hlists
  exact ⟨hstyle, hlists, hkept.mpr hnames⟩

/-- A style with a declaration of a property with a longer name. -/
def prefixedStyle : Text := "-moz-white-space: pre; color: red".toList

/-- No declaration is of the property, and one is cut out behind the front of its name. -/
theorem prefixed_declaration_is_cut :
    Lists prefixedStyle [prefixed, colored] ∧
      (∀ d ∈ [prefixed, colored], ¬d.isWhiteSpace) ∧
      dropWhiteSpace [⟨"style", some prefixedStyle⟩] =
        [⟨"style", some "-moz- color: red".toList⟩] :=
  ⟨.cons prefixed (.semicolon " color: red".toList) (.cons colored .nil (.blank rfl)), by decide,
    by decide +kernel⟩

end LuaMarkup.Html.Style
