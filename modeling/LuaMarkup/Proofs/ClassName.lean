import LuaMarkup.Proofs.Doctype
import LuaMarkup.Proofs.InPlace
import LuaMarkup.Settings.Value

/-!
# Names that select a class

A class name is put behind a dot and read as a selector. A library selects by class if a name in the
sense of that notation is read as itself (`Library.SelectsClasses`), as `Html.standard` does
(`Standard.selectsClasses`). So `highlight_class`: of a page the elements are highlighted that have
the name among the words of their class.
-/

namespace LuaMarkup

namespace Selector

open Html (Node Document)
open Html.Node (Path)

/-- Names as selectors have them, without escapes. -/
def IsName (name : Text) : Prop :=
  Token.startsIdentifier name ∧ ∀ c ∈ name, Token.inName c

instance : DecidablePred IsName := fun name =>
  inferInstanceAs (Decidable (Token.startsIdentifier name ∧ ∀ c ∈ name, Token.inName c))

variable {name rest : Text} {c : Char}

-- ---------------------------------------------------------------------------
-- Reading a name
-- ---------------------------------------------------------------------------

namespace Token

/-- Marks are in no name. -/
theorem ne_of_inName (h : inName c) {d : Char} (hd : ¬inName d) : c ≠ d := by
  rintro rfl
  exact hd h

theorem unifyLineEnds_cons (h : c ≠ '\r') (text : Text) :
    Text.unifyLineEnds (c :: text) = c :: Text.unifyLineEnds text := by
  rw [Text.unifyLineEnds]
  · rintro _ rfl
    exact fun _ => h rfl
  · exact h

theorem unify_of_inName (h : ∀ c ∈ name, inName c ∨ c = '.') : unify name = name := by
  have hne : ∀ c ∈ name, c ≠ '\r' ∧ c ≠ '\x0c' ∧ c ≠ '\x00' := by
    intro c hc
    rcases h c hc with hc | rfl
    · exact ⟨ne_of_inName hc (by decide), ne_of_inName hc (by decide),
        ne_of_inName hc (by decide)⟩
    · decide
  have hlines : Text.unifyLineEnds name = name := by
    clear h
    induction name with
    | nil => rfl
    | cons c name ih =>
      obtain ⟨⟨hreturn, -, -⟩, hname⟩ := List.forall_mem_cons.mp hne
      rw [unifyLineEnds_cons hreturn, ih hname]
  rw [unify, hlines]
  refine (List.map_congr_left fun c hc => ?_).trans (List.map_id name)
  obtain ⟨-, hfeed, hnull⟩ := hne c hc
  rw [if_neg hfeed, if_neg hnull, id]

theorem name_of_inName {fuel : Nat} (h : ∀ c ∈ name, inName c) (hfuel : name.length ≤ fuel) :
    Token.name fuel name = (name, []) := by
  induction name generalizing fuel with
  | nil => cases fuel <;> rfl
  | cons c rest ih =>
    obtain ⟨hc, hrest⟩ := List.forall_mem_cons.mp h
    cases fuel with
    | zero => exact absurd hfuel (Nat.not_succ_le_zero _)
    | succ fuel =>
      rw [Token.name, if_pos hc, ih hrest (Nat.le_of_succ_le_succ hfuel)]

-- A dot with a digit behind it would start a number.

theorem toNat_le_of_isDigit (h : c.isDigit) : 48 ≤ c.toNat ∧ c.toNat ≤ 57 := by
  simpa [Char.isDigit, UInt32.le_iff_toNat_le] using h

theorem le_toNat_of_isAlpha (h : c.isAlpha) : 65 ≤ c.toNat := by
  have h' : 65 ≤ c.toNat ∧ c.toNat ≤ 90 ∨ 97 ≤ c.toNat ∧ c.toNat ≤ 122 := by
    simpa [Char.isAlpha, Char.isUpper, Char.isLower, UInt32.le_iff_toNat_le] using h
  omega

theorem le_toNat_of_isLetterLike (h : isLetterLike c) : 128 ≤ c.toNat := by
  simp only [isLetterLike, Bool.or_eq_true, Bool.and_eq_true, decide_eq_true_eq, beq_iff_eq] at h
  omega

theorem not_isDigit_of_startsName (h : startsName c) : ¬c.isDigit := by
  intro hdigit
  obtain ⟨-, hhigh⟩ := toNat_le_of_isDigit hdigit
  rw [startsName, Bool.or_eq_true, Bool.or_eq_true, beq_iff_eq] at h
  rcases h with (h | rfl) | h
  · exact absurd (le_toNat_of_isAlpha h) (by omega)
  · exact absurd hdigit (by decide)
  · exact absurd (le_toNat_of_isLetterLike h) (by omega)

theorem startsEscape_of_ne (h : c ≠ '\\') (rest : Text) : startsEscape (c :: rest) = false := by
  unfold startsEscape
  split <;> simp_all

theorem startsIdentifier_of_ne (h : c ≠ '-') (rest : Text) :
    startsIdentifier (c :: rest) = (startsName c || startsEscape (c :: rest)) := by
  unfold startsIdentifier
  split <;> simp_all

theorem not_isDigit_of_startsIdentifier {rest : Text} (h : startsIdentifier (c :: rest)) :
    ¬c.isDigit := by
  intro hdigit
  have hhyphen : c ≠ '-' := by rintro rfl; exact absurd hdigit (by decide)
  have hslash : c ≠ '\\' := by rintro rfl; exact absurd hdigit (by decide)
  rw [startsIdentifier_of_ne hhyphen, startsEscape_of_ne hslash, Bool.or_false] at h
  exact not_isDigit_of_startsName h hdigit

theorem number?_dot (h : startsIdentifier name) (length : Nat) :
    number? length ('.' :: name) = none := by
  have hdigits : name.takeWhile Char.isDigit = [] := by
    cases name with
    | nil => rfl
    | cons c rest => exact List.takeWhile_cons_of_neg (not_isDigit_of_startsIdentifier h)
  have hdot : ¬Char.isDigit '.' := by decide
  simp [number?, fraction, hdigits]

theorem next_dot (h : startsIdentifier name) (length : Nat) :
    next length '.' name = (.mark '.', name) := by
  have hstart : startsIdentifier ('.' :: name) = false := by
    rw [startsIdentifier_of_ne (by decide), startsEscape_of_ne (by decide)]
    decide
  simp [next, hstart, number?_dot h]

theorem next_of_isName (h : IsName (c :: rest)) {length : Nat} (hlength : rest.length < length) :
    next length c rest = (.identifier (c :: rest), []) := by
  have hc := h.2 c (List.mem_cons_self ..)
  rw [next, if_neg (not_or.mpr ⟨ne_of_inName hc (by decide), ne_of_inName hc (by decide)⟩),
    if_pos h.1, name_of_inName h.2 hlength]

theorem isSpace_of_inName (h : inName c) : isSpace c = false := by
  simp [isSpace, ne_of_inName h (by decide : ¬inName ' '),
    ne_of_inName h (by decide : ¬inName '\t'), ne_of_inName h (by decide : ¬inName '\n')]

theorem scan_nil (fuel : Nat) : scan fuel [] = [] := by
  cases fuel <;> rfl

theorem scan_cons (hslash : c ≠ '/') (hspace : isSpace c = false) (fuel : Nat) :
    scan (fuel + 1) (c :: rest) =
      (next (fuel + 1) c rest).1 :: scan fuel (next (fuel + 1) c rest).2 := by
  rw [scan]
  · rw [hspace]
    rfl
  · rintro _ rfl
    exact fun _ => hslash rfl

theorem ofText_class (h : IsName name) : ofText ('.' :: name) = [.mark '.', .identifier name] := by
  have hunify : unify ('.' :: name) = '.' :: name :=
    unify_of_inName (List.forall_mem_cons.mpr ⟨.inr rfl, fun c hc => .inl (h.2 c hc)⟩)
  rw [ofText, hunify, List.length_cons, scan_cons (by decide) (by decide), next_dot h.1]
  cases name with
  | nil => exact absurd h.1 (by decide)
  | cons c rest =>
    have hc := h.2 c (List.mem_cons_self ..)
    rw [List.length_cons, scan_cons (ne_of_inName hc (by decide)) (isSpace_of_inName hc),
      next_of_isName h (Nat.lt_succ_self _), scan_nil]

end Token

/-- The selector of a class. -/
def ofName (name : Text) : Selector := [⟨[.class name], []⟩]

theorem ofTokens_class (name : Text) :
    Component.ofTokens [.mark '.', .identifier name] =
      [[.token (.mark '.'), .token (.identifier name)]] := rfl

/-- A name is read as the selector of its class. -/
theorem parse?_of_isName (h : IsName name) :
    Selector.parse? ('.' :: name) = some (ofName name) := by
  rw [parse?, Token.ofText_class h, ofTokens_class]
  rfl

-- ---------------------------------------------------------------------------
-- The elements of a class
-- ---------------------------------------------------------------------------

/-- Whether the class attribute of a node has the name among its words. -/
def bears (old : Bool) (name : Text) (node : Node) : Bool :=
  (((Html.Attribute.get? "class" node.attributes).map words).getD []).any (sameName old name)

theorem countsBy_ofName (old : Bool) (name : Text) :
    CountsBy ((ofName name).count old) fun node => (bears old name node).toNat := by
  refine ⟨fun standing around => ?_, fun node hnode => ?_⟩
  · have hholds : (⟨[.class name], []⟩ : Complex).holds old (standing :: around) =
        bears old name standing.node := by
      simp only [Complex.holds, Compound.holds, Link.contextHolds, Simple.holds, Bool.and_true]
      rfl
    rw [Selector.count, ofName, List.countP_singleton, hholds]
    cases bears old name standing.node <;> rfl
  · cases node with
    | element | template => cases hnode
    | text | comment | instruction | doctype => rfl

end Selector

namespace Html

open Node (Path)

/-- A library that finds the elements of a class by the selector of a name, in document order. In a
page with an old document type, or with none, the name may be in any ASCII case. -/
structure Library.SelectsClasses (lib : Library) (declaration? : Text → Option Doctype) :
    Prop where
  old_eq : ∀ page, (lib.parse page).old = isOldWith (declaration? page)
  select?_eq : ∀ document name, Selector.IsName name →
    ∃ selected, lib.select? document ('.' :: name) = some selected ∧
      selected.Pairwise (· < ·) ∧
      ∀ path, path ∈ selected ↔
        ∃ node, Node.at? document.nodes path = some node ∧
          Selector.bears document.old name node

theorem Standard.selectsClasses : standard.SelectsClasses Document.declaration? where
  old_eq := Document.old_parse
  select?_eq document name hname := by
    have hselected : standard.select? document ('.' :: name) =
        some ((Selector.ofName name).select document) := by
      simp only [standard, Selector.parse?_of_isName hname, Option.map_some]
    refine ⟨_, hselected, Selector.pairwise_select fun _ => List.countP_le_length, fun path => ?_⟩
    rw [(Selector.countsBy_ofName document.old name).mem_select_iff]
    simp [Nat.pos_iff_ne_zero]

end Html

namespace Page

open Html (Node Document Library Printer Doctype)
open Html.Node (Path)

variable {lib : Library} {printer : Printer} {declaration? : Text → Option Doctype}

/-- Whether the node at a path is of the class. In a page with an old document type, or with none,
the name may be in any ASCII case. -/
def hasClass (lib : Library) (declaration? : Text → Option Doctype) (name html : Text)
    (path : Path) : Bool :=
  ((Node.at? (lib.parse html).nodes path).map
    (Selector.bears (Html.isOldWith (declaration? html)) name)).getD false

theorem hasClass_iff {name html : Text} {path : Path} :
    hasClass lib declaration? name html path ↔
      ∃ node, Node.at? (lib.parse html).nodes path = some node ∧
        Selector.bears (Html.isOldWith (declaration? html)) name node := by
  rw [hasClass]
  cases Node.at? (lib.parse html).nodes path <;> simp

variable {name html nonce : Text} {nonces : Nat → Text} {draws : Nat}

/-- The elements of the class of a name that are in no other of these are highlighted, each once
and with the markup of its own text, and nothing else is changed. -/
theorem highlight_class (hlib : lib.Lawful printer) (hclasses : lib.SelectsClasses declaration?)
    (hname : Selector.IsName name)
    (hcount : ∀ selected, lib.select? (lib.parse html) ('.' :: name) = some selected →
      Countable (lib.parse html) selected)
    (hdraw : Marker.freeNonce? nonces html = some (nonce, draws))
    (hnonce : ∀ c ∈ nonce, c.isAlphanum)
    (hholds : ¬Marker.HoldsMarker nonce
      (inPlace lib printer (hasClass lib declaration? name html) (fun _ => []) html)) :
    ∃ (paths : List Path) (markup : Path → Text), paths.Nodup ∧
      (∀ path, path ∈ paths ↔ Path.IsOutermost (hasClass lib declaration? name html) path) ∧
      (∀ path ∈ paths, LuaMarkup.highlight (textAt (lib.parse html).nodes path) =
        .ok (markup path)) ∧
      (highlight lib name nonces html).2 =
        .ok (inPlace lib printer (hasClass lib declaration? name html) markup html) ∧
      (¬isBlank html →
        (highlight lib name nonces html).1 = report name (lib.parse html) paths draws) := by
  obtain ⟨selected, hselected, hordered, hmem⟩ :=
    hclasses.select?_eq (lib.parse html) name hname
  rw [hclasses.old_eq] at hmem
  have hselect : Highlightable (lib.parse html) selected := by
    refine ⟨hcount selected hselected, hordered, fun path hpath => ?_⟩
    obtain ⟨node, hnode, -⟩ := (hmem path).mp hpath
    rw [hnode]
    rfl
  have hclass : selected.contains = hasClass lib declaration? name html := by
    funext path
    rw [Bool.eq_iff_iff, List.contains_iff_mem, hmem, hasClass_iff]
  rw [← hclass] at hholds ⊢
  obtain ⟨markup, hmarkup⟩ := hselect.exists_markup
  refine ⟨targets selected, markup, nodup_targets hordered, fun _ => mem_targets_iff hordered,
    hmarkup, highlight_eq_inPlace hlib hselected hselect hdraw hnonce hmarkup hholds,
    fun hblank => ?_⟩
  rw [highlight_eq hlib hblank hselected hselect hdraw hnonce hmarkup]

/-- A page without a document type, with the name in another case and among other words. -/
def looseClassPage : Text := "<p class='b A'>if <i class=a>1</i></p><p class=ab>2</p>".toList

theorem highlight_class_loose :
    Html.standard.Lawful Html.Standard.printer ∧
      Html.standard.SelectsClasses Document.declaration? ∧ Selector.IsName ['a'] ∧
      (∀ selected, Html.standard.select? (Html.standard.parse looseClassPage) ".a".toList =
        some selected → Countable (Html.standard.parse looseClassPage) selected) ∧
      Marker.freeNonce? (fun _ => ['k']) looseClassPage = some (['k'], 1) ∧
      (∀ c ∈ ['k'], c.isAlphanum) ∧
      ¬Marker.HoldsMarker ['k'] (inPlace Html.standard Html.Standard.printer
        (hasClass Html.standard Document.declaration? ['a'] looseClassPage) (fun _ => [])
        looseClassPage) ∧
      ¬isBlank looseClassPage ∧
      ∃ (paths : List Path) (markup : Path → Text), paths.Nodup ∧ [0, 1, 0] ∈ paths ∧
        (∀ path ∈ paths,
          LuaMarkup.highlight (textAt (Html.standard.parse looseClassPage).nodes path) =
            .ok (markup path)) ∧
        (highlight Html.standard ['a'] (fun _ => ['k']) looseClassPage).2 =
          .ok (inPlace Html.standard Html.Standard.printer
            (hasClass Html.standard Document.declaration? ['a'] looseClassPage) markup
            looseClassPage) ∧
        (highlight Html.standard ['a'] (fun _ => ['k']) looseClassPage).1 =
          report ['a'] (Html.standard.parse looseClassPage) paths 1 := by
  have hname : Selector.IsName ['a'] := by decide
  have hselected : Html.standard.select? (Html.standard.parse looseClassPage) ".a".toList =
      some [[0, 1, 0], [0, 1, 0, 1]] := by decide +kernel
  have hcount : ∀ selected,
      Html.standard.select? (Html.standard.parse looseClassPage) ".a".toList = some selected →
        Countable (Html.standard.parse looseClassPage) selected := by
    intro selected h
    obtain rfl := Option.some.inj (hselected.symm.trans h)
    exact countable_of_le (by decide +kernel)
  have hdraw : Marker.freeNonce? (fun _ => ['k']) looseClassPage = some (['k'], 1) := by
    decide +kernel
  have hnonce : ∀ c ∈ ['k'], c.isAlphanum := by decide
  have hholds : ¬Marker.HoldsMarker ['k'] (inPlace Html.standard Html.Standard.printer
      (hasClass Html.standard Document.declaration? ['a'] looseClassPage) (fun _ => [])
      looseClassPage) :=
    Marker.not_holdsMarker_of_isFree (by decide +kernel)
  have hblank : ¬isBlank looseClassPage := by decide +kernel
  have hfirst : Path.IsOutermost
      (hasClass Html.standard Document.declaration? ['a'] looseClassPage) [0, 1, 0] := by
    decide +kernel
  obtain ⟨paths, markup, hnodup, hpaths, hmarkup, hpage, hreport⟩ :=
    highlight_class Html.Standard.lawful Html.Standard.selectsClasses hname hcount hdraw hnonce
      hholds
  exact ⟨Html.Standard.lawful, Html.Standard.selectsClasses, hname, hcount, hdraw, hnonce, hholds,
    hblank, paths, markup, hnodup, (hpaths _).mpr hfirst, hmarkup, hpage, hreport hblank⟩

/-- A word that settings take for the name of a class, and that no selector can be made of, as it
starts with a digit. -/
theorem accepted_class_is_no_selector :
    Settings.readClass "1a".toList = .ok "1a".toList ∧
      hasClass Html.standard Document.declaration? "1a".toList
        "<p class=\"1a\">end</p>".toList [0, 1, 0] ∧
      (highlight Html.standard "1a".toList (Page.nonces 0) "<p class=\"1a\">end</p>".toList).2 =
        .error .badSelector := by
  decide +kernel

end Page
end LuaMarkup
