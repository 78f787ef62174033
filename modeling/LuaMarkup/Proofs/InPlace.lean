import LuaMarkup.Proofs.Opaque
import LuaMarkup.Proofs.Splicing
import LuaMarkup.Proofs.Standard

/-!
# Pages highlighted in place

`inPlace` prints a page with new contents for its outermost chosen elements, without markers and
without changing the tree. `highlight_in_place`: that is what highlighting makes of a page, with
whatever library pages are read and printed, if its nonce is not in what is printed around the
elements. A nonce that is not in the page can be in there, since the page is read before it is
printed: `highlight_around` says what follows, and `spelled_marker_is_taken` is such a page.
-/

namespace LuaMarkup.Page

open Html (Node Document Library Printer filled Finds)
open Html.Node (Path Beside)

/-- The text of the node at a path. -/
def textAt (nodes : List Node) (path : Path) : Text :=
  ((Node.at? nodes path).map (·.textContent)).getD []

/-- The page with new contents for the outermost chosen elements. A blank page has none. -/
def inPlace (lib : Library) (printer : Printer) (chosen : Path → Bool) (content : Path → Text)
    (html : Text) : Text :=
  if isBlank html then html
  else
    lib.printWith printer (filled (Path.IsOutermost chosen) content) (isFullDocument html)
      (lib.parse html)

-- ---------------------------------------------------------------------------
-- The elements that are highlighted
-- ---------------------------------------------------------------------------

variable {lib : Library} {printer : Printer} {document : Document} {selected : List Path}
  {path : Path}

theorem targets_eq (h : selected.Pairwise (· < ·)) :
    targets selected = selected.filter fun path => !selected.any (Path.isAbove · path) :=
  outermost_eq_filter Path.isAbove_trans (Path.topDown h)

theorem mem_targets_iff (h : selected.Pairwise (· < ·)) :
    path ∈ targets selected ↔ Path.IsOutermost selected.contains path := by
  rw [targets_eq h, List.mem_filter]
  simp only [Path.IsOutermost, List.contains_iff_mem, Bool.not_eq_true',
    ← Bool.not_eq_true, List.any_eq_true, not_exists, not_and]
  exact and_congr_right fun _ => forall_congr' fun _ => imp_not_comm

theorem nodup_targets (h : selected.Pairwise (· < ·)) : (targets selected).Nodup := by
  rw [targets_eq h]
  exact (h.imp fun hlt => ne_of_lt hlt).filter _

theorem beside_targets (h : selected.Pairwise (· < ·)) : (targets selected).Pairwise Beside := by
  refine (nodup_targets h).pairwise_of_forall_ne fun p hp q hq hne => ?_
  obtain ⟨hp, hnone⟩ := (mem_targets_iff h).mp hp
  obtain ⟨hq, hnone'⟩ := (mem_targets_iff h).mp hq
  exact ⟨fun hpq => hnone' p (Path.isAbove_iff.mpr ⟨hpq, hne⟩) hp,
    fun hqp => hnone q (Path.isAbove_iff.mpr ⟨hqp, hne.symm⟩) hq⟩

-- ---------------------------------------------------------------------------
-- Marking
-- ---------------------------------------------------------------------------

theorem exists_highlight {source : Text} (h : source.length ≤ 10 ^ maxDigits) :
    ∃ markup, LuaMarkup.highlight source = .ok markup := by
  obtain ⟨items, hboxed⟩ := exists_boxedSource_eq Rule.all source
  exact ⟨_, highlight_of_resolve (resolve_classifySource (size_classifySource_le h) hboxed)⟩

variable {nonce : Text} {paths : List Path} {markup : Path → Text} {r : Marking} {m : Nat}

/-- The markers of elements numbered in turn from `m` on. -/
def markers (nonce : Text) (paths : List Path) (m : Nat) (path : Path) : Text :=
  Marker.write nonce (m + paths.idxOf path)

theorem filled_markers_cons (h : path ∉ paths) :
    Function.update (filled (· ∈ paths) (markers nonce paths (m + 1))) path
        (some (Marker.write nonce m)) =
      filled (· ∈ path :: paths) (markers nonce (path :: paths) m) := by
  funext q
  by_cases hq : q = path
  · subst hq
    simp [filled, markers]
  · have hsame : m + 1 + paths.idxOf q = m + (paths.idxOf q + 1) := by omega
    simp [filled, markers, hq, List.idxOf_cons_ne _ (Ne.symm hq), hsame]

/-- A marking with one more element marked. -/
def Marking.mark (nonce : Text) (path : Path) (found : Text) (r : Marking) : Marking :=
  { nodes := Node.modifyAt (Marking.marked nonce r.markups.size) r.nodes path
    markups := r.markups.push found
    trace := r.trace ++ highlightTrace (textAt r.nodes path) }

theorem textAt_eq (hlib : lib.Lawful printer) (nodes : List Node) (path : Path) :
    ((Node.at? nodes path).bind lib.text?).getD [] = textAt nodes path := by
  rw [textAt]
  cases Node.at? nodes path with
  | none => rfl
  | some node => exact hlib.text_eq node

theorem run_cons (hlib : lib.Lawful printer) {found : Text}
    (h : LuaMarkup.highlight (textAt r.nodes path) = .ok found) :
    Marking.run lib nonce (path :: paths) r =
      Marking.run lib nonce paths (r.mark nonce path found) := by
  rw [Marking.run]
  simp only [textAt_eq hlib, h]
  rfl

theorem textAt_mark {q : Path} {found : Text} (h : Beside path q) :
    textAt (r.mark nonce path found).nodes q = textAt r.nodes q := by
  rw [textAt, Marking.mark, Node.at?_modifyAt_of_beside h, ← textAt]

/-- Elements that lie apart are marked as if all at once: each has its own text still when its
turn comes. -/
theorem exists_run_eq (hlib : lib.Lawful printer) (hnonce : ∀ c ∈ nonce, c.isAlphanum)
    (hbeside : paths.Pairwise Beside) (hpaths : ∀ path ∈ paths, path ≠ [])
    (hmarkup : ∀ path ∈ paths, LuaMarkup.highlight (textAt r.nodes path) = .ok (markup path)) :
    ∃ nodes, Marking.run lib nonce paths r =
        ({ nodes
           markups := r.markups ++ (paths.map markup).toArray
           trace := r.trace ++ paths.flatMap fun path => highlightTrace (textAt r.nodes path) },
          none) ∧
      ∀ old full, lib.printWith printer (fun _ => none) full ⟨nodes, old⟩ =
        lib.printWith printer (filled (· ∈ paths) (markers nonce paths r.markups.size)) full
          ⟨r.nodes, old⟩ := by
  induction paths generalizing r with
  | nil =>
    refine ⟨r.nodes, ?_, fun old full => ?_⟩
    · simp [Marking.run]
    · have hnone : filled (· ∈ ([] : List Path)) (markers nonce [] r.markups.size) =
          fun _ => none := by
        funext path
        simp [filled]
      rw [hnone]
  | cons path paths ih =>
    obtain ⟨hbeside, hrest⟩ := List.pairwise_cons.mp hbeside
    obtain ⟨hpath, hpaths⟩ := List.forall_mem_cons.mp hpaths
    obtain ⟨hfirst, hmarkup⟩ := List.forall_mem_cons.mp hmarkup
    have hnotMem : path ∉ paths := fun hmem => (hbeside path hmem).1 List.prefix_rfl
    have htext : ∀ q ∈ paths, textAt (r.mark nonce path (markup path)).nodes q =
        textAt r.nodes q := fun q hq => textAt_mark (hbeside q hq)
    obtain ⟨nodes, hrun, hprint⟩ := ih (r := r.mark nonce path (markup path)) hrest hpaths
      fun q hq => by rw [htext q hq, hmarkup q hq]
    refine ⟨nodes, ?_, fun old full => ?_⟩
    · have htrace := List.flatMap_congr fun q hq => congrArg highlightTrace (htext q hq)
      rw [run_cons hlib hfirst, hrun, htrace]
      simp [Marking.mark]
    · have hsize : (r.mark nonce path (markup path)).markups.size = r.markups.size + 1 :=
        Array.size_push _
      have hnone : filled (· ∈ paths) (markers nonce paths (r.markups.size + 1)) path = none :=
        if_neg hnotMem
      rw [hprint, hsize, ← filled_markers_cons hnotMem]
      exact hlib.printWith_modifyAt ⟨r.nodes, old⟩ hnonce hpath hnone

-- ---------------------------------------------------------------------------
-- Highlighted pages
-- ---------------------------------------------------------------------------

/-- A selection of no more elements, with no more text in each, than numerals that can be read
can count. -/
structure Countable (document : Document) (selected : List Path) : Prop where
  count : selected.length ≤ 10 ^ maxDigits
  length : ∀ path ∈ selected, (textAt document.nodes path).length ≤ 10 ^ maxDigits

/-- Distinct nodes of a page, in document order. -/
structure Highlightable (document : Document) (selected : List Path) : Prop
    extends Countable document selected where
  ordered : selected.Pairwise (· < ·)
  isNode : ∀ path ∈ selected, (Node.at? document.nodes path).isSome

theorem countable_of_le (h : selected.length ≤ maxDigits ∧
    ∀ path ∈ selected, (textAt document.nodes path).length ≤ maxDigits) :
    Countable document selected :=
  ⟨le_pow_maxDigits h.1, fun path hpath => le_pow_maxDigits (h.2 path hpath)⟩

theorem Highlightable.ne_nil (h : Highlightable document selected)
    (hpath : path ∈ targets selected) : path ≠ [] := by
  rintro rfl
  exact absurd (h.isNode [] (mem_of_mem_outermost hpath)) (by simp [Node.at?])

theorem Highlightable.exists_markup (h : Highlightable document selected) :
    ∃ markup : Path → Text, ∀ path ∈ targets selected,
      LuaMarkup.highlight (textAt document.nodes path) = .ok (markup path) := by
  have hmarkup : ∀ path ∈ targets selected, ∃ markup,
      LuaMarkup.highlight (textAt document.nodes path) = .ok markup := fun path hpath =>
    exists_highlight (h.length path (mem_of_mem_outermost hpath))
  choose! markup hmarkup using hmarkup
  exact ⟨markup, hmarkup⟩

def markupsOf (selected : List Path) (markup : Path → Text) : Array Text :=
  ((targets selected).map markup).toArray

/-- Each element finds its own markup. -/
theorem Highlightable.finds (h : Highlightable document selected) (markup : Path → Text) :
    Finds (Path.IsOutermost selected.contains) (markupsOf selected markup)
      (targets selected).idxOf markup := by
  intro path hpath
  have hlt := List.idxOf_lt_length_of_mem ((mem_targets_iff h.ordered).mpr hpath)
  have hle : (targets selected).length ≤ selected.length := by
    rw [targets_eq h.ordered]
    exact List.length_filter_le ..
  refine ⟨Nat.lt_of_lt_of_le hlt (hle.trans h.count), ?_⟩
  simp [markupsOf, hlt]

variable {cssClass html : Text} {nonces : Nat → Text} {draws : Nat}

theorem inPlace_of_not_isBlank (h : ¬isBlank html) (chosen : Path → Bool)
    (content : Path → Text) :
    inPlace lib printer chosen content html =
      lib.printWith printer (filled (Path.IsOutermost chosen) content) (isFullDocument html)
        (lib.parse html) := if_neg h

/-- The page with the number of each element in a marker. -/
def markedPage (lib : Library) (printer : Printer) (selected : List Path) (nonce html : Text) :
    Text :=
  inPlace lib printer selected.contains
    (fun path => Marker.write nonce ((targets selected).idxOf path)) html

/-- What is reported of a page with these elements. -/
def report (cssClass : Text) (document : Document) (paths : List Path) (draws : Nat) : Report :=
  { log := [countRecord cssClass paths.length]
    trace := paths.flatMap fun path => highlightTrace (textAt document.nodes path)
    draws }

theorem highlight_eq (hlib : lib.Lawful printer) (hblank : ¬isBlank html)
    (hselected : lib.select? (lib.parse html) ('.' :: cssClass) = some selected)
    (hselect : Highlightable (lib.parse html) selected)
    (hdraw : Marker.freeNonce? nonces html = some (nonce, draws))
    (hnonce : ∀ c ∈ nonce, c.isAlphanum)
    (hmarkup : ∀ path ∈ targets selected,
      LuaMarkup.highlight (textAt (lib.parse html).nodes path) = .ok (markup path)) :
    highlight lib cssClass nonces html =
      (report cssClass (lib.parse html) (targets selected) draws,
        (Marker.splice (markupsOf selected markup) nonce
          (markedPage lib printer selected nonce html)).mapError .splice) := by
  obtain ⟨nodes, hrun, hprint⟩ := exists_run_eq
    (r := { nodes := (lib.parse html).nodes, markups := #[], trace := [] }) hlib hnonce
    (beside_targets hselect.ordered) (fun _ => hselect.ne_nil) hmarkup
  have hprinted : print? lib (isFullDocument html) ⟨nodes, (lib.parse html).old⟩ =
      some (markedPage lib printer selected nonce html) := by
    rw [hlib.print?_eq, hprint, markedPage, inPlace_of_not_isBlank hblank]
    congr 2
    funext path
    rw [filled, filled, markers, List.size_toArray, List.length_nil, Nat.zero_add]
    exact if_congr (mem_targets_iff hselect.ordered) rfl rfl
  rw [highlight, if_neg hblank]
  simp only [hselected, hdraw, hrun, hprinted, List.nil_append, Array.empty_append]
  rw [← markupsOf]
  cases Marker.splice _ nonce _ <;> rfl

theorem Highlightable.splice_markedPage_error_iff
    (hselect : Highlightable (lib.parse html) selected) (hlib : lib.Lawful printer)
    (hblank : ¬isBlank html) (hnonce : ∀ c ∈ nonce, c.isAlphanum) (markup : Path → Text)
    (cause : SpliceError) :
    Marker.splice (markupsOf selected markup) nonce
        (markedPage lib printer selected nonce html) = .error cause ↔
      Marker.splice (markupsOf selected markup) nonce
        (inPlace lib printer selected.contains (fun _ => []) html) = .error cause := by
  rw [markedPage, inPlace_of_not_isBlank hblank, inPlace_of_not_isBlank hblank]
  exact hlib.splice_printWith_error_iff hnonce (hselect.finds markup) cause

theorem Highlightable.splice_markedPage (hselect : Highlightable (lib.parse html) selected)
    (hlib : lib.Lawful printer) (hblank : ¬isBlank html) (hnonce : ∀ c ∈ nonce, c.isAlphanum)
    (markup : Path → Text)
    (hholds : ¬Marker.HoldsMarker nonce
      (inPlace lib printer selected.contains (fun _ => []) html)) :
    Marker.splice (markupsOf selected markup) nonce
        (markedPage lib printer selected nonce html) =
      .ok (inPlace lib printer selected.contains markup html) := by
  rw [inPlace_of_not_isBlank hblank] at hholds
  rw [markedPage, inPlace_of_not_isBlank hblank, inPlace_of_not_isBlank hblank]
  exact hlib.splice_printWith hnonce (hselect.finds markup) hholds

/-- A page is highlighted in place, if no marker is in what is printed around the elements. -/
theorem highlight_eq_inPlace (hlib : lib.Lawful printer)
    (hselected : lib.select? (lib.parse html) ('.' :: cssClass) = some selected)
    (hselect : Highlightable (lib.parse html) selected)
    (hdraw : Marker.freeNonce? nonces html = some (nonce, draws))
    (hnonce : ∀ c ∈ nonce, c.isAlphanum)
    (hmarkup : ∀ path ∈ targets selected,
      LuaMarkup.highlight (textAt (lib.parse html).nodes path) = .ok (markup path))
    (hholds : ¬Marker.HoldsMarker nonce
      (inPlace lib printer selected.contains (fun _ => []) html)) :
    (highlight lib cssClass nonces html).2 =
      .ok (inPlace lib printer selected.contains markup html) := by
  by_cases hblank : isBlank html
  · rw [highlight, inPlace, if_pos hblank, if_pos hblank]
  · rw [highlight_eq hlib hblank hselected hselect hdraw hnonce hmarkup,
      hselect.splice_markedPage hlib hblank hnonce markup hholds]
    rfl

/-- If no marker can be part of what is printed around the outermost selected elements, each of
them holds the markup of its own text, and all else is as it is without highlighting. -/
theorem highlight_in_place (hlib : lib.Lawful printer)
    (hselected : lib.select? (lib.parse html) ('.' :: cssClass) = some selected)
    (hselect : Highlightable (lib.parse html) selected)
    (hdraw : Marker.freeNonce? nonces html = some (nonce, draws))
    (hnonce : ∀ c ∈ nonce, c.isAlphanum)
    (hfree : Marker.isFree (inPlace lib printer selected.contains (fun _ => []) html) nonce) :
    ∃ markup : Path → Text,
      (∀ path, Path.IsOutermost selected.contains path →
        LuaMarkup.highlight (textAt (lib.parse html).nodes path) = .ok (markup path)) ∧
      (highlight lib cssClass nonces html).2 =
        .ok (inPlace lib printer selected.contains markup html) := by
  obtain ⟨markup, hmarkup⟩ := hselect.exists_markup
  refine ⟨markup, fun path hpath => ?_, ?_⟩
  · exact hmarkup path ((mem_targets_iff hselect.ordered).mpr hpath)
  exact highlight_eq_inPlace hlib hselected hselect hdraw hnonce hmarkup
    (Marker.not_holdsMarker_of_isFree hfree)

/-- A page with nested elements, the last of which holds what looks like the first marker. -/
def nestedPage : Text :=
  "<b class=a style=white-space:pre>if <i class=a>1</i></b>".toList ++
    "<b class=a>&#76;UALIGHTkx0ENDLUA</b>".toList

def nestedSelection : List Path := [[0, 1, 0], [0, 1, 0, 1], [0, 1, 1]]

theorem highlight_in_place_nested :
    Html.standard.Lawful Html.Standard.printer ∧
      Html.standard.select? (Html.standard.parse nestedPage) ".a".toList =
        some nestedSelection ∧
      Highlightable (Html.standard.parse nestedPage) nestedSelection ∧
      Marker.freeNonce? (fun _ => ['k']) nestedPage = some (['k'], 1) ∧
      (∀ c ∈ ['k'], c.isAlphanum) ∧
      Marker.isFree (inPlace Html.standard Html.Standard.printer nestedSelection.contains
        (fun _ => []) nestedPage) ['k'] ∧
      ∃ markup : Path → Text,
        (∀ path, Path.IsOutermost nestedSelection.contains path →
          LuaMarkup.highlight (textAt (Html.standard.parse nestedPage).nodes path) =
            .ok (markup path)) ∧
        (highlight Html.standard ['a'] (fun _ => ['k']) nestedPage).2 =
          .ok (inPlace Html.standard Html.Standard.printer nestedSelection.contains markup
            nestedPage) := by
  have hselected : Html.standard.select? (Html.standard.parse nestedPage) ".a".toList =
      some nestedSelection := by decide +kernel
  have hselect : Highlightable (Html.standard.parse nestedPage) nestedSelection :=
    ⟨countable_of_le (by decide +kernel), by decide, by decide +kernel⟩
  have hdraw : Marker.freeNonce? (fun _ => ['k']) nestedPage = some (['k'], 1) := by
    decide +kernel
  have hnonce : ∀ c ∈ ['k'], c.isAlphanum := by decide
  have hfree : Marker.isFree (inPlace Html.standard Html.Standard.printer nestedSelection.contains
      (fun _ => []) nestedPage) ['k'] := by
    decide +kernel
  exact ⟨Html.Standard.lawful, hselected, hselect, hdraw, hnonce, hfree,
    highlight_in_place Html.Standard.lawful hselected hselect hdraw hnonce hfree⟩

theorem not_holdsMarker_of_isBlank (h : isBlank html) : ¬Marker.HoldsMarker nonce html := by
  rintro ⟨digits, -, hspell⟩
  have hletter : 'L' ∈ Marker.spell nonce digits := List.mem_cons_self ..
  have hblank := List.all_eq_true.mp h 'L' (hspell.subset hletter)
  exact absurd hblank (by decide)

/-- What a nonce that is not in the page leaves open: the page fails just if what is printed
around its elements cannot be spliced, and is highlighted in place if no marker is in there. -/
theorem highlight_around (hlib : lib.Lawful printer)
    (hselected : lib.select? (lib.parse html) ('.' :: cssClass) = some selected)
    (hselect : Highlightable (lib.parse html) selected)
    (hdraw : Marker.freeNonce? nonces html = some (nonce, draws))
    (hnonce : ∀ c ∈ nonce, c.isAlphanum) :
    ∃ markup : Path → Text,
      (∀ path, Path.IsOutermost selected.contains path →
        LuaMarkup.highlight (textAt (lib.parse html).nodes path) = .ok (markup path)) ∧
      (∀ cause, (highlight lib cssClass nonces html).2 = .error cause ↔
        (Marker.splice (markupsOf selected markup) nonce
          (inPlace lib printer selected.contains (fun _ => []) html)).mapError .splice =
            .error cause) ∧
      (¬Marker.HoldsMarker nonce (inPlace lib printer selected.contains (fun _ => []) html) →
        (highlight lib cssClass nonces html).2 =
          .ok (inPlace lib printer selected.contains markup html)) := by
  obtain ⟨markup, hmarkup⟩ := hselect.exists_markup
  refine ⟨markup, fun path hpath => hmarkup path ((mem_targets_iff hselect.ordered).mpr hpath),
    fun cause => ?_, highlight_eq_inPlace hlib hselected hselect hdraw hnonce hmarkup⟩
  by_cases hblank : isBlank html
  · have hsplice : Marker.splice (markupsOf selected markup) nonce html = .ok html :=
      Marker.splice_of_not_holdsMarker (not_holdsMarker_of_isBlank hblank)
    rw [highlight, inPlace, if_pos hblank, if_pos hblank, hsplice]
    exact Iff.rfl
  · rw [highlight_eq hlib hblank hselected hselect hdraw hnonce hmarkup, mapError_eq_error_iff,
      mapError_eq_error_iff]
    simp only [hselect.splice_markedPage_error_iff hlib hblank hnonce markup]

/-- A page with a marker whose first letter is written as a reference. The nonce in it is not in
the page as it is written. -/
def spelledPage : Text := "<p>&#76;UALIGHT0123456789abcdefx0ENDLUA</p>".toList

def spelledNonce : Text := "0123456789abcdef".toList

theorem highlight_around_spelled :
    Html.standard.Lawful Html.Standard.printer ∧
      Html.standard.select? (Html.standard.parse spelledPage) ('.' :: defaultClass.toList) =
        some [] ∧
      Highlightable (Html.standard.parse spelledPage) [] ∧
      Marker.freeNonce? (fun _ => spelledNonce) spelledPage = some (spelledNonce, 1) ∧
      (∀ c ∈ spelledNonce, c.isAlphanum) ∧
      ∃ markup : Path → Text,
        ∀ cause, (highlight Html.standard defaultClass.toList (fun _ => spelledNonce)
            spelledPage).2 = .error cause ↔
          (Marker.splice (markupsOf [] markup) spelledNonce
            (inPlace Html.standard Html.Standard.printer (List.contains []) (fun _ => [])
              spelledPage)).mapError .splice = .error cause := by
  have hselected : Html.standard.select? (Html.standard.parse spelledPage)
      ('.' :: defaultClass.toList) = some [] := by decide +kernel
  have hselect : Highlightable (Html.standard.parse spelledPage) [] :=
    ⟨countable_of_le (by decide), by decide, by decide⟩
  have hdraw : Marker.freeNonce? (fun _ => spelledNonce) spelledPage =
      some (spelledNonce, 1) := by
    decide +kernel
  have hnonce : ∀ c ∈ spelledNonce, c.isAlphanum :=
    List.all_eq_true.mp (by decide : spelledNonce.all Char.isAlphanum = true)
  obtain ⟨markup, -, herror, -⟩ :=
    highlight_around Html.Standard.lawful hselected hselect hdraw hnonce
  exact ⟨Html.Standard.lawful, hselected, hselect, hdraw, hnonce, markup, herror⟩

/-- The nonce is accepted, and yet the text of the page is taken for a marker, of an element that
there is not. -/
theorem spelled_marker_is_taken :
    Marker.freeNonce? (fun _ => spelledNonce) spelledPage = some (spelledNonce, 1) ∧
      (highlight Html.standard defaultClass.toList (fun _ => spelledNonce) spelledPage).2 =
        .error (.splice .outOfRange) := by
  decide +kernel

end LuaMarkup.Page
