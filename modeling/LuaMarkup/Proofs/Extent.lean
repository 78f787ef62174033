import LuaMarkup.Proofs.InPlace

/-!
# Pages that come back whole

Blanks, comments and XML declarations may stand before a document. `isFullDocument_eq`: a page is
known for a document if there are blanks alone. `highlight_whole_iff`: just then all of it comes
back, or if it has no body. Else the content of the body does, which is a part of the whole
(`Library.Lawful.innerWith_infix_printWith`), and what stands around it is lost, the document type
and the head among it.
-/

namespace LuaMarkup

-- ---------------------------------------------------------------------------
-- The body in the whole
-- ---------------------------------------------------------------------------

namespace Html

open Node (Path)

variable {printer : Printer} {contents : Path → Option Text} {parent : Option Tag} {path : Path}
  {nodes : List Node} {tag : Tag} {attributes : List Attribute} {children : List Node}

/-- A node is printed in its place among its siblings. -/
theorem Printer.infix_of_printWith (index : Nat) (h : nodes[i]? = some node) :
    printer.printWith contents parent (path ++ [index + i]) node <:+:
      printer.printAllWith contents parent path index nodes := by
  induction nodes generalizing i index with
  | nil => cases h
  | cons first rest ih =>
    rw [printAllWith]
    cases i with
    | zero =>
      obtain rfl : first = node := by simpa using h
      exact (List.prefix_append ..).isInfix
    | succ i =>
      have hrest := ih (index + 1) (by simpa using h)
      rw [Nat.add_right_comm, Nat.add_assoc] at hrest
      exact hrest.trans (List.suffix_append ..).isInfix

/-- An element that prints its children has its content behind its start tag. -/
theorem Printer.content_infix_printWith (hshown : printer.shows tag) :
    '>' :: printer.heldWith contents tag path children <:+:
      printer.printWith contents parent path (.element tag attributes children) := by
  simp only [printWith, heldWith, hshown, if_true]
  cases contents path with
  | none => exact ⟨printer.startTag tag attributes, printer.endTag tag, by simp⟩
  | some content =>
    exact ⟨printer.startTag tag (Style.dropWhiteSpace attributes), printer.endTag tag, by simp⟩

/-- The content of an element is printed in the page, if all around it print their children. -/
theorem Printer.content_infix_printAllWith {rest : Path} (index : Nat)
    (hnode : Node.at? nodes (i :: rest) = some (.element tag attributes children))
    (hopen : ∀ above below, rest = above ++ below → below ≠ [] →
      contents (path ++ (index + i) :: above) = none)
    (hshown : ∀ above tag attributes children, above <+: rest →
      Node.at? nodes (i :: above) = some (.element tag attributes children) →
        printer.shows tag) :
    '>' :: printer.heldWith contents tag (path ++ (index + i) :: rest) children <:+:
      printer.printAllWith contents parent path index nodes := by
  induction rest generalizing nodes path index i parent with
  | nil =>
    have hshows := hshown [] tag attributes children List.prefix_rfl hnode
    exact (content_infix_printWith hshows).trans (infix_of_printWith index hnode)
  | cons j rest ih =>
    obtain ⟨node, hfirst, hbelow⟩ := Option.bind_eq_some_iff.mp hnode
    cases node with
    | element tag' attributes' children' =>
      have hnone : contents (path ++ [index + i]) = none := hopen [] (j :: rest) rfl (by simp)
      have hshows := hshown [] tag' attributes' children' List.nil_prefix hfirst
      have hbase : path ++ (index + i) :: j :: rest = path ++ [index + i] ++ (0 + j) :: rest := by
        simp
      -- outwards from the content to the page
      have hinner : '>' :: printer.heldWith contents tag (path ++ [index + i] ++ (0 + j) :: rest)
            children <:+:
          printer.printAllWith contents (some tag') (path ++ [index + i]) 0 children' := by
        refine ih 0 hbelow (fun above below hrest hne => ?_)
          fun above tag attributes children habove hat => ?_
        · simpa using hopen (j :: above) below (by rw [hrest, List.cons_append]) hne
        · exact hshown (j :: above) tag attributes children
            (List.cons_prefix_cons.mpr ⟨rfl, habove⟩)
            (Option.bind_eq_some_iff.mpr ⟨_, hfirst, hat⟩)
      have hcontent : '>' :: printer.heldWith contents tag' (path ++ [index + i]) children' <:+:
          printer.printWith contents parent (path ++ [index + i])
            (.element tag' attributes' children') := content_infix_printWith hshows
      rw [heldWith, hnone, Option.getD_none] at hcontent
      rw [hbase]
      exact hinner.trans ((List.suffix_cons ..).isInfix.trans
        (hcontent.trans (infix_of_printWith index hfirst)))
    | text | comment | instruction | doctype | template =>
      cases rest <;> simp [Node.at?, Node.children] at hbelow

namespace Library

variable {lib : Library} {document : Document} {body : Path}

/-- All of a page with a body has in it what the body holds, behind an angle. -/
theorem Lawful.innerWith_infix_printWith (h : lib.Lawful printer) (hshown : lib.ShowsBody printer)
    (hbody : lib.bodyWith? contents document = some body) :
    '>' :: printer.innerWith contents document.nodes body <:+:
      lib.printWith printer contents true document := by
  obtain ⟨hbody, hopen⟩ := Option.filter_eq_some_iff.mp hbody
  have hopen : IsOpen contents body := of_decide_eq_true hopen
  obtain ⟨tag, attributes, children, hnode⟩ := h.body_element hbody
  rw [Printer.innerWith, hnode]
  cases body with
  | nil => cases hnode
  | cons i rest =>
    have hinfix : '>' :: printer.heldWith contents tag ([] ++ (0 + i) :: rest) children <:+:
        printer.printAllWith contents none [] 0 document.nodes := by
      refine Printer.content_infix_printAllWith 0 hnode (fun above below hrest hne => ?_)
        fun above tag attributes children habove hat => ?_
      · rw [List.nil_append, Nat.zero_add]
        refine hopen _ (Path.isAbove_iff.mpr ⟨?_, ?_⟩)
        · exact List.cons_prefix_cons.mpr ⟨rfl, hrest ▸ List.prefix_append ..⟩
        · simpa [hrest] using hne
      · exact hshown hbody (List.cons_prefix_cons.mpr ⟨rfl, habove⟩) hat
    simpa [printWith] using hinfix

theorem printWith_false (hbody : lib.bodyWith? contents document = some body) :
    lib.printWith printer contents false document =
      printer.innerWith contents document.nodes body := by
  simp only [printWith, Bool.false_eq_true, if_false, hbody]

/-- A page with a body is not the content of its body. -/
theorem Lawful.printWith_eq_true_iff (h : lib.Lawful printer) (hshown : lib.ShowsBody printer)
    (contents : Path → Option Text) (document : Document) (full : Bool) :
    lib.printWith printer contents full document = lib.printWith printer contents true document ↔
      full ∨ lib.bodyWith? contents document = none := by
  cases full with
  | true => simp
  | false =>
    cases hbody : lib.bodyWith? contents document with
    | none => simp only [printWith, hbody, ite_self, or_true]
    | some body =>
      have hne : printer.innerWith contents document.nodes body ≠
          lib.printWith printer contents true document := by
        intro heq
        have hlength := (h.innerWith_infix_printWith hshown hbody).length_le
        rw [← heq, List.length_cons] at hlength
        omega
      rw [printWith_false hbody]
      simpa using hne

end Library

end Html

-- ---------------------------------------------------------------------------
-- Before a document
-- ---------------------------------------------------------------------------

namespace Page

open Html (Node Document Library Printer filled)
open Html.Node (Path)

/-- What may stand before a document. -/
inductive Misc where
  | blank (c : Char) (hblank : Text.isBlank c)
  | comment (content : Text)
  | declaration (content : Text)

namespace Misc

def write : Misc → Text
  | .blank c _ => [c]
  | .comment content => "<!--".toList ++ content ++ "-->".toList
  | .declaration content => "<?xml".toList ++ content ++ "?>".toList

def isBlank : Misc → Bool
  | .blank .. => true
  | _ => false

end Misc

/-- A document begins with its type or with the tag of its `html` element. -/
inductive StartsDocument : Text → Prop
  | doctype (word rest : Text) (hword : Text.lowerAscii word = "!doctype".toList) :
    StartsDocument ('<' :: (word ++ rest))
  | tag (word : Text) (c : Char) (rest : Text) (hword : Text.lowerAscii word = "html".toList)
    (hend : Text.isMarkupSpace c ∨ c = '/' ∨ c = '>') : StartsDocument ('<' :: (word ++ c :: rest))

variable {items : List Misc} {rest html : Text}

theorem isFullDocument_angle (text : Text) : isFullDocument ('<' :: text) =
    ("!doctype".toList.isPrefixOf (Text.lowerAscii text) ||
      "html".toList.isPrefixOf (Text.lowerAscii text)) := rfl

theorem isFullDocument_blank {c : Char} (h : Text.isBlank c) (text : Text) :
    isFullDocument (c :: text) = isFullDocument text := by
  rw [isFullDocument, isFullDocument, Text.trimStart, List.dropWhile_cons_of_pos h, Text.trimStart]

theorem isPrefixOf_lowerAscii {word start : Text} (h : Text.lowerAscii word = start)
    (rest : Text) : start.isPrefixOf (Text.lowerAscii (word ++ rest)) := by
  rw [List.isPrefixOf_iff_prefix, Text.lowerAscii, List.map_append, ← Text.lowerAscii, h]
  exact List.prefix_append ..

theorem StartsDocument.isFullDocument_eq (h : StartsDocument text) : isFullDocument text := by
  cases h with
  | doctype word rest hword =>
    rw [isFullDocument_angle, isPrefixOf_lowerAscii hword, Bool.true_or]
  | tag word c rest hword =>
    rw [isFullDocument_angle, isPrefixOf_lowerAscii hword, Bool.or_true]

/-- A document is known by its beginning, if nothing but blanks stands before it. -/
theorem isFullDocument_eq (h : StartsDocument rest) (items : List Misc) :
    isFullDocument (items.flatMap Misc.write ++ rest) = items.all Misc.isBlank := by
  induction items with
  | nil => exact h.isFullDocument_eq
  | cons item items ih =>
    rw [List.flatMap_cons, List.append_assoc, List.all_cons]
    cases item with
    | blank c hblank => exact (isFullDocument_blank hblank _).trans ih
    | comment | declaration => rfl

theorem StartsDocument.not_isBlank (h : StartsDocument rest) (front : Text) :
    ¬isBlank (front ++ rest) := by
  intro hblank
  have hmem : '<' ∈ rest := by cases h <;> exact List.mem_cons_self
  exact absurd (List.all_eq_true.mp hblank '<' (List.mem_append_right front hmem)) (by decide)

-- ---------------------------------------------------------------------------
-- What comes back
-- ---------------------------------------------------------------------------

variable {lib : Library} {printer : Printer} {selected : List Path} {cssClass nonce : Text}
  {nonces : Nat → Text} {draws : Nat}

/-- What the outermost selected elements of a page hold. -/
def contentsOf (selected : List Path) (markup : Path → Text) : Path → Option Text :=
  filled (Path.IsOutermost selected.contains) markup

/-- All of a page comes back if nothing but blanks stands before the document, or if the page has
no body. Behind a comment or an XML declaration the page is taken for a fragment, of which the
content of the body comes back. -/
theorem highlight_whole_iff (hlib : lib.Lawful printer) (hshown : lib.ShowsBody printer)
    (hstarts : StartsDocument rest) (hhtml : html = items.flatMap Misc.write ++ rest)
    (hselected : lib.select? (lib.parse html) ('.' :: cssClass) = some selected)
    (hselect : Highlightable (lib.parse html) selected)
    (hdraw : Marker.freeNonce? nonces html = some (nonce, draws))
    (hnonce : ∀ c ∈ nonce, c.isAlphanum)
    (hholds : ¬Marker.HoldsMarker nonce
      (inPlace lib printer selected.contains (fun _ => []) html)) :
    ∃ markup : Path → Text,
      (∀ path, Path.IsOutermost selected.contains path →
        LuaMarkup.highlight (textAt (lib.parse html).nodes path) = .ok (markup path)) ∧
      ((highlight lib cssClass nonces html).2 =
          .ok (lib.printWith printer (contentsOf selected markup) true (lib.parse html)) ↔
        items.all Misc.isBlank ∨
          lib.bodyWith? (contentsOf selected markup) (lib.parse html) = none) ∧
      ∀ body, ¬items.all Misc.isBlank →
        lib.bodyWith? (contentsOf selected markup) (lib.parse html) = some body →
        (highlight lib cssClass nonces html).2 =
          .ok (printer.innerWith (contentsOf selected markup) (lib.parse html).nodes body) := by
  obtain ⟨markup, hmarkup⟩ := hselect.exists_markup
  refine ⟨markup,
    fun path hpath => hmarkup path ((mem_targets_iff hselect.ordered).mpr hpath), ?_⟩
  have hfull : isFullDocument html = items.all Misc.isBlank :=
    hhtml ▸ isFullDocument_eq hstarts items
  have hresult := highlight_eq_inPlace hlib hselected hselect hdraw hnonce hmarkup hholds
  rw [inPlace_of_not_isBlank (hhtml ▸ hstarts.not_isBlank _), ← contentsOf, hfull] at hresult
  refine ⟨?_, fun body hmisc hbody => ?_⟩
  · rw [hresult, Except.ok.injEq]
    exact hlib.printWith_eq_true_iff hshown _ _ _
  · rw [hresult, Bool.eq_false_iff.mpr hmisc, Library.printWith_false hbody]

/-- What stands before a document in `declaredPage`. -/
def declaredItems : List Misc :=
  [.declaration " version='1.0'".toList, .blank '\n' (by decide), .comment " -> ".toList,
    .blank '\t' (by decide)]

def declaredPage : Text :=
  declaredItems.flatMap Misc.write ++ "<!Doctype html><title>t</title><b class=a>if</b>".toList

theorem highlight_whole_iff_declared :
    Html.standard.Lawful Html.Standard.printer ∧
      Html.standard.ShowsBody Html.Standard.printer ∧
      StartsDocument "<!Doctype html><title>t</title><b class=a>if</b>".toList ∧
      Html.standard.select? (Html.standard.parse declaredPage) ".a".toList = some [[3, 1, 0]] ∧
      Highlightable (Html.standard.parse declaredPage) [[3, 1, 0]] ∧
      Marker.freeNonce? (fun _ => ['k']) declaredPage = some (['k'], 1) ∧
      (∀ c ∈ ['k'], c.isAlphanum) ∧
      ¬Marker.HoldsMarker ['k'] (inPlace Html.standard Html.Standard.printer
        (List.contains [[3, 1, 0]]) (fun _ => []) declaredPage) ∧
      ¬declaredItems.all Misc.isBlank ∧
      ∃ markup : Path → Text,
        (∀ path, Path.IsOutermost (List.contains [[3, 1, 0]]) path →
          LuaMarkup.highlight (textAt (Html.standard.parse declaredPage).nodes path) =
            .ok (markup path)) ∧
        (highlight Html.standard ['a'] (fun _ => ['k']) declaredPage).2 =
          .ok (Html.Standard.printer.innerWith (contentsOf [[3, 1, 0]] markup)
            (Html.standard.parse declaredPage).nodes [3, 1]) := by
  have hstarts : StartsDocument "<!Doctype html><title>t</title><b class=a>if</b>".toList :=
    .doctype "!Doctype".toList _ (by decide)
  have hselected : Html.standard.select? (Html.standard.parse declaredPage) ".a".toList =
      some [[3, 1, 0]] := by decide +kernel
  have hselect : Highlightable (Html.standard.parse declaredPage) [[3, 1, 0]] :=
    ⟨countable_of_le (by decide +kernel), by decide, by decide +kernel⟩
  have hdraw : Marker.freeNonce? (fun _ => ['k']) declaredPage = some (['k'], 1) := by
    decide +kernel
  have hnonce : ∀ c ∈ ['k'], c.isAlphanum := by decide
  have hholds : ¬Marker.HoldsMarker ['k'] (inPlace Html.standard Html.Standard.printer
      (List.contains [[3, 1, 0]]) (fun _ => []) declaredPage) :=
    Marker.not_holdsMarker_of_isFree (by decide +kernel)
  have hmisc : ¬declaredItems.all Misc.isBlank := by decide
  have hpage : declaredPage = declaredItems.flatMap Misc.write ++
      "<!Doctype html><title>t</title><b class=a>if</b>".toList := rfl
  obtain ⟨markup, hmarkup, -, hinner⟩ := highlight_whole_iff Html.Standard.lawful
    Html.Standard.showsBody hstarts hpage hselected hselect hdraw hnonce hholds
  refine ⟨Html.Standard.lawful, Html.Standard.showsBody, hstarts, hselected, hselect, hdraw,
    hnonce, hholds, hmisc, markup, hmarkup, hinner [3, 1] hmisc ?_⟩
  rw [contentsOf, Html.standard.bodyWith?_filled _ _ fun _ => []]
  decide +kernel

/-- A page with its head and its document type behind a comment. -/
def commentedPage : Text :=
  Misc.write (.comment " c ".toList) ++
    ("<!DOCTYPE html><html><head><title>t</title></head>".toList ++
      "<body><p>x</p></body></html>".toList)

/-- The page is a document and is printed as it is written, but what its body holds is all that
comes back of it. -/
theorem commented_document_loses_head :
    StartsDocument (commentedPage.drop 10) ∧
      Html.standard.print? (Html.standard.parse commentedPage) = some commentedPage ∧
      (highlight Html.standard defaultClass.toList (Page.nonces 0) commentedPage).2 =
        .ok "<p>x</p>".toList := by
  refine ⟨.doctype "!DOCTYPE".toList _ (by decide), ?_, ?_⟩ <;> decide +kernel

end Page
end LuaMarkup
