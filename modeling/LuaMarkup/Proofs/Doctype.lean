import LuaMarkup.Proofs.Settled
import Mathlib

/-!
# What makes a page an old one

`Document.old_parse`: a page is of the old kind if the document type that it starts with is, or if
it starts with none. Before the document type there may be blanks, comments and instructions.
-/

namespace LuaMarkup.Html

-- ---------------------------------------------------------------------------
-- Tokens take characters
-- ---------------------------------------------------------------------------

namespace Token

theorem length_cutAtMarkup (text : Text) :
    (cutAtMarkup text).1.length + (cutAtMarkup text).2.length = text.length := by
  induction text with
  | nil => rfl
  | cons c rest ih =>
    rw [cutAtMarkup]
    split
    · simp
    · simp only [List.length_cons]
      omega

theorem length_scanToEnd_le (text : Text) : (scanToEnd text).2.length ≤ text.length := by
  rw [scanToEnd, List.length_drop]
  exact (Nat.sub_le ..).trans (length_dropWhile_le _ text)

theorem length_commentBody_le (done text : Text) :
    (commentBody done text).2.length ≤ text.length := by
  fun_induction commentBody done text with
  | case1 => simp
  | case2 => simp; omega
  | case3 => simp; omega
  | case4 _ _ _ _ _ ih => exact ih.trans (by simp)

theorem length_scanComment_le (text : Text) : (scanComment text).2.length ≤ text.length := by
  unfold scanComment
  split
  · simp
  · simp; omega
  · exact length_commentBody_le [] text

/-- Whether a token can stand before a document type. -/
def isProlog : Token → Bool
  | .comment _ | .instruction .. => true
  | .textRun content => content.all Text.isMarkupSpace
  | _ => false

theorem length_scanTag_le {isEnd : Bool} {text : Text} (h : (scanTag isEnd text).1.isProlog) :
    (scanTag isEnd text).2.length ≤ text.length := by
  unfold scanTag at h ⊢
  split at h
  · cases isEnd <;> cases h
  · exact Nat.zero_le _

theorem length_scanDeclaration_le {text : Text} (h : (scanDeclaration false text).1.isProlog) :
    (scanDeclaration false text).2.length ≤ text.length := by
  unfold scanDeclaration at h ⊢
  split
  case h_1 rest hafter =>
    have hrest := Text.length_after?_le hafter
    exact (length_scanComment_le rest).trans (Nat.le_of_add_right_le hrest.le)
  case h_2 hafter =>
    rw [hafter] at h
    dsimp only at h
    split
    case h_1 rest hword =>
      rw [hword] at h
      cases h
    case h_2 => exact length_scanToEnd_le text

theorem length_scanMarkup_le {text : Text} :
    (scanMarkup false text).1.isProlog → (scanMarkup false text).2.length ≤ text.length := by
  unfold scanMarkup
  split
  case h_1 => exact fun _ => (Nat.le_succ _).trans (Nat.le_succ _)
  case h_2 c rest _ =>
    split
    case isTrue => exact fun h => (length_scanTag_le h).trans (Nat.le_succ _)
    case isFalse => exact fun _ => (length_scanToEnd_le (c :: rest)).trans (Nat.le_succ _)
  case h_3 rest => exact fun h => (length_scanDeclaration_le h).trans (Nat.le_succ _)
  case h_4 rest => exact fun _ => (length_scanToEnd_le rest).trans (Nat.le_succ _)
  case h_5 => exact fun h => length_scanTag_le h

/-- Each of these tokens takes a character. -/
theorem length_lt_of_next? {text rest : Text} {token : Token}
    (h : next? (.markup false) text = some (token, rest)) (hprolog : token.isProlog) :
    rest.length < text.length := by
  cases text with
  | nil => cases h
  | cons c text =>
    simp only [next?, Option.some.injEq, cutAtMarkup] at h
    by_cases hmarkup : c = '<' ∧ opensMarkup text
    · rw [if_pos hmarkup, hmarkup.1] at h
      have hscan : scanMarkup false text = (token, rest) := h
      have hle : (scanMarkup false text).2.length ≤ text.length :=
        length_scanMarkup_le (by rwa [hscan])
      rw [hscan] at hle
      exact Nat.lt_succ_of_le hle
    · have hcut := length_cutAtMarkup text
      rw [if_neg hmarkup] at h
      cases h
      simp only [List.length_cons]
      omega

end Token

-- ---------------------------------------------------------------------------
-- The start of a page
-- ---------------------------------------------------------------------------

def Token.doctype? : Token → Option Doctype
  | .doctype declaration => some declaration
  | _ => none

/-- The document type that a text starts with, if what is before it can stand there. -/
def declarationIn? : (fuel : Nat) → Text → Option Doctype
  | 0, _ => none
  | fuel + 1, text =>
    match Token.next? (.markup false) text with
    | some (token, rest) => if token.isProlog then declarationIn? fuel rest else token.doctype?
    | none => none

def Document.declaration? (page : Text) : Option Doctype :=
  let text := Text.unifyLineEnds page
  declarationIn? (text.length + 1) text

/-- Whether a page with such a document type, or with none, is of the old kind. -/
def isOldWith (declaration : Option Doctype) : Bool :=
  (declaration.map Doctype.isOld).getD true

namespace Reading

/-- The reading has not left its first mode. -/
structure Fresh (r : Reading) : Prop where
  mode_eq : r.mode = .initial
  opened_eq : r.opened = []
  textMode_eq : r.textMode = .markup false
  dropLineFeed_eq : r.dropLineFeed = false
  returnMode_ne : r.returnMode ≠ .initial
  templateModes_ne : .initial ∉ r.templateModes

theorem fresh_empty : ({} : Reading).Fresh := by
  constructor <;> simp

variable {r : Reading} {token : Token}

theorem Fresh.settled (h : r.Fresh) (old : Bool) :
    { r with mode := .beforeHtml, old }.Settled old :=
  ⟨rfl, nofun, h.returnMode_ne, h.templateModes_ne⟩

theorem Fresh.insert (h : r.Fresh) (kind : Scaffold.Kind) : (r.insert kind).Fresh :=
  ⟨h.mode_eq, h.opened_eq, h.textMode_eq, h.dropLineFeed_eq, h.returnMode_ne, h.templateModes_ne⟩

theorem Fresh.currentTextMode (h : r.Fresh) : r.currentTextMode = .markup false := by
  rw [Reading.currentTextMode, h.textMode_eq, h.opened_eq]

theorem Fresh.placeOnce_eq (h : r.Fresh) (token : Token) :
    r.placeOnce token = r.placeInitial token := by
  rw [placeOnce, h.opened_eq]
  simp only [placeByMode, h.mode_eq]

theorem Fresh.place_eq (h : r.Fresh) (token : Token) : r.place token = placeWith 16 r token := by
  have hsame : { r with dropLineFeed := false } = r := by
    rw [← h.dropLineFeed_eq]
  have hfeed : r.withoutLineFeed token = (r, token) := by
    unfold withoutLineFeed
    split
    · rfl
    · rw [hsame, h.dropLineFeed_eq]
      rfl
    · rw [hsame]
  rw [place, hfeed]
  dsimp only
  rw [h.opened_eq]
  rfl

theorem Fresh.place_of_isProlog (h : r.Fresh) (hprolog : token.isProlog) :
    (r.place token).Fresh := by
  rw [h.place_eq, placeWith, h.placeOnce_eq]
  cases token with
  | comment content => exact h.insert (.comment content)
  | instruction target content => exact h.insert (.instruction target content)
  | textRun content =>
    have hblank : content.dropWhile Text.isMarkupSpace = [] :=
      List.dropWhile_eq_nil_iff.mpr (List.all_eq_true.mp hprolog)
    simp only [placeInitial, hblank, List.isEmpty_nil, if_true]
    exact h
  | _ => cases hprolog

/-- What cannot stand before a document type is one, or leaves the page without one. -/
theorem Fresh.place_of_not_isProlog (h : r.Fresh) (hprolog : ¬token.isProlog) :
    (r.place token).Settled (isOldWith token.doctype?) := by
  rw [h.place_eq]
  apply settled_placeWith
  rw [h.placeOnce_eq]
  cases token with
  | comment | instruction => exact absurd rfl hprolog
  | doctype => exact ⟨rfl, nofun, h.returnMode_ne, h.templateModes_ne⟩
  | textRun content =>
    have hrest : ¬(content.dropWhile Text.isMarkupSpace).isEmpty := by
      rwa [List.isEmpty_iff, List.dropWhile_eq_nil_iff, ← List.all_eq_true]
    simp only [placeInitial, hrest]
    exact h.settled true
  | startTag | endTag | pageEnd => exact h.settled true

theorem Fresh.old_readAll (h : r.Fresh) {fuel : Nat} {text : Text} (hfuel : text.length < fuel) :
    (readAll fuel r text).old = isOldWith (declarationIn? fuel text) := by
  induction fuel generalizing r text with
  | zero => cases hfuel
  | succ fuel ih =>
    rw [readAll, declarationIn?, h.currentTextMode]
    rcases hnext : Token.next? (.markup false) text with _ | ⟨token, rest⟩
    · have hend : ¬Token.isProlog .pageEnd := nofun
      exact (h.place_of_not_isProlog hend).old_eq
    · by_cases hprolog : token.isProlog
      · have hlt := Token.length_lt_of_next? hnext hprolog
        simp only [hprolog, if_true]
        exact ih (h.place_of_isProlog hprolog) (Nat.lt_of_lt_of_le hlt (Nat.le_of_lt_succ hfuel))
      · simp only [hprolog]
        exact ((h.place_of_not_isProlog hprolog).readAll fuel rest).old_eq

end Reading

/-- The document type decides on the kind of the page. -/
theorem Document.old_parse (page : Text) :
    (parse page).old = isOldWith (declaration? page) :=
  Reading.fresh_empty.old_readAll (Nat.lt_succ_self _)

example : Document.declaration? " <!-- 1 --><!Doctype HTML><p>".toList =
    some { name := "html", publicId := none, systemId := none, broken := false } := by
  decide +kernel

end LuaMarkup.Html
