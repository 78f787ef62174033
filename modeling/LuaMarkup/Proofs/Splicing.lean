import LuaMarkup.Proofs.Contents
import LuaMarkup.Proofs.Except

/-!
# Splicing a printed page

A page is printed as a text with a gap behind the tag of each chosen element (`Gapped`). No marker
reaches over the end of a tag, so what is spliced into a gap does not depend on the text around it:
`Library.Lawful.splice_printWith` and `Library.Lawful.splice_printWith_error_iff`.
-/

namespace LuaMarkup.Html

open Node (Path)

/-- Printing in which the contents of chosen elements stand in gaps, each behind the end of a
tag. -/
inductive Gapped (chosen : Path → Prop) : ((Path → Text) → Text) → Prop
  | text (t : Text) : Gapped chosen fun _ => t
  | gap (before : Text) (path : Path) {behind : (Path → Text) → Text} (hpath : chosen path)
      (hbehind : Gapped chosen behind) :
    Gapped chosen fun content => before ++ '>' :: (content path ++ behind content)

variable {chosen : Path → Prop} {g h : (Path → Text) → Text}

theorem Gapped.text_append (t : Text) (hg : Gapped chosen g) :
    Gapped chosen fun content => t ++ g content := by
  cases hg with
  | text t' => exact .text (t ++ t')
  | gap before path hpath hbehind =>
    simpa only [List.append_assoc] using Gapped.gap (t ++ before) path hpath hbehind

theorem Gapped.append (hg : Gapped chosen g) (hh : Gapped chosen h) :
    Gapped chosen fun content => g content ++ h content := by
  induction hg with
  | text t => exact hh.text_append t
  | gap before path hpath _ ih =>
    simpa only [List.append_assoc, List.cons_append] using Gapped.gap before path hpath ih

-- ---------------------------------------------------------------------------
-- Printed pages
-- ---------------------------------------------------------------------------

/-- Contents for the chosen elements. -/
def filled (chosen : Path → Prop) [DecidablePred chosen] (content : Path → Text) (path : Path) :
    Option Text :=
  if chosen path then some (content path) else none

section
variable [DecidablePred chosen] (printer : Printer)

mutual
theorem Printer.gapped_printWith (parent : Option Tag) (path : Path) (node : Node) :
    Gapped chosen fun content => printer.printWith (filled chosen content) parent path node := by
  match node with
  | .element tag attributes children =>
    by_cases hpath : chosen path
    · simp only [printWith, filled, if_pos hpath]
      cases printer.shows tag with
      | true => exact .gap _ path hpath (.text _)
      | false =>
        simp only [Bool.false_eq_true, if_false]
        exact .text _
    · simp only [printWith, filled, if_neg hpath]
      cases printer.shows tag with
      | true =>
        have hinner := (gapped_printAllWith (some tag) path 0 children).append
          (.text (printer.endTag tag))
        exact .text_append _ (hinner.text_append ['>'])
      | false =>
        simp only [Bool.false_eq_true, if_false]
        exact .text _
  | .template attributes content =>
    by_cases hpath : chosen path
    · simp only [printWith, filled, if_pos hpath, Option.isSome_some]
      exact .text _
    · simp only [printWith, filled, if_neg hpath, Option.isSome_none]
      exact .text _
  | .text _ | .comment _ | .instruction .. | .doctype _ => exact .text _

theorem Printer.gapped_printAllWith (parent : Option Tag) (path : Path) (index : Nat)
    (nodes : List Node) : Gapped chosen fun content =>
      printer.printAllWith (filled chosen content) parent path index nodes := by
  match nodes with
  | [] => exact .text []
  | node :: rest =>
    exact (gapped_printWith parent _ node).append (gapped_printAllWith parent path (index + 1) rest)
end

/-- Where the body is does not depend on what the contents are. -/
theorem Library.bodyWith?_filled (lib : Library) (document : Document)
    (content content' : Path → Text) :
    lib.bodyWith? (filled chosen content) document =
      lib.bodyWith? (filled chosen content') document := by
  have hnone : ∀ path, filled chosen content path = none ↔ filled chosen content' path = none := by
    intro path
    rw [filled, filled]
    split <;> simp
  rw [bodyWith?, bodyWith?]
  congr 1
  funext path
  exact decide_eq_decide.mpr (forall_congr' fun above => imp_congr_right fun _ => hnone above)

variable {lib : Library} {printer}

/-- A page is printed with gaps, unless it is one gap, the body. -/
theorem Library.Lawful.gapped_printWith (h : lib.Lawful printer) (document : Document)
    (chosen : Path → Prop) [DecidablePred chosen] (full : Bool) :
    (Gapped chosen fun content =>
        lib.printWith printer (filled chosen content) full document) ∨
      ∃ path, chosen path ∧
        ∀ content, lib.printWith printer (filled chosen content) full document = content path := by
  have hbody : ∀ content, lib.bodyWith? (filled chosen content) document =
      lib.bodyWith? (filled chosen fun _ => []) document :=
    fun content => lib.bodyWith?_filled document content fun _ => []
  simp only [printWith, hbody]
  split
  · rename_i path hpath
    obtain ⟨tag, attributes, children, hnode⟩ : ∃ tag attributes children,
        Node.at? document.nodes path = some (.element tag attributes children) := by
      cases full with
      | true => cases hpath
      | false => exact h.body_element (Option.filter_eq_some_iff.mp hpath).1
    simp only [Printer.innerWith, Printer.heldWith, hnode]
    by_cases hpath : chosen path
    · exact .inr ⟨path, hpath, fun content => by rw [filled, if_pos hpath, Option.getD_some]⟩
    · left
      simp only [filled, if_neg hpath, Option.getD_none]
      exact printer.gapped_printAllWith (some tag) path 0 children
  · exact .inl (printer.gapped_printAllWith none [] 0 document.nodes)

end

-- ---------------------------------------------------------------------------
-- Markers in the gaps
-- ---------------------------------------------------------------------------

variable {nonce : Text} {markups : Array Text} {index : Path → Nat} {content : Path → Text}

/-- The markup of each chosen element can be found by its number. -/
def Finds (chosen : Path → Prop) (markups : Array Text) (index : Path → Nat)
    (content : Path → Text) : Prop :=
  ∀ path, chosen path → index path < 10 ^ maxDigits ∧ markups[index path]? = some (content path)

/-- The page around markers is spliced as the page with nothing in the gaps. -/
theorem Gapped.splice_error_iff (hg : Gapped chosen g) (hnonce : ∀ c ∈ nonce, c.isAlphanum)
    (hfinds : Finds chosen markups index content) (cause : SpliceError) :
    Marker.splice markups nonce (g fun path => Marker.write nonce (index path)) = .error cause ↔
      Marker.splice markups nonce (g fun _ => []) = .error cause := by
  have hangle := Marker.parts_angle hnonce (.inr rfl)
  induction hg with
  | text t => rfl
  | gap before path hpath _ ih =>
    obtain ⟨hindex, hfound⟩ := hfinds path hpath
    rw [Marker.splice_append_cons hangle, Marker.splice_append_cons hangle,
      Marker.splice_write_append hindex hfound, List.nil_append]
    cases Marker.splice markups nonce before with
    | error _ => rfl
    | ok front =>
      change ((Marker.splice markups nonce _ >>= _) >>= _) = _ ↔ _
      rw [bind_assoc]
      exact bind_pure_eq_error_iff.trans (ih.trans bind_pure_eq_error_iff.symm)

/-- Each marker gives way to the markup of its element, and the page around the markers stays. -/
theorem Gapped.splice (hg : Gapped chosen g) (hnonce : ∀ c ∈ nonce, c.isAlphanum)
    (hfinds : Finds chosen markups index content)
    (hfree : ¬Marker.HoldsMarker nonce (g fun _ => [])) :
    Marker.splice markups nonce (g fun path => Marker.write nonce (index path)) =
      .ok (g content) := by
  have hangle := Marker.parts_angle hnonce (.inr rfl)
  induction hg with
  | text t => exact Marker.splice_of_not_holdsMarker hfree
  | gap before path hpath _ ih =>
    obtain ⟨hindex, hfound⟩ := hfinds path hpath
    rw [Marker.splice_append_cons hangle, Marker.splice_write_append hindex hfound,
      Marker.splice_of_not_holdsMarker fun h => hfree (h.mono (List.prefix_append ..).isInfix),
      ih fun h => hfree (h.mono (List.IsSuffix.isInfix ⟨before ++ ['>'], by simp⟩))]
    rfl

variable [DecidablePred chosen] {lib : Library} {printer : Printer} {document : Document}
  {full : Bool}

theorem Library.Lawful.splice_printWith_error_iff (h : lib.Lawful printer)
    (hnonce : ∀ c ∈ nonce, c.isAlphanum) (hfinds : Finds chosen markups index content)
    (cause : SpliceError) :
    Marker.splice markups nonce (lib.printWith printer
        (filled chosen fun path => Marker.write nonce (index path)) full document) =
          .error cause ↔
      Marker.splice markups nonce
        (lib.printWith printer (filled chosen fun _ => []) full document) = .error cause := by
  rcases h.gapped_printWith document chosen full with hg | ⟨path, hpath, hall⟩
  · exact hg.splice_error_iff hnonce hfinds cause
  · obtain ⟨hindex, hfound⟩ := hfinds path hpath
    rw [hall, hall, Marker.splice_write hindex hfound, Marker.splice_nil]
    exact ⟨nofun, nofun⟩

theorem Library.Lawful.splice_printWith (h : lib.Lawful printer)
    (hnonce : ∀ c ∈ nonce, c.isAlphanum) (hfinds : Finds chosen markups index content)
    (hfree : ¬Marker.HoldsMarker nonce
      (lib.printWith printer (filled chosen fun _ => []) full document)) :
    Marker.splice markups nonce (lib.printWith printer
        (filled chosen fun path => Marker.write nonce (index path)) full document) =
      .ok (lib.printWith printer (filled chosen content) full document) := by
  rcases h.gapped_printWith document chosen full with hg | ⟨path, hpath, hall⟩
  · exact hg.splice hnonce hfinds hfree
  · obtain ⟨hindex, hfound⟩ := hfinds path hpath
    rw [hall, hall, Marker.splice_write hindex hfound]

end LuaMarkup.Html
