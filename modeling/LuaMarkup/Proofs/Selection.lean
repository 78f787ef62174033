import Mathlib
import LuaMarkup.Forest
import LuaMarkup.Html.Node

/-!
# Nested selections

`outermost_eq_filter`: of a selection that lists each node after those above it (`TopDown`), just
those are kept that have no other selected one above them, although a node is compared with those
kept so far only. Paths in the order of a document are so (`Path.topDown`).
-/

namespace LuaMarkup

-- ---------------------------------------------------------------------------
-- Selections in order
-- ---------------------------------------------------------------------------

section
variable {isAbove : α → α → Bool} {selected : List α}

theorem outermost_concat (isAbove : α → α → Bool) (selected : List α) (node : α) :
    outermost isAbove (selected ++ [node]) =
      if (outermost isAbove selected).any (isAbove · node) then outermost isAbove selected
      else outermost isAbove selected ++ [node] := by
  rw [outermost, List.foldl_append, List.foldl_cons, List.foldl_nil]
  rfl

/-- What is not kept lies below something that is. -/
theorem mem_outermost_or_exists_above (isAbove : α → α → Bool) (hmem : node ∈ selected) :
    node ∈ outermost isAbove selected ∨
      ∃ kept ∈ outermost isAbove selected, isAbove kept node := by
  induction selected using List.reverseRecOn with
  | nil => cases hmem
  | append_singleton selected last ih =>
    rw [outermost_concat]
    split
    · rename_i hbelow
      rcases List.mem_append.mp hmem with hmem | hmem
      · exact ih hmem
      · obtain rfl := List.mem_singleton.mp hmem
        exact .inr (List.any_eq_true.mp hbelow)
    · rcases List.mem_append.mp hmem with hmem | hmem
      · refine (ih hmem).imp (List.mem_append_left _) fun ⟨kept, hkept, habove⟩ => ?_
        exact ⟨kept, List.mem_append_left _ hkept, habove⟩
      · exact .inl (List.mem_append_right _ hmem)

theorem mem_of_mem_outermost (hmem : node ∈ outermost isAbove selected) : node ∈ selected := by
  induction selected using List.reverseRecOn with
  | nil => exact hmem
  | append_singleton selected last ih =>
    rw [outermost_concat] at hmem
    split at hmem
    · exact List.mem_append_left _ (ih hmem)
    · exact List.mem_append.mpr ((List.mem_append.mp hmem).imp_left ih)

/-- What is listed above a node is listed before it. -/
def TopDown (above : α → α → Prop) (selected : List α) : Prop :=
  ∀ i, ∀ hi : i < selected.length, ∀ a ∈ selected, above a selected[i] → a ∈ selected.take i

instance [DecidableEq α] (above : α → α → Prop) [DecidableRel above] (selected : List α) :
    Decidable (TopDown above selected) :=
  inferInstanceAs (Decidable (∀ i, ∀ hi : i < selected.length, ∀ a ∈ selected,
    above a selected[i] → a ∈ selected.take i))

theorem TopDown.of_concat {above : α → α → Prop} {last : α}
    (h : TopDown above (selected ++ [last])) : TopDown above selected ∧
      ∀ node ∈ selected ++ [last], ∀ a ∈ selected ++ [last], above a node → a ∈ selected := by
  have hbefore : ∀ i, ∀ hi : i < (selected ++ [last]).length, ∀ a ∈ selected ++ [last],
      above a (selected ++ [last])[i] → a ∈ selected.take i := by
    intro i hi a ha habove
    have hle : i ≤ selected.length := by simpa [Nat.lt_succ_iff] using hi
    rw [← List.take_append_of_le_length hle]
    exact h i hi a ha habove
  refine ⟨fun i hi a ha habove => ?_, fun node hnode a ha habove => ?_⟩
  · refine hbefore i (by simp; omega) a (List.mem_append_left _ ha) ?_
    rwa [List.getElem_append_left hi]
  · obtain ⟨i, hi, rfl⟩ := List.mem_iff_getElem.mp hnode
    exact List.mem_of_mem_take (hbefore i hi a ha habove)

theorem TopDown.of_pairwise {above : α → α → Prop} (hself : ∀ a, ¬above a a)
    (h : selected.Pairwise fun a b => ¬above b a) : TopDown above selected := by
  intro i hi a ha habove
  obtain ⟨j, hj, rfl⟩ := List.mem_iff_getElem.mp ha
  rw [List.mem_take_iff_getElem]
  rcases Nat.lt_trichotomy j i with hlt | rfl | hgt
  · exact ⟨j, by omega, rfl⟩
  · exact absurd habove (hself _)
  · exact absurd habove (List.pairwise_iff_getElem.mp h i j hi hj hgt)

/-- Those kept are the ones without a selected node above them. -/
theorem outermost_eq_filter
    (htrans : ∀ {a b c}, isAbove a b → isAbove b c → isAbove a c)
    (hsorted : TopDown (isAbove · ·) selected) :
    outermost isAbove selected =
      selected.filter fun node => !selected.any (isAbove · node) := by
  induction selected using List.reverseRecOn with
  | nil => rfl
  | append_singleton selected last ih =>
    obtain ⟨hsorted, hearlier⟩ := hsorted.of_concat
    have hsame : ∀ node ∈ selected ++ [last],
        (selected ++ [last]).any (isAbove · node) = selected.any (isAbove · node) := by
      intro node hnode
      rw [Bool.eq_iff_iff, List.any_eq_true, List.any_eq_true]
      constructor
      · rintro ⟨above, hmem, habove⟩
        exact ⟨above, hearlier node hnode above hmem habove, habove⟩
      · rintro ⟨above, hmem, habove⟩
        exact ⟨above, List.mem_append_left _ hmem, habove⟩
    -- whatever lies above the last node is kept or has a kept node above it
    have hkept : (outermost isAbove selected).any (isAbove · last) =
        selected.any (isAbove · last) := by
      rw [Bool.eq_iff_iff, List.any_eq_true, List.any_eq_true]
      constructor
      · rintro ⟨kept, hmem, habove⟩
        exact ⟨kept, mem_of_mem_outermost hmem, habove⟩
      · rintro ⟨node, hmem, habove⟩
        rcases mem_outermost_or_exists_above isAbove hmem with hkept | ⟨kept, hkept, habove'⟩
        · exact ⟨node, hkept, habove⟩
        · exact ⟨kept, hkept, htrans habove' habove⟩
    rw [outermost_concat, List.filter_congr fun node hnode => by rw [hsame node hnode],
      List.filter_append, List.filter_cons, List.filter_nil, ← hkept, ← ih hsorted]
    cases (outermost isAbove selected).any (isAbove · last) <;> simp

end

-- ---------------------------------------------------------------------------
-- Paths
-- ---------------------------------------------------------------------------

namespace Html.Node.Path

theorem isAbove_iff {above path : Path} : isAbove above path ↔ above <+: path ∧ above ≠ path := by
  rw [isAbove, Bool.and_eq_true, decide_eq_true_eq, List.isPrefixOf_iff_prefix, and_comm]
  refine and_congr_right fun hinit => ⟨fun hlt heq => ?_, fun hne => ?_⟩
  · rw [heq] at hlt
    exact Nat.lt_irrefl _ hlt
  · exact Nat.lt_of_le_of_ne hinit.length_le fun hlen => hne (hinit.eq_of_length hlen)

theorem isAbove_trans {a b c : Path} (hab : isAbove a b) (hbc : isAbove b c) : isAbove a c := by
  obtain ⟨hab, -⟩ := isAbove_iff.mp hab
  obtain ⟨hbc, hne⟩ := isAbove_iff.mp hbc
  refine isAbove_iff.mpr ⟨hab.trans hbc, ?_⟩
  rintro rfl
  exact hne (hbc.eq_of_length (hbc.length_le.antisymm hab.length_le))

theorem not_isAbove_self (a : Path) : ¬isAbove a a := fun h => (isAbove_iff.mp h).2 rfl

-- Paths are ordered as the nodes are in the document, each before those below it.

theorem lt_of_isAbove {a b : Path} (h : isAbove a b) : a < b := by
  obtain ⟨⟨rest, rfl⟩, hne⟩ := isAbove_iff.mp h
  cases rest with
  | nil => exact absurd (List.append_nil a).symm hne
  | cons i rest =>
    have hlt : a ++ [] < a ++ i :: rest := List.append_left_lt (List.nil_lt_cons i rest)
    rwa [List.append_nil] at hlt

theorem lt_sibling {i j : Nat} (h : i < j) (path s t : Path) :
    path ++ i :: s < path ++ j :: t :=
  List.append_left_lt (List.cons_lt_cons_iff.mpr (.inl h))

/-- Paths in the order of a document. -/
theorem topDown {selected : List Path} (h : selected.Pairwise (· < ·)) :
    TopDown (isAbove · ·) selected :=
  .of_pairwise not_isAbove_self <| h.imp fun hlt habove =>
    List.lt_irrefl _ (List.lt_trans hlt (lt_of_isAbove habove))

/-- Chosen, and in no other chosen node. -/
def IsOutermost (chosen : Path → Bool) (path : Path) : Prop :=
  chosen path ∧ ∀ above, isAbove above path → ¬chosen above

instance (chosen : Path → Bool) : DecidablePred (IsOutermost chosen) := fun path =>
  decidable_of_iff (chosen path ∧ ∀ above ∈ path.inits, isAbove above path → ¬chosen above) <|
    and_congr_right fun _ =>
      ⟨fun h above habove =>
        h above ((List.mem_inits ..).mpr (isAbove_iff.mp habove).1) habove,
       fun h above _ => h above⟩

end Html.Node.Path

end LuaMarkup
