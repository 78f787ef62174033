import LuaMarkup.Proofs.Selection

/-!
# Nodes and their ancestors

`Forest.isAbove` looks for an ancestor among as many as the forest has nodes. That is far enough: a
longer way up comes by some node twice, and without the loop it is shorter (`isAbove_iff`). So
a selection that lists each node after its ancestors keeps just those of which no ancestor
is listed (`outermost_keeps_unnested`), with all their repetitions.
-/

namespace LuaMarkup
namespace Forest

def parent? (forest : Forest) (node : Nat) : Option Nat :=
  forest.parents[node]?.join

/-- The node `k` steps up. -/
def ancestor? (forest : Forest) : (k node : Nat) → Option Nat
  | 0, node => some node
  | k + 1, node => (forest.parent? node).bind (forest.ancestor? k)

/-- A proper ancestor, however far up. -/
def Above (forest : Forest) (above node : Nat) : Prop :=
  Relation.TransGen (fun child parent => forest.parent? child = some parent) node above

variable {forest : Forest} {node above : Nat}

theorem lt_size_of_parent? (h : forest.parent? node = some parent) :
    node < forest.parents.size :=
  (Array.getElem?_eq_some_iff.mp (Option.join_eq_some_iff.mp h)).1

theorem climb_succ (forest : Forest) (steps node : Nat) :
    forest.climb (steps + 1) node =
      match forest.parent? node with
      | some parent => parent :: forest.climb steps parent
      | none => [] := by
  rw [climb, parent?]
  rcases forest.parents[node]? with _ | _ | parent <;> rfl

theorem ancestor?_add (j k node : Nat) :
    forest.ancestor? (j + k) node = (forest.ancestor? j node).bind (forest.ancestor? k) := by
  induction j generalizing node with
  | zero => simp [ancestor?]
  | succ j ih =>
    rw [Nat.add_right_comm, ancestor?, ancestor?, Option.bind_assoc]
    exact Option.bind_congr fun parent _ => ih parent

theorem above_iff : forest.Above above node ↔ ∃ k, forest.ancestor? (k + 1) node = some above := by
  constructor
  · intro h
    induction h using Relation.TransGen.head_induction_on with
    | single hparent => exact ⟨0, by simp [ancestor?, hparent]⟩
    | head hparent _ ih =>
      obtain ⟨k, hk⟩ := ih
      exact ⟨k + 1, by rw [ancestor?, hparent, Option.bind_some, hk]⟩
  · rintro ⟨k, hk⟩
    induction k generalizing node with
    | zero =>
      obtain ⟨parent, hparent, heq⟩ := Option.bind_eq_some_iff.mp hk
      obtain rfl := Option.some.inj heq
      exact .single hparent
    | succ k ih =>
      obtain ⟨parent, hparent, hk⟩ := Option.bind_eq_some_iff.mp hk
      exact .head hparent (ih hk)

/-- A way up that comes by a node twice has a shorter one. -/
theorem ancestor?_without_loop (h : forest.ancestor? (k + 1) node = some above) (hij : i < j)
    (hj : j ≤ k) (hloop : forest.ancestor? i node = forest.ancestor? j node) :
    forest.ancestor? (k - (j - i) + 1) node = some above := by
  rw [show k - (j - i) + 1 = i + (k + 1 - j) by omega, ancestor?_add, hloop, ← ancestor?_add,
    show j + (k + 1 - j) = k + 1 by omega, h]

theorem exists_ancestor?_lt_size (h : forest.ancestor? (k + 1) node = some above) :
    ∃ j < forest.parents.size, forest.ancestor? (j + 1) node = some above := by
  induction k using Nat.strong_induction_on with
  | _ k ih =>
    by_cases hlt : k < forest.parents.size
    · exact ⟨k, hlt, h⟩
    -- all nodes on the way up have parents
    have hway : ∀ i ∈ Finset.range (k + 1),
        forest.ancestor? i node ∈ (Finset.range forest.parents.size).map .some := by
      intro i hi
      rw [Finset.mem_range] at hi
      rw [show k + 1 = i + ((k - i) + 1) by omega, ancestor?_add] at h
      obtain ⟨v, hv, hrest⟩ := Option.bind_eq_some_iff.mp h
      obtain ⟨parent, hparent, -⟩ := Option.bind_eq_some_iff.mp hrest
      rw [hv]
      simpa using lt_size_of_parent? hparent
    have hcard : ((Finset.range forest.parents.size).map .some).card <
        (Finset.range (k + 1)).card := by
      rw [Finset.card_map, Finset.card_range, Finset.card_range]
      omega
    obtain ⟨i, hi, j, hj, hne, hloop⟩ := Finset.exists_ne_map_eq_of_card_lt_of_maps_to hcard hway
    rw [Finset.mem_range] at hi hj
    rcases Nat.lt_or_gt_of_ne hne with hij | hji
    · exact ih _ (by omega) (ancestor?_without_loop h hij (by omega) hloop)
    · exact ih _ (by omega) (ancestor?_without_loop h hji (by omega) hloop.symm)

theorem mem_climb_iff : above ∈ forest.climb steps node ↔
    ∃ k < steps, forest.ancestor? (k + 1) node = some above := by
  induction steps generalizing node with
  | zero => simp [climb]
  | succ steps ih =>
    rw [climb_succ, Nat.exists_lt_succ_left]
    cases hparent : forest.parent? node with
    | none => simp [ancestor?, hparent]
    | some parent => simp [ancestor?, hparent, ih, eq_comm]

theorem isAbove_iff : forest.isAbove above node ↔ forest.Above above node := by
  rw [isAbove, ancestors, List.contains_iff_mem, mem_climb_iff, above_iff]
  exact ⟨fun ⟨k, _, hk⟩ => ⟨k, hk⟩, fun ⟨_, hk⟩ => exists_ancestor?_lt_size hk⟩

instance (forest : Forest) : DecidableRel forest.Above := fun _ _ =>
  decidable_of_iff _ isAbove_iff

/-- If each node is listed after those of its ancestors that are listed at all, just the nodes
without a listed ancestor are kept, each as often as it is listed. So none that is kept lies below
another. -/
theorem outermost_keeps_unnested (forest : Forest) (selected : List Nat)
    (hsorted : TopDown forest.Above selected) :
    forest.outermost selected =
        selected.filter (fun node => ∀ above ∈ selected, ¬forest.Above above node) ∧
      ∀ node ∈ forest.outermost selected, ∀ above ∈ forest.outermost selected,
        ¬forest.Above above node := by
  have htrans : ∀ {a b c}, forest.isAbove a b → forest.isAbove b c → forest.isAbove a c :=
    fun hab hbc => isAbove_iff.mpr ((isAbove_iff.mp hbc).trans (isAbove_iff.mp hab))
  have hlisted : TopDown (forest.isAbove · ·) selected := fun i hi a ha habove =>
    hsorted i hi a ha (isAbove_iff.mp habove)
  have hkept : forest.outermost selected =
      selected.filter (fun node => ∀ above ∈ selected, ¬forest.Above above node) := by
    refine (outermost_eq_filter @htrans hlisted).trans (List.filter_congr fun node _ => ?_)
    rw [Bool.eq_iff_iff, decide_eq_true_iff]
    simp [isAbove_iff, ← Bool.not_eq_true]
  refine ⟨hkept, fun node hnode above habove => ?_⟩
  rw [hkept, List.mem_filter, decide_eq_true_iff] at hnode
  exact hnode.2 above (mem_of_mem_outermost habove)

/-- A chain of three nodes and one of two, with nodes of both listed twice. -/
def twoChains : Forest := ⟨#[none, some 0, some 1, none, some 3]⟩

theorem outermost_keeps_unnested_twoChains :
    TopDown twoChains.Above [4, 0, 2, 0, 4, 2] ∧
      twoChains.outermost [4, 0, 2, 0, 4, 2] = [4, 0, 0, 4] := by
  have hsorted : TopDown twoChains.Above [4, 0, 2, 0, 4, 2] := by decide
  obtain ⟨hkept, -⟩ := outermost_keeps_unnested twoChains [4, 0, 2, 0, 4, 2] hsorted
  rw [hkept]
  exact ⟨hsorted, by decide⟩

end Forest
end LuaMarkup
