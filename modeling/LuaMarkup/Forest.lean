/-!
Nested selections. Of a list of nodes only those are kept that do not lie below a node kept
before them.
-/

namespace LuaMarkup

/-- The nodes in order, each dropped that lies below one of those kept so far. -/
def outermost (isAbove : α → α → Bool) (selected : List α) : List α :=
  selected.foldl (fun kept node =>
    if kept.any (isAbove · node) then kept else kept ++ [node]) []

/-- Finitely many nodes, each with the index of its parent if it has one. -/
structure Forest where
  parents : Array (Option Nat)
deriving DecidableEq, Repr

namespace Forest

/-- The proper ancestors of a node from its parent upwards, at most `steps` of them. -/
def climb (forest : Forest) : (steps node : Nat) → List Nat
  | 0, _ => []
  | steps + 1, node =>
    match forest.parents[node]? with
    | some (some parent) => parent :: forest.climb steps parent
    | _ => []

/-- A chain of ancestors is no longer than the forest has nodes. -/
def ancestors (forest : Forest) (node : Nat) : List Nat :=
  forest.climb forest.parents.size node

def isAbove (forest : Forest) (above node : Nat) : Bool :=
  (forest.ancestors node).contains above

def outermost (forest : Forest) (selected : List Nat) : List Nat :=
  LuaMarkup.outermost forest.isAbove selected

end Forest
end LuaMarkup
