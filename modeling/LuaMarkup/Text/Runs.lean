/-!
Sets of code points as tables of runs, each run its first and its last code point, in increasing
order.
-/

namespace LuaMarkup.Text

/-- Whether `n` lies in one of the runs from `low` up to, and without, `high`; `steps` bounds
the halvings. -/
def inRunsBetween (runs : Array (Nat × Nat)) (n : Nat) : (steps low high : Nat) → Bool
  | 0, _, _ => false
  | steps + 1, low, high =>
    if low < high then
      let middle := (low + high) / 2
      match runs[middle]? with
      | some (first, last) =>
        if n < first then inRunsBetween runs n steps low middle
        else if last < n then inRunsBetween runs n steps (middle + 1) high
        else true
      | none => false
    else false

def inRuns (runs : Array (Nat × Nat)) (n : Nat) : Bool :=
  inRunsBetween runs n runs.size 0 runs.size

end LuaMarkup.Text
