/-!
Numbers of 53 binary digits, to which numbers with a point are rounded.
-/

namespace LuaMarkup.Binary

/-- `n / d` as a whole number. A half goes to the even one. -/
def roundHalfEven (n d : Nat) : Nat :=
  let below := n / d
  let twice := 2 * (n % d)
  if twice < d then below
  else if d < twice then below + 1
  else below + below % 2

/-- The power of two that is not above `n / d` and whose double is. -/
def floorLog2 (n d : Nat) : Int :=
  let estimate : Int := (Nat.log2 n : Int) - Nat.log2 d
  if d <<< estimate.toNat ≤ n <<< (-estimate).toNat then estimate else estimate - 1

/-- The power of two that the numbers of 53 digits about `n / d` are multiples of. -/
def unitPower (n d : Nat) : Int := max (floorLog2 n d - 52) (-1074)

/-- The number of 53 digits that is nearest to `n / d`, if it is whole. -/
def nearestWhole? (n d : Nat) : Option Nat :=
  if n = 0 then some 0
  else
    let power := unitPower n d
    let up := power.toNat
    let down := (-power).toNat
    let count := roundHalfEven (n <<< down) (d <<< up)
    if count % (1 <<< down) = 0 then some ((count >>> down) <<< up) else none

end LuaMarkup.Binary
