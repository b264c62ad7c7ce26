import Handoff.Decimal.Binary

namespace Handoff.Decimal

/-! A double written with a fixed number of places after the point.  The exact
binary value is rounded once, and a tie goes to the even neighbour.
-/

/-- The integer nearest to `numerator / denominator`, even in a tie. -/
def roundQuotient (numerator denominator : Nat) : Nat :=
  let quotient := numerator / denominator
  let rest := numerator % denominator
  if 2 * rest < denominator then quotient
  else if denominator < 2 * rest then quotient + 1
  else if quotient % 2 = 0 then quotient else quotient + 1

def tenTo (power : Nat) : Nat :=
  Nat.pow 10 power

/-- `mantissa * 2 ^ exponent` in units of `10 ^ -places`. -/
def inPlaces (places mantissa : Nat) (exponent : Int) : Nat :=
  roundQuotient (mantissa * tenTo places <<< exponent.toNat) (1 <<< (-exponent).toNat)

end Handoff.Decimal
