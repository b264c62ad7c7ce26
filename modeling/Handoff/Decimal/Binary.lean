namespace Handoff.Decimal

/-! Reading a double as an exact number.  A finite double is a natural mantissa
times a power of two; the rest are the infinities and the numbers that are none.
-/

/-- What the bits of a double stand for.  In `finite`, the magnitude is
`mantissa * 2 ^ exponent`; `narrow` says that the next double below is only half
as far away as the next one above. -/
inductive Reading where
  | notNumber
  | infinite (negative : Bool)
  | finite (negative : Bool) (mantissa : Nat) (exponent : Int) (narrow : Bool)
deriving DecidableEq

namespace Reading

def ofBits (bits : UInt64) : Reading :=
  let negative := bits >>> 63 == 1
  let raised : Nat := (bits >>> 52 &&& 0x7FF).toNat
  let fraction : Nat := (bits &&& 0xFFFFFFFFFFFFF).toNat
  if raised = 0x7FF then
    if fraction = 0 then .infinite negative else .notNumber
  else if raised = 0 then
    .finite negative fraction (-1074) false
  else
    .finite negative (0x10000000000000 + fraction) ((raised : Int) - 1075)
      (fraction = 0 ∧ 1 < raised)

def ofFloat (value : Float) : Reading :=
  ofBits value.toBits

/-- Numbers compare by value, so the two zeros are the same, and what is no
number is not even the same as itself. -/
def same : Reading → Reading → Bool
  | .notNumber, _ | _, .notNumber => false
  | .finite _ 0 _ _, .finite _ 0 _ _ => true
  | left, right => left == right

end Reading

end Handoff.Decimal
