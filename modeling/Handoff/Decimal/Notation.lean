import Handoff.Decimal.Fixed
import Handoff.Decimal.Shortest
import Handoff.Text.Spec

namespace Handoff.Decimal

/-! Writing a double.  For people it is positional, without a point unless one is
needed.  The structured style always shows that the number is a real one, by a
point or by an exponent, and keeps to positions only from `0.0001` up to the
first number of seventeen digits.
-/

def digitsOf (value : Nat) : List Char :=
  Nat.toDigits 10 value

def zeros (count : Nat) : List Char :=
  List.replicate count '0'

/-- The digits of `number` around a point, with at least `places` digits after
it; a point with nothing behind it is left out. -/
def Scientific.positional (number : Scientific) (places : Nat) : List Char :=
  let digits := digitsOf number.digits ++ zeros number.exponent.toNat
  let after := (-number.exponent).toNat
  let padded := zeros (after + 1 - digits.length) ++ digits
  let whole := padded.take (padded.length - after)
  let fraction := padded.drop (padded.length - after)
  match fraction ++ zeros (places - after) with
  | [] => whole
  | fraction => whole ++ '.' :: fraction

/-- One digit before the point, and the exponent that this asks for. -/
def Scientific.exponential (number : Scientific) : List Char :=
  match digitsOf number.digits with
  | [] => []
  | first :: rest =>
      let exponent : Int := number.exponent + rest.length
      let mark := 'e' :: (if exponent < 0 then ['-'] else []) ++ digitsOf exponent.natAbs
      match rest with
      | [] => first :: mark
      | rest => first :: '.' :: rest ++ mark

/-- The place of the leading digit: the number lies below `10 ^ magnitude` and
not below a tenth of that. -/
def Scientific.magnitude (number : Scientific) : Int :=
  digitCount number.digits + number.exponent

def Scientific.structured (number : Scientific) : List Char :=
  if number.digits = 0 ∨ (-3 ≤ number.magnitude ∧ number.magnitude ≤ 16) then
    number.positional 1
  else number.exponential

namespace Reading

/-- The digits of a finite magnitude in a style, or with a fixed number of
places if a precision is given. -/
def magnitudeText (spec : Text.Spec) (mantissa : Nat) (exponent : Int) (narrow : Bool) :
    List Char :=
  match spec.layout.precision with
  | some places =>
      (Scientific.mk (inPlaces places mantissa exponent) (-places)).positional places
  | none =>
      let number := if mantissa = 0 then ⟨0, 0⟩ else shortest mantissa exponent narrow
      match spec.style with
      | .plain => number.positional 0
      | .structured | .expanded => number.structured

def render (spec : Text.Spec) : Reading → String
  | .notNumber => spec.layout.padNumber "" "NaN"
  | .infinite negative => spec.layout.padNumber (spec.layout.sign negative) "inf"
  | .finite negative mantissa exponent narrow =>
      spec.layout.padNumber (spec.layout.sign negative)
        (String.ofList (magnitudeText spec mantissa exponent narrow))

end Reading

end Handoff.Decimal
