import Handoff.Decimal.Fixed

namespace Handoff.Decimal

/-! The shortest decimal that reads back as a given double.  The reals that round
to `mantissa * 2 ^ exponent` form an interval, whose ends belong to it when the
mantissa is even.  Among decimals of one digit, then two, and so on, the two
neighbours of the double are tested against that interval; the first that lies
in it is taken, and of two the nearer.
-/

/-- The number `digits * 10 ^ exponent`. -/
structure Scientific where
  digits : Nat
  exponent : Int
deriving DecidableEq

namespace Scientific

/-- Moves the zeros that end the digits into the exponent. -/
def strip (fuel : Nat) (number : Scientific) : Scientific :=
  match fuel with
  | 0 => number
  | fuel + 1 =>
      if number.digits ≠ 0 ∧ number.digits % 10 = 0 then
        strip fuel ⟨number.digits / 10, number.exponent + 1⟩
      else number

end Scientific

/-- A positive double between its two rounding boundaries, all four given in
units so small that they are natural numbers: `unit` is the size of one on that
scale times a power of ten that the candidate digits count. -/
structure Window where
  value : Nat
  lower : Nat
  upper : Nat
  closed : Bool

namespace Window

/-- The window of `mantissa * 2 ^ exponent`, multiplied by `2 ^ (2 - exponent)`
or left as it is, so that quarters of the last bit are whole. -/
def ofBinary (mantissa : Nat) (exponent : Int) (narrow : Bool) : Window :=
  let scale := 1 <<< (exponent - 2).toNat
  { value := 4 * mantissa * scale
    lower := (4 * mantissa - if narrow then 1 else 2) * scale
    upper := (4 * mantissa + 2) * scale
    closed := mantissa % 2 = 0 }

def stretch (window : Window) (factor : Nat) : Window :=
  { window with
    value := window.value * factor
    lower := window.lower * factor
    upper := window.upper * factor }

def holds (window : Window) (point : Nat) : Bool :=
  if window.closed then window.lower ≤ point ∧ point ≤ window.upper
  else window.lower < point ∧ point < window.upper

/-- The neighbour of the value among the multiples of `unit`, if one of the two
lies in the window: of two the nearer, and in a tie the greater. -/
def neighbour? (window : Window) (unit : Nat) : Option Nat :=
  let below := window.value / unit
  let above := below + 1
  match window.holds (below * unit), window.holds (above * unit) with
  | false, false => none
  | true, false => some below
  | false, true => some above
  | true, true => some (if 2 * window.value < (below + above) * unit then below else above)

end Window

def digitCount (value : Nat) : Nat :=
  (Nat.toDigits 10 value).length

/-- The number of digits before the point of `value / unit`; for a fraction,
minus the number of zeros that follow the point. -/
def magnitude (value unit : Nat) : Int :=
  if unit ≤ value then digitCount (value / unit)
  else 1 - digitCount ((unit - 1) / value)

/-- Tries ever more digits, from `count` on. -/
def search (window : Window) (unit : Nat) (places : Int) (count : Nat) : Nat → Option Scientific
  | 0 => none
  | fuel + 1 =>
      let exponent := places - count
      let finer := window.stretch (tenTo (-exponent).toNat)
      match finer.neighbour? (unit * tenTo exponent.toNat) with
      | some digits => some ⟨digits, exponent⟩
      | none => search window unit places (count + 1) fuel

/-- The shortest decimal that reads back as the positive double
`mantissa * 2 ^ exponent`.  Seventeen digits always suffice. -/
def shortest (mantissa : Nat) (exponent : Int) (narrow : Bool) : Scientific :=
  let window := Window.ofBinary mantissa exponent narrow
  let unit := 1 <<< (2 - exponent).toNat
  match search window unit (magnitude window.value unit) 1 17 with
  | some number => number.strip 17
  | none => ⟨0, 0⟩

end Handoff.Decimal
