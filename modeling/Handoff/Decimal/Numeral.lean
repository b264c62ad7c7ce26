namespace Handoff.Decimal

/-! Reading a real number from its text: an optional sign, then either digits with
at most one point among them and an optional exponent, or one of the words for
infinity and for what is no number, in any case of letters.
-/

def digitValue (digit : Char) : Nat :=
  digit.toNat - '0'.toNat

def ofDigits (digits : List Char) : Nat :=
  digits.foldl (fun total digit => 10 * total + digitValue digit) 0

/-- Splits off a leading sign; the flag says that it was a minus. -/
def splitSign : List Char → Bool × List Char
  | '-' :: rest => (true, rest)
  | '+' :: rest => (false, rest)
  | text => (false, text)

def exponent? : List Char → Option Int
  | [] => some 0
  | mark :: rest =>
      if mark = 'e' ∨ mark = 'E' then
        let (negative, digits) := splitSign rest
        if digits ≠ [] ∧ digits.all Char.isDigit then
          some (if negative then -(ofDigits digits : Int) else ofDigits digits)
        else none
      else none

/-- The double nearest to `digits * 10 ^ exponent`.  Numbers far beyond the
range of doubles are cut short before the power is formed. -/
def nearest (digits : Nat) (exponent : Int) : Float :=
  let magnitude : Int := (Nat.toDigits 10 digits).length + exponent
  if digits = 0 ∨ magnitude < -400 then 0
  else if 400 < magnitude then 1.0 / 0.0
  else Float.ofScientific digits (exponent < 0) exponent.natAbs

def unsigned? (text : List Char) : Option Float :=
  let word := String.ofList (text.map Char.toLower)
  if word = "inf" ∨ word = "infinity" then some (1.0 / 0.0)
  else if word = "nan" then some (0.0 / 0.0)
  else
    let whole := text.takeWhile Char.isDigit
    let rest := text.dropWhile Char.isDigit
    let (fraction, rest) := match rest with
      | '.' :: rest => (rest.takeWhile Char.isDigit, rest.dropWhile Char.isDigit)
      | rest => ([], rest)
    if whole = [] ∧ fraction = [] then none
    else
      (exponent? rest).map fun exponent =>
        nearest (ofDigits (whole ++ fraction)) (exponent - fraction.length)

def float? (text : String) : Option Float :=
  let (negative, rest) := splitSign text.toList
  (unsigned? rest).map fun value => if negative then -value else value

end Handoff.Decimal
