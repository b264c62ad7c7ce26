namespace Handoff.Text

/-! Placing a text in a field of a given width.  Widths count characters.  A text
that is already wide enough is left alone; nothing is ever cut off by a width.
-/

inductive Alignment where
  | left
  | centre
  | right
deriving DecidableEq

/-- The decisions of one field.  `signed` writes a plus before nonnegative
numbers.  `zeroPadded` fills numbers with zeros after their sign, whatever
`fill` and `alignment` say.  `precision` is the number of characters kept of a
text, or of places after the point of a real number. -/
structure Layout where
  fill : Char := ' '
  alignment : Option Alignment := none
  width : Nat := 0
  signed : Bool := false
  zeroPadded : Bool := false
  precision : Option Nat := none
deriving DecidableEq

namespace Layout

def filler (layout : Layout) (count : Nat) : List Char :=
  List.replicate count layout.fill

/-- In a centred field an odd gap puts the extra character on the right. -/
def padList (layout : Layout) (usual : Alignment) (text : List Char) : List Char :=
  let gap := layout.width - text.length
  match layout.alignment.getD usual with
  | .left => text ++ layout.filler gap
  | .centre => layout.filler (gap / 2) ++ text ++ layout.filler (gap - gap / 2)
  | .right => layout.filler gap ++ text

/-- A text stands left unless told otherwise. -/
def padText (layout : Layout) (text : String) : String :=
  let kept := match layout.precision with
    | some count => text.toList.take count
    | none => text.toList
  String.ofList (layout.padList .left kept)

/-- A number stands right unless told otherwise.  `sign` is empty, a minus or a
plus, and `digits` is the rest of the number. -/
def padNumber (layout : Layout) (sign digits : String) : String :=
  if layout.zeroPadded then
    let zeros := List.replicate (layout.width - sign.length - digits.length) '0'
    sign ++ String.ofList zeros ++ digits
  else
    String.ofList (layout.padList .right (sign ++ digits).toList)

def sign (layout : Layout) (negative : Bool) : String :=
  if negative then "-" else if layout.signed then "+" else ""

def padInteger (layout : Layout) (value : Int) : String :=
  layout.padNumber (layout.sign (value < 0)) (String.ofList (Nat.toDigits 10 value.natAbs))

end Layout

end Handoff.Text
