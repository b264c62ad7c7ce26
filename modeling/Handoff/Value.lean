import Handoff.Decimal.Notation
import Handoff.Decimal.Numeral
import Handoff.Text.Quoted

namespace Handoff

/-! The values that pass through channels and handles when these are driven from
outside.  The channels themselves never look at them.
-/

/-- A real number is kept as the numeral it was written as. -/
inductive Value where
  | null
  | bool (value : Bool)
  | integer (value : Int)
  | text (value : String)
  | real (numeral : String)
  | list (items : List Value)
  | record (fields : List (String × Value))
deriving Inhabited

namespace Value

def integer? : Value → Option Int
  | .integer value => some value
  | _ => none

/-- A numeral that cannot be read stands for no number. -/
def reading (numeral : String) : Decimal.Reading :=
  match Decimal.float? numeral with
  | some value => .ofFloat value
  | none => .notNumber

mutual

/-- Values are the same when they have the same shape and the same parts.  Real
numbers compare as numbers, so one that is no number differs from itself. -/
def same : Value → Value → Bool
  | .null, .null => true
  | .bool left, .bool right => left == right
  | .integer left, .integer right => left == right
  | .text left, .text right => left == right
  | .real left, .real right => (reading left).same (reading right)
  | .list left, .list right => sameItems left right
  | .record left, .record right => sameFields left right
  | _, _ => false

def sameItems : List Value → List Value → Bool
  | [], [] => true
  | left :: leftRest, right :: rightRest => same left right && sameItems leftRest rightRest
  | _, _ => false

def sameFields : List (String × Value) → List (String × Value) → Bool
  | [], [] => true
  | (leftName, left) :: leftRest, (rightName, right) :: rightRest =>
      leftName == rightName && same left right && sameFields leftRest rightRest
  | _, _ => false

end

instance : BEq Value := ⟨same⟩

/-- A list in brackets; expanded, each item has a line of its own. -/
def bracketed (style : Text.Style) : List String → String
  | [] => "[]"
  | items =>
      match style with
      | .expanded => "[\n" ++ String.join (items.map fun item => "    " ++ item ++ ",\n") ++ "]"
      | .plain | .structured => "[" ++ ", ".intercalate items ++ "]"

/-- Integers, texts and real numbers can be written in every way.  A list can
only be shown in its structure, and only if all its items are integers; the
field then is that of each item. -/
def render? (spec : Text.Spec) : Value → Option String
  | .integer value => some (spec.layout.padInteger value)
  | .text value =>
      match spec.style with
      | .plain => some (spec.layout.padText value)
      | .structured | .expanded => some (Text.quote value)
  | .real numeral => some ((reading numeral).render spec)
  | .list items =>
      match spec.style with
      | .plain => none
      | style =>
          (items.mapM integer?).map fun values =>
            bracketed style (values.map spec.layout.padInteger)
  | .null | .bool _ | .record _ => none

end Value

end Handoff
