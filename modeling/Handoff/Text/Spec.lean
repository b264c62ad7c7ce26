import Handoff.Text.Layout

namespace Handoff.Text

/-! How a value is to be written: in which style, and in which field. -/

/-- `plain` is meant for people.  `structured` shows how the value is built, and
`expanded` does so on lines of its own. -/
inductive Style where
  | plain
  | structured
  | expanded
deriving DecidableEq

structure Spec where
  style : Style := .plain
  layout : Layout := {}
deriving DecidableEq

/-- The specifications that can be asked for by their spelling. -/
def Spec.ofSpelling? : String → Option Spec
  | "" => some {}
  | "?" => some { style := .structured }
  | "#?" => some { style := .expanded }
  | ">8" => some { layout := { alignment := some .right, width := 8 } }
  | "<8" => some { layout := { alignment := some .left, width := 8 } }
  | "^8" => some { layout := { alignment := some .centre, width := 8 } }
  | "*^9" => some { layout := { fill := '*', alignment := some .centre, width := 9 } }
  | ">40" => some { layout := { alignment := some .right, width := 40 } }
  | "08" => some { layout := { zeroPadded := true, width := 8 } }
  | "+" => some { layout := { signed := true } }
  | ".3" => some { layout := { precision := some 3 } }
  | "8?" => some { style := .structured, layout := { width := 8 } }
  | _ => none

/-- Picks between the sentence for people and the identifier.  Neither is laid
out in a field: both are written as they are. -/
def Spec.choose (spec : Spec) (message label : String) : String :=
  match spec.style with
  | .plain => message
  | .structured | .expanded => label

end Handoff.Text
