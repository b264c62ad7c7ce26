namespace Handoff.Text

/-! A named record of fields whose values are already text, written on one line or
with a line for each field.
-/

structure Record where
  name : String
  fields : List (String × String)
deriving DecidableEq

namespace Record

def field (entry : String × String) : String :=
  entry.1 ++ ": " ++ entry.2

/-- One line, fields separated by commas. -/
def line (record : Record) : String :=
  match record.fields with
  | [] => record.name
  | fields => record.name ++ " \x7b " ++ ", ".intercalate (fields.map field) ++ " \x7d"

/-- One line for each field, every one ended by a comma. -/
def block (record : Record) : String :=
  match record.fields with
  | [] => record.name
  | fields =>
      let lines := fields.map fun entry => "    " ++ field entry ++ ",\n"
      record.name ++ " \x7b\n" ++ String.join lines ++ "\x7d"

/-- A truth value as the text of a field. -/
def ofBool (value : Bool) : String :=
  if value then "true" else "false"

/-- A count as the text of a field. -/
def ofNat (value : Nat) : String :=
  String.ofList (Nat.toDigits 10 value)

end Record

end Handoff.Text
