import Handoff.Text.Concealed

namespace Handoff.Text

/-! A text between double quotes.  The quote and the backslash are marked by a
backslash, the common controls have letters, and every other character that
would not be seen as it is stands as its code point in hexadecimal.
-/

def hexadecimal (value : Nat) : List Char :=
  Nat.toDigits 16 value

def escape : Char → List Char
  | '"' => ['\\', '"']
  | '\\' => ['\\', '\\']
  | '\n' => ['\\', 'n']
  | '\r' => ['\\', 'r']
  | '\t' => ['\\', 't']
  | '\x00' => ['\\', '0']
  | character =>
      if isConcealed character then
        ['\\', 'u', '\x7b'] ++ hexadecimal character.toNat ++ ['\x7d']
      else [character]

def quote (text : String) : String :=
  String.ofList ('"' :: text.toList.flatMap escape ++ ['"'])

end Handoff.Text
