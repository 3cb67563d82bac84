import TapeMachine.Text.Printable

/-! # Quoted text

A text between double quotes on one line. Quotes and backslashes are preceded by a backslash,
four controls have a letter, and every other character that is not printable is written by its code
point in hexadecimal between braces.
-/

namespace TapeMachine.Text

/-- How a character is written between quotes. -/
def escaped (char : Char) : List Char :=
  match char with
  | '"' => ['\\', '"']
  | '\\' => ['\\', '\\']
  | '\x00' => ['\\', '0']
  | '\t' => ['\\', 't']
  | '\n' => ['\\', 'n']
  | '\r' => ['\\', 'r']
  | char =>
    if isPrintable char then [char]
    else ['\\', 'u', '\x7b'] ++ Nat.toDigits 16 char.toNat ++ ['\x7d']

/-- The text between double quotes. -/
def quoted (text : String) : String :=
  "\"" ++ String.ofList (text.toList.flatMap escaped) ++ "\""

end TapeMachine.Text
