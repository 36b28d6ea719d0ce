import Kiosk.Text.Graphic

/-!
# Quoted texts

A text between double quotes, as messages show it. Quotes and backslashes get a
backslash, the usual control characters have letters, and whatever else is not
graphic is written as its number in hexadecimal digits between braces.
-/

namespace Kiosk.Quoted

/-- The hexadecimal digits of `n`, without leading zeros. -/
def hex (n : Nat) : List Char :=
  Nat.toDigits 16 n

/-- How one character is written between the quotes. -/
def escape (c : Char) : List Char :=
  match c with
  | '\x00' => ['\\', '0']
  | '\t' => ['\\', 't']
  | '\r' => ['\\', 'r']
  | '\n' => ['\\', 'n']
  | '"' => ['\\', '"']
  | '\\' => ['\\', '\\']
  | c => if isGraphic c then [c] else ['\\', 'u', '\x7b'] ++ hex c.toNat ++ ['\x7d']

/-- The text between quotes. -/
def quote (s : String) : String :=
  String.ofList ('"' :: s.toList.flatMap escape ++ ['"'])

end Kiosk.Quoted
