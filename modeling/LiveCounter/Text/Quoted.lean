import LiveCounter.Text.Visible
import LiveCounter.Json.Value

/-!
# Quoted diagnostics

A text inside a message stands between double quotes. The quote, the backslash and the usual
controls are written with a backslash, and every other character that is not shown as itself by its
hexadecimal code.
-/

namespace LiveCounter.Quoted

/-- The hexadecimal digits of a number, without leading zeros, ahead of `tail`. -/
def hexDigits (n : Nat) (tail : List Char) : List Char :=
  if h : n < 16 then Json.hexDigit n :: tail
  else hexDigits (n / 16) (Json.hexDigit (n % 16) :: tail)
termination_by n
decreasing_by omega

/-- The form of a character inside quotes. -/
def escape (c : Char) : List Char :=
  match c with
  | '"' => ['\\', '"']
  | '\\' => ['\\', '\\']
  | '\n' => ['\\', 'n']
  | '\r' => ['\\', 'r']
  | '\t' => ['\\', 't']
  | '\x00' => ['\\', '0']
  | c => if visible c then [c] else '\\' :: 'u' :: '\x7b' :: hexDigits c.toNat ['\x7d']

/-- A text between quotes. -/
def quote (text : String) : String :=
  String.ofList ('"' :: (text.toList.flatMap escape ++ ['"']))

end LiveCounter.Quoted
