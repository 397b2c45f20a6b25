import LiveCounter.Json.Reader

/-!
# Hexadecimal bytes

Bytes written as pairs of hexadecimal digits, the high digit first.
-/

namespace LiveCounter.Hex

/-- The byte that two digits denote. -/
def byte? (high low : Char) : Option UInt8 := do
  some (.ofNat (16 * (← Json.hexValue? high) + (← Json.hexValue? low)))

/-- The bytes that digits denote. -/
def bytes? : List Char → Option (List UInt8)
  | [] => some []
  | high :: low :: rest => do some ((← byte? high low) :: (← bytes? rest))
  | [_] => none

end LiveCounter.Hex
