import LiveCounter.Json.Reader

/-!
# Percent-encoding

A percent sign and two hexadecimal digits stand for a byte; a percent sign without two digits after
it stands for itself.
-/

namespace LiveCounter.Percent

/-- The value of a byte that is a hexadecimal digit. -/
def hexValue? (byte : UInt8) : Option Nat :=
  Json.hexValue? (Char.ofNat byte.toNat)

/-- The byte that two digits denote. -/
def pair? (high low : UInt8) : Option UInt8 := do
  some (.ofNat (16 * (← hexValue? high) + (← hexValue? low)))

/-- The byte of a percent sign. -/
def sign : UInt8 := 0x25

/-- The bytes that encoded bytes stand for. -/
def decodeBytes : List UInt8 → List UInt8
  | first :: high :: low :: rest =>
    match if first = sign then pair? high low else none with
    | some byte => byte :: decodeBytes rest
    | none => first :: decodeBytes (high :: low :: rest)
  | few => few
termination_by bytes => bytes.length

/-- The bytes that an encoded text stands for. -/
def decode (text : String) : ByteArray :=
  ⟨(decodeBytes text.toUTF8.toList).toArray⟩

/-- The text that an encoded text stands for, if its bytes are one. -/
def decodeText? (text : String) : Option String :=
  String.fromUTF8? (decode text)

/-- The text that stands in for bytes that are none. -/
def replacement : String := "\ufffd"

/-- The text that an encoded text stands for, or the replacement. -/
def decodeTextLossy (text : String) : String :=
  (decodeText? text).getD replacement

end LiveCounter.Percent
