import LiveCounter.Json.Value
import LiveCounter.Json.Reader

/-!
# Session identifiers

A session is named by a 128-bit identifier. New ones are ordered by time: they begin with the
milliseconds of the clock, followed by the version 7 and by random bits. The public form is `sess_`
with 32 hexadecimal digits; in JSON the digits stand in five groups joined by hyphens.
-/

namespace LiveCounter

/-- The identifier of a session. -/
structure SessionId where
  bits : Nat
  deriving DecidableEq, Repr

namespace SessionId

/-- The identifier that a clock reading and random bits make up. -/
def fresh (millis entropy : Nat) : SessionId :=
  let time := millis % (1 <<< 48)
  let high := (entropy >>> 62) % (1 <<< 12)
  let low := entropy % (1 <<< 62)
  ⟨((((time <<< 4) + 7) <<< 12) + high) <<< 64 + ((1 <<< 63) + low)⟩

/-- The version that is written into an identifier. -/
def version (id : SessionId) : Nat := (id.bits >>> 76) % 16

/-- The lowest `count` hexadecimal digits of a number. -/
def hexDigits : (count : Nat) → Nat → List Char
  | 0, _ => []
  | count + 1, n => hexDigits count (n / 16) ++ [Json.hexDigit (n % 16)]

/-- The digits of an identifier without hyphens. -/
def digits (id : SessionId) : List Char := hexDigits 32 id.bits

/-- The public form of an identifier. -/
def text (id : SessionId) : String := "sess_" ++ String.ofList id.digits

/-- The form of an identifier with hyphens. -/
def hyphenated (id : SessionId) : String :=
  let d := id.digits
  "-".intercalate [String.ofList (d.take 8), String.ofList ((d.drop 8).take 4),
    String.ofList ((d.drop 12).take 4), String.ofList ((d.drop 16).take 4),
    String.ofList (d.drop 20)]

/-- The number that hexadecimal digits denote. -/
def readHex? : (value : Nat) → List Char → Option Nat
  | value, [] => some value
  | value, c :: rest => do readHex? (value * 16 + (← Json.hexValue? c)) rest

/-- The digits of a text whose groups of 8, 4, 4, 4 and 12 are joined by hyphens. -/
def ungroup? (text : List Char) : Option (List Char) :=
  let hyphenAt (i : Nat) : Bool := text[i]? == some '-'
  if text.length = 36 ∧ hyphenAt 8 ∧ hyphenAt 13 ∧ hyphenAt 18 ∧ hyphenAt 23 then
    some (text.take 8 ++ (text.drop 9).take 4 ++ (text.drop 14).take 4 ++
      (text.drop 19).take 4 ++ text.drop 24)
  else none

/-- The identifier that a text denotes: bare digits, or groups that may stand in braces or follow
`urn:uuid:`. -/
def ofText? (text : String) : Option SessionId := do
  let chars := text.toList
  let digits ←
    if chars.length = 32 then some chars
    else match chars with
      | '\x7b' :: rest =>
        if rest.getLast? = some '\x7d' then ungroup? rest.dropLast else none
      | 'u' :: 'r' :: 'n' :: ':' :: 'u' :: 'u' :: 'i' :: 'd' :: ':' :: rest => ungroup? rest
      | _ => ungroup? chars
  let bits ← readHex? 0 digits
  some ⟨bits⟩

end SessionId

end LiveCounter
