/-!
# Decimal integers

Integers are read from an optional sign followed by one or more ASCII digits, scanned from the
left. A text is refused for the first thing that goes wrong in that scan: a character that is no
digit, or a value that has left the range. Leading zeros are allowed, blanks are not.
-/

namespace LiveCounter.Decimal

/-- Why a text denotes no integer of the wanted range. -/
inductive Fault where
  | empty
  | invalidDigit
  | tooLarge
  | tooSmall
  deriving DecidableEq, Repr

/-- The wording of a refused integer. -/
def Fault.message : Fault → String
  | .empty => "cannot parse integer from empty string"
  | .invalidDigit => "invalid digit found in string"
  | .tooLarge => "number too large to fit in target type"
  | .tooSmall => "number too small to fit in target type"

/-- The value of an ASCII digit. -/
def digit? (c : Char) : Option Nat :=
  if '0' ≤ c ∧ c ≤ '9' then some (c.toNat - '0'.toNat) else none

/-- Extends `value` by the digits of a text, as long as the result stays within `limit`. -/
def extend (limit : Nat) (overflow : Fault) (value : Nat) : List Char → Except Fault Nat
  | [] => .ok value
  | c :: rest =>
    match digit? c with
    | none => .error .invalidDigit
    | some d =>
      if limit < 10 * value + d then .error overflow
      else extend limit overflow (10 * value + d) rest

/-- The number that a non-empty run of digits denotes, if it does not exceed `limit`. -/
def magnitude (limit : Nat) (overflow : Fault) : List Char → Except Fault Nat
  | [] => .error .invalidDigit
  | digits => extend limit overflow 0 digits

/-- Reads a natural number of at most `limit`; a leading `+` is allowed. -/
def readNat (limit : Nat) : List Char → Except Fault Nat
  | [] => .error .empty
  | '+' :: digits => magnitude limit .tooLarge digits
  | digits => magnitude limit .tooLarge digits

/-- Reads an integer of a signed word with `bits` bits; a leading `+` or `-` is allowed. -/
def readInt (bits : Nat) : List Char → Except Fault Int
  | [] => .error .empty
  | '+' :: digits => (magnitude ((1 <<< (bits - 1)) - 1) .tooLarge digits).map Int.ofNat
  | '-' :: digits => (magnitude (1 <<< (bits - 1)) .tooSmall digits).map fun n => - Int.ofNat n
  | digits => (magnitude ((1 <<< (bits - 1)) - 1) .tooLarge digits).map Int.ofNat

/-- The natural number of `bits` bits that a text denotes, when it lies in `lo ..= hi`. -/
def natInRange? (bits lo hi : Nat) (text : String) : Option Nat :=
  match readNat ((1 <<< bits) - 1) text.toList with
  | .ok n => if lo ≤ n ∧ n ≤ hi then some n else none
  | .error _ => none

/-- The signed 64-bit integer that a text denotes. -/
def int64? (text : String) : Option Int64 :=
  (readInt 64 text.toList).toOption.map Int64.ofInt

/-- A natural number in decimal, filled with zeros on the left up to `width` digits. -/
def padded (width n : Nat) : String :=
  let digits := toString n
  String.ofList (List.replicate (width - digits.length) '0') ++ digits

end LiveCounter.Decimal
