import LiveCounter.Json.Value

/-!
# Reading JSON

A reader takes the characters that are left and gives what it read with the characters after it. A
text is refused as ended too early, as malformed, or as holding a value of the wrong kind. Arrays
and objects nest at most 127 deep. A number without point and exponent stays an integer if its word
has room for it; of any other number the significand keeps as many leading digits as fit in 64
bits, and is then scaled by its power of ten.
-/

namespace LiveCounter.Json

/-- Why a text is refused. -/
inductive Fault where
  | endOfText
  | malformed
  | mismatch (message : String)
  deriving DecidableEq, Repr

/-- Takes something off the front of a text. -/
abbrev Reader (α : Type) := List Char → Except Fault (α × List Char)

/-- The characters that may stand between the parts of a value. -/
def blank (c : Char) : Bool :=
  c == ' ' || c == '\n' || c == '\t' || c == '\r'

/-- A text without the blanks at its front. -/
def skipBlanks (text : List Char) : List Char :=
  text.dropWhile blank

/-- Takes the given letters off the front of a text. -/
def word : List Char → Reader Unit
  | [], text => .ok ((), text)
  | _ :: _, [] => .error .endOfText
  | c :: rest, d :: text => if c = d then word rest text else .error .malformed

/-- The value of a hexadecimal digit. -/
def hexValue? (c : Char) : Option Nat :=
  if '0' ≤ c ∧ c ≤ '9' then some (c.toNat - '0'.toNat)
  else if 'a' ≤ c ∧ c ≤ 'f' then some (c.toNat - 'a'.toNat + 10)
  else if 'A' ≤ c ∧ c ≤ 'F' then some (c.toNat - 'A'.toNat + 10)
  else none

/-- Whether a text has fewer than four bytes left. -/
def shorterThanFour (text : List Char) : Bool :=
  (text.foldl (fun size c => size + c.utf8Size) 0) < 4

/-- The code unit that four hexadecimal digits denote. -/
def codeUnit : Reader Nat := fun text =>
  if shorterThanFour text then .error .endOfText else
    match text with
    | a :: b :: c :: d :: rest =>
      match hexValue? a, hexValue? b, hexValue? c, hexValue? d with
      | some a, some b, some c, some d => .ok (((a * 16 + b) * 16 + c) * 16 + d, rest)
      | _, _, _, _ => .error .malformed
    | _ => .error .malformed

/-- The second half of a character that is written as two code units. -/
def trailingUnit (lead : Nat) : Reader Char
  | '\\' :: 'u' :: rest => do
    let (unit, rest) ← codeUnit rest
    if 0xDC00 ≤ unit ∧ unit ≤ 0xDFFF then
      .ok (Char.ofNat ((lead - 0xD800) * 0x400 + (unit - 0xDC00) + 0x10000), rest)
    else .error .malformed
  | [] | ['\\'] => .error .endOfText
  | _ => .error .malformed

/-- The character that the digits after a unicode escape denote. -/
def unicodeEscape : Reader Char := fun text => do
  let (unit, rest) ← codeUnit text
  if 0xDC00 ≤ unit ∧ unit ≤ 0xDFFF then .error .malformed
  else if 0xD800 ≤ unit ∧ unit ≤ 0xDBFF then trailingUnit unit rest
  else .ok (Char.ofNat unit, rest)

/-- The character that follows a backslash. -/
def escaped : Reader Char
  | [] => .error .endOfText
  | '"' :: rest => .ok ('"', rest)
  | '\\' :: rest => .ok ('\\', rest)
  | '/' :: rest => .ok ('/', rest)
  | 'b' :: rest => .ok ('\x08', rest)
  | 'f' :: rest => .ok ('\x0c', rest)
  | 'n' :: rest => .ok ('\n', rest)
  | 'r' :: rest => .ok ('\r', rest)
  | 't' :: rest => .ok ('\t', rest)
  | 'u' :: rest => unicodeEscape rest
  | _ => .error .malformed

/-- The characters up to the closing quote; each step takes at least one character. -/
def quotedChars : (steps : Nat) → Reader (List Char)
  | 0, _ => .error .endOfText
  | _ + 1, [] => .error .endOfText
  | _ + 1, '"' :: rest => .ok ([], rest)
  | steps + 1, '\\' :: rest => do
    let (c, rest) ← escaped rest
    let (tail, rest) ← quotedChars steps rest
    .ok (c :: tail, rest)
  | steps + 1, c :: rest =>
    if c.toNat < 0x20 then .error .malformed
    else do
      let (tail, rest) ← quotedChars steps rest
      .ok (c :: tail, rest)

/-- The text up to the closing quote. -/
def quoted : Reader String := fun text => do
  let (chars, rest) ← quotedChars (text.length + 1) text
  .ok (String.ofList chars, rest)

/-- Whether a character is an ASCII digit. -/
def isDigit (c : Char) : Bool := '0' ≤ c && c ≤ '9'

/-- The greatest significand. -/
def maxSignificand : Nat := (1 <<< 64) - 1

/-- Appends digits to a significand as long as it has room, and counts the digits it took. -/
def absorb (significand : Nat) : List Char → Nat × Nat
  | [] => (significand, 0)
  | c :: rest =>
    let next := significand * 10 + (c.toNat - '0'.toNat)
    if maxSignificand < next then (significand, 0)
    else
      let (final, taken) := absorb next rest
      (final, taken + 1)

/-- A power of ten of at most `10 ^ 308`, rounded to a double. -/
def powerOfTen (exponent : Nat) : Float :=
  Float.ofScientific 1 false exponent

/-- Scales a significand by a power of ten, in steps of at most `10 ^ 308`; `none` is out of
range. -/
def scale (value : Float) (exponent : Int) : (steps : Nat) → Option Float
  | 0 => some value
  | steps + 1 =>
    if exponent.natAbs ≤ 308 then
      if 0 ≤ exponent then
        let scaled := value * powerOfTen exponent.natAbs
        if scaled.isInf then none else some scaled
      else some (value / powerOfTen exponent.natAbs)
    else if value == 0.0 then some value
    else if 0 ≤ exponent then none
    else scale (value / powerOfTen 308) (exponent + 308) steps

/-- The double of the given sign, significand and power of ten. -/
def double (negative : Bool) (significand : Nat) (exponent : Int) : Except Fault Json :=
  match scale significand.toUInt64.toFloat exponent (exponent.natAbs / 308 + 1) with
  | none => .error .malformed
  | some value => .ok (.float (if negative then -value else value))

/-- The greatest magnitude of a written exponent that is not cut off. -/
def maxExponent : Nat := (1 <<< 31) - 1

/-- A signed run of digits, as in an exponent. -/
def exponentPart : Reader (Bool × Nat) := fun text =>
  let (negative, digits) := match text with
    | '+' :: rest => (false, rest)
    | '-' :: rest => (true, rest)
    | rest => (false, rest)
  match digits with
  | [] => .error .endOfText
  | c :: _ =>
    if isDigit c then
      let power := (digits.takeWhile isDigit).foldl (fun n c => n * 10 + (c.toNat - '0'.toNat)) 0
      .ok ((negative, power), digits.dropWhile isDigit)
    else .error .malformed

/-- The rest of a number after its significand, from an exponent on. -/
def withExponent (negative : Bool) (significand : Nat) (exponent : Int) : Reader Json := fun text =>
  match text with
  | 'e' :: rest | 'E' :: rest => do
    let ((down, power), rest) ← exponentPart rest
    if maxExponent < power then
      if significand ≠ 0 ∧ ¬ down then .error .malformed
      else .ok (.float (if negative then -0.0 else 0.0), rest)
    else
      let value ← double negative significand (if down then exponent - power else exponent + power)
      .ok (value, rest)
  | _ => do
    let value ← double negative significand exponent
    .ok (value, text)

/-- The rest of a number after the digits of its whole part. -/
def afterWhole (negative : Bool) (significand dropped : Nat) : Reader Json := fun text =>
  match text with
  | '.' :: rest =>
    match rest with
    | [] => .error .endOfText
    | c :: _ =>
      if isDigit c then
        let (final, taken) := absorb significand (rest.takeWhile isDigit)
        withExponent negative final ((dropped : Int) - taken) (rest.dropWhile isDigit)
      else .error .malformed
  | 'e' :: _ | 'E' :: _ => withExponent negative significand dropped text
  | _ =>
    if dropped ≠ 0 then withExponent negative significand dropped text
    else if ¬ negative then .ok (.int significand, text)
    else if significand = 0 ∨ 1 <<< 63 < significand then
      .ok (.float (-significand.toUInt64.toFloat), text)
    else .ok (.int (-(significand : Int)), text)

/-- The number whose sign has been read. -/
def number (negative : Bool) : Reader Json
  | [] => .error .endOfText
  | '0' :: rest =>
    match rest with
    | c :: _ => if isDigit c then .error .malformed else afterWhole negative 0 0 rest
    | [] => afterWhole negative 0 0 rest
  | c :: rest =>
    if isDigit c then
      let digits := c :: rest.takeWhile isDigit
      let (significand, taken) := absorb 0 digits
      afterWhole negative significand (digits.length - taken) (rest.dropWhile isDigit)
    else .error .malformed

/-- Reads the members of an object up to its end, the first of them already in sight. -/
def members {σ : Type} (member : σ → String → Reader σ) : (steps : Nat) → σ → Reader σ
  | 0, _, _ => .error .malformed
  | steps + 1, state, text =>
    match text with
    | '"' :: rest => do
      let (name, rest) ← quoted rest
      let (state, rest) ← member state name rest
      match skipBlanks rest with
      | [] => .error .endOfText
      | '\x7d' :: rest => .ok (state, rest)
      | ',' :: rest => members member steps state (skipBlanks rest)
      | _ => .error .malformed
    | [] => .error .endOfText
    | _ => .error .malformed

/-- Reads an object after its opening brace, member by member. -/
def objectOf {σ : Type} (member : σ → String → Reader σ) (state : σ) : Reader σ := fun text =>
  match skipBlanks text with
  | [] => .error .endOfText
  | '\x7d' :: rest => .ok (state, rest)
  | next => members member next.length state next

/-- Takes the colon after the name of a member. -/
def colon : Reader Unit := fun text =>
  match skipBlanks text with
  | [] => .error .endOfText
  | ':' :: rest => .ok ((), rest)
  | _ => .error .malformed

/-- The text at the next item of an array, or `none` at the end of the array. -/
def nextItem (first : Bool) (text : List Char) : Except Fault (Option (List Char)) :=
  match skipBlanks text with
  | [] => .error .endOfText
  | ']' :: _ => .ok none
  | ',' :: rest =>
    if first then .ok (some (',' :: rest))
    else match skipBlanks rest with
      | [] => .error .endOfText
      | ']' :: _ => .error .malformed
      | next => .ok (some next)
  | next => if first then .ok (some next) else .error .malformed

/-- Takes the end of an array. -/
def endItems : Reader Unit := fun text =>
  match skipBlanks text with
  | [] => .error .endOfText
  | ']' :: rest => .ok ((), rest)
  | _ => .error .malformed

/-- Reads the items of an array up to its end. -/
def items {α : Type} (item : Reader α) : (steps : Nat) → (first : Bool) → Reader (List α)
  | 0, _, _ => .error .malformed
  | steps + 1, first, text => do
    match ← nextItem first text with
    | none => do
      let ((), rest) ← endItems text
      .ok ([], rest)
    | some text => do
      let (head, rest) ← item text
      let (tail, rest) ← items item steps false rest
      .ok (head :: tail, rest)

/-- The levels of arrays and objects that a value may open, and one more. -/
def maxDepth : Nat := 128

/-- Reads a value that may open fewer than `depth` levels. -/
def value : (depth : Nat) → Reader Json
  | 0, _ => .error .malformed
  | depth + 1, text =>
    match skipBlanks text with
    | [] => .error .endOfText
    | 'n' :: rest => do
      let ((), rest) ← word ['u', 'l', 'l'] rest
      .ok (.null, rest)
    | 't' :: rest => do
      let ((), rest) ← word ['r', 'u', 'e'] rest
      .ok (.bool true, rest)
    | 'f' :: rest => do
      let ((), rest) ← word ['a', 'l', 's', 'e'] rest
      .ok (.bool false, rest)
    | '"' :: rest => do
      let (text, rest) ← quoted rest
      .ok (.str text, rest)
    | '-' :: rest => number true rest
    | '[' :: rest =>
      if depth = 0 then .error .malformed
      else do
        let (list, rest) ← items (value depth) (rest.length + 1) true rest
        .ok (.arr list, rest)
    | '\x7b' :: rest =>
      if depth = 0 then .error .malformed
      else do
        let member (sofar : List (String × Json)) (name : String) : Reader (List (String × Json)) :=
          fun text => do
            let ((), text) ← colon text
            let (inner, text) ← value depth text
            .ok (insert name inner sofar, text)
        let (list, rest) ← objectOf member [] rest
        .ok (.obj list, rest)
    | c :: rest => if isDigit c then number false (c :: rest) else .error .malformed

/-- What a reader takes from a text, if nothing but blanks follows it. -/
def whole {α : Type} (reader : Reader α) (text : String) : Except Fault α := do
  let (result, rest) ← reader text.toList
  if (skipBlanks rest).isEmpty then .ok result else .error .malformed

/-- The value that a text denotes. -/
def parse (text : String) : Except Fault Json :=
  whole (value maxDepth) text

end LiveCounter.Json
