import LiveCounter.Json.Reader

/-!
# Skipping JSON

A value that nobody wants is passed over without being built. Brackets may nest to any depth, a
number may have any size, and the code units of a text need not pair up; a number that breaks off
at the end of the text counts as malformed.
-/

namespace LiveCounter.Json

/-- Passes over one or more digits. -/
def skipDigits : Reader Unit
  | c :: rest => if isDigit c then .ok ((), rest.dropWhile isDigit) else .error .malformed
  | [] => .error .malformed

/-- Passes over an exponent, if there is one. -/
def skipExponent : Reader Unit
  | 'e' :: rest | 'E' :: rest =>
    match rest with
    | '+' :: digits | '-' :: digits => skipDigits digits
    | digits => skipDigits digits
  | text => .ok ((), text)

/-- Passes over the decimals of a number, if there are any, and its exponent. -/
def skipFraction : Reader Unit
  | '.' :: rest => do
    let ((), rest) ← skipDigits rest
    skipExponent rest
  | text => skipExponent text

/-- Passes over a number without its sign. -/
def skipNumber : Reader Unit
  | '0' :: c :: rest => if isDigit c then .error .malformed else skipFraction (c :: rest)
  | text => do
    let ((), rest) ← skipDigits text
    skipFraction rest

/-- Passes over the character that follows a backslash. -/
def skipEscaped : Reader Unit
  | [] => .error .endOfText
  | 'u' :: rest => do
    let (_, rest) ← codeUnit rest
    .ok ((), rest)
  | c :: rest => if ['"', '\\', '/', 'b', 'f', 'n', 'r', 't'].contains c then .ok ((), rest)
    else .error .malformed

/-- Passes over the characters up to the closing quote; each step takes at least one. -/
def skipQuoted : (steps : Nat) → Reader Unit
  | 0, _ | _ + 1, [] => .error .endOfText
  | _ + 1, '"' :: rest => .ok ((), rest)
  | steps + 1, '\\' :: rest => do
    let ((), rest) ← skipEscaped rest
    skipQuoted steps rest
  | steps + 1, c :: rest => if c.toNat < 0x20 then .error .malformed else skipQuoted steps rest

/-- What an unfinished value stands in. -/
inductive Enclosure where
  | array
  | object
  deriving DecidableEq, Repr

/-- The character that ends an enclosure. -/
def Enclosure.closing : Enclosure → Char
  | .array => ']'
  | .object => '\x7d'

/-- Passes over the name of a member and the colon after it. -/
def skipName : Reader Unit := fun text =>
  match skipBlanks text with
  | [] => .error .endOfText
  | '"' :: rest => do
    let ((), rest) ← skipQuoted (rest.length + 1) rest
    colon rest
  | _ => .error .malformed

/-- Passes over all that may stand between two values: the ends of enclosures, a comma and the name
of a member. `none` says that no enclosure is left open; right after an opening bracket no comma
may come. -/
def skipBetween : (opened : Bool) → List Enclosure → Reader (Option (List Enclosure))
  | _, [], text => .ok (none, text)
  | opened, inner :: outer, text =>
    let enter (text : List Char) : Except Fault (Option (List Enclosure) × List Char) :=
      match inner with
      | .array => .ok (some (inner :: outer), text)
      | .object => do
        let ((), rest) ← skipName text
        .ok (some (inner :: outer), rest)
    match skipBlanks text with
    | [] => .error .endOfText
    | c :: rest =>
      if c = inner.closing then skipBetween false outer rest
      else if opened then enter (c :: rest)
      else if c = ',' then enter rest
      else .error .malformed

/-- Passes over a value that stands in the given enclosures, and over their rest. -/
def skipWithin : (steps : Nat) → List Enclosure → Reader Unit
  | 0, _, _ => .error .malformed
  | steps + 1, enclosures, text => do
    let (opened, enclosures, rest) ← match skipBlanks text with
      | [] => throw Fault.endOfText
      | 'n' :: rest => do
        let ((), rest) ← word ['u', 'l', 'l'] rest
        pure (false, enclosures, rest)
      | 't' :: rest => do
        let ((), rest) ← word ['r', 'u', 'e'] rest
        pure (false, enclosures, rest)
      | 'f' :: rest => do
        let ((), rest) ← word ['a', 'l', 's', 'e'] rest
        pure (false, enclosures, rest)
      | '"' :: rest => do
        let ((), rest) ← skipQuoted (rest.length + 1) rest
        pure (false, enclosures, rest)
      | '-' :: rest => do
        let ((), rest) ← skipNumber rest
        pure (false, enclosures, rest)
      | '[' :: rest => pure (true, Enclosure.array :: enclosures, rest)
      | '\x7b' :: rest => pure (true, Enclosure.object :: enclosures, rest)
      | text => do
        let ((), rest) ← skipNumber text
        pure (false, enclosures, rest)
    match ← skipBetween opened enclosures rest with
    | (none, rest) => .ok ((), rest)
    | (some enclosures, rest) => skipWithin steps enclosures rest

/-- Passes over one value. -/
def skipValue : Reader Unit := fun text =>
  skipWithin (text.length + 1) [] text

end LiveCounter.Json
