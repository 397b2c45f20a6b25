import LiveCounter.Json.Skip
import LiveCounter.Text.Quoted

/-!
# Schemas of JSON values

A schema says how values of one type stand in JSON. It has two decoders: one for a value that is at
hand, and one that takes the value off the front of a text as it goes. The two differ where a text
is refused: a text is read from left to right, so a member that occurs twice is noticed, and
whatever stands behind the first fault is not looked at. A section is an object of named fields, or
an array of them in their order; fields that are missing keep the value of the default, and members
of other names are skipped.
-/

namespace LiveCounter.Json

/-- The wording of a value in a refusal. -/
def kind : Json → String
  | .null => "null"
  | .bool value => "boolean `" ++ (if value then "true" else "false") ++ "`"
  | .int value => "integer `" ++ toString value ++ "`"
  | .float value => "floating point `" ++ Shortest.text value ++ "`"
  | .str value => "string " ++ Quoted.quote value
  | .arr _ => "sequence"
  | .obj _ => "map"

/-- The refusal of a value that is of another kind than the expected one. -/
def Fault.invalidType (found : Json) (expected : String) : Fault :=
  .mismatch ("invalid type: " ++ found.kind ++ ", expected " ++ expected)

/-- The refusal of a value that is of the expected kind and out of its range. -/
def Fault.invalidValue (found : Json) (expected : String) : Fault :=
  .mismatch ("invalid value: " ++ found.kind ++ ", expected " ++ expected)

/-- The value at the front of a text, of which only the first character is read if it is an array
or an object; it serves to say what was found. -/
def glimpse : Reader Json := fun text =>
  match skipBlanks text with
  | '[' :: rest => .ok (.arr [], rest)
  | '\x7b' :: rest => .ok (.obj [], rest)
  | text => value 1 text

/-- How the values of a type stand in JSON. -/
structure Schema (α : Type) where
  ofJson : Json → Except Fault α
  read : Reader α

/-- Takes a value that is neither array nor object off the front of a text and decodes it. -/
def readScalar {α : Type} (ofJson : Json → Except Fault α) : Reader α := fun text => do
  let (found, rest) ← glimpse text
  let result ← ofJson found
  .ok (result, rest)

namespace Schema

/-- Texts. -/
def text : Schema String :=
  let ofJson : Json → Except Fault String
    | .str value => .ok value
    | found => .error (.invalidType found "a string")
  ⟨ofJson, readScalar ofJson⟩

/-- Natural numbers below `2 ^ bits`, under the name of their type. -/
def word (name : String) (bits : Nat) : Schema Nat :=
  let ofJson : Json → Except Fault Nat
    | .int value =>
      if 0 ≤ value ∧ value.toNat < 1 <<< bits then .ok value.toNat
      else .error (.invalidValue (.int value) name)
    | found => .error (.invalidType found name)
  ⟨ofJson, readScalar ofJson⟩

/-- The refusal of a name that is none of a choice. -/
def unknownVariant (name : String) (choices : List String) : Fault :=
  .mismatch ("unknown variant `" ++ name ++ "`, expected " ++
    " or ".intercalate (choices.map fun choice => "`" ++ choice ++ "`"))

/-- The value of a choice that has the given name. -/
def choose {α : Type} (choices : List (String × α)) (name : String) : Except Fault α :=
  match choices.find? fun choice => choice.1 == name with
  | some (_, value) => .ok value
  | none => .error (unknownVariant name (choices.map (·.1)))

/-- The only value that may stand beside a chosen name. -/
def unit : Json → Except Fault Unit
  | .null => .ok ()
  | found => .error (.invalidType found "unit")

/-- Takes a choice off a text: its name, or an object whose only member has that name and the value
`null`. -/
def readChoice {α : Type} (choices : List (String × α)) : Reader α := fun text =>
  match skipBlanks text with
  | [] => .error .endOfText
  | '"' :: rest => do
    let (name, rest) ← quoted rest
    let value ← choose choices name
    .ok (value, rest)
  | '\x7b' :: rest => do
    let name (found : Json) : Except Fault String :=
      match found with
      | .str name => .ok name
      | found => .error (.invalidType found "variant identifier")
    let (name, rest) ← readScalar name rest
    let value ← choose choices name
    let ((), rest) ← colon rest
    let ((), rest) ← readScalar unit rest
    match skipBlanks rest with
    | [] => .error .endOfText
    | '\x7d' :: rest => .ok (value, rest)
    | _ => .error .malformed
  | _ => .error .malformed

/-- One of several named values. -/
def choice {α : Type} (choices : List (String × α)) : Schema α where
  ofJson
    | .str name => choose choices name
    | .obj [(name, beside)] => do
      let value ← choose choices name
      unit beside
      .ok value
    | .obj _ => .error (.mismatch "invalid value: map, expected map with a single key")
    | found => .error (.invalidType found "string or map")
  read := readChoice choices

end Schema

/-- A field of a section, as its name and the ways to store what was found for it. -/
structure Field (σ : Type) where
  name : String
  store : Json → σ → Except Fault σ
  readInto : σ → Reader σ

/-- The field of the given name and schema. -/
def Field.of {σ α : Type} (name : String) (schema : Schema α) (set : α → σ → σ) : Field σ where
  name := name
  store found sofar := do return set (← schema.ofJson found) sofar
  readInto sofar text := do
    let (value, rest) ← schema.read text
    .ok (set value sofar, rest)

/-- Stores the members of an object into the fields of their names. -/
def storeMembers {σ : Type} (fields : List (Field σ)) : List (String × Json) → σ → Except Fault σ
  | [], sofar => .ok sofar
  | (name, found) :: rest, sofar =>
    match fields.find? fun field => field.name == name with
    | some field => do storeMembers fields rest (← field.store found sofar)
    | none => storeMembers fields rest sofar

/-- Stores the items of an array into the fields in their order. -/
def storeItems {σ : Type} (size : Nat) :
    List (Field σ) → List Json → σ → Except Fault σ
  | _, [], sofar => .ok sofar
  | [], _ :: _, _ =>
    .error (.mismatch
      ("invalid length " ++ toString size ++ ", expected fewer elements in array"))
  | field :: fields, found :: rest, sofar => do
    storeItems size fields rest (← field.store found sofar)

/-- Takes one member off a text, into the field of its name if that is the first for it. -/
def readMember {σ : Type} (fields : List (Field σ)) (sofar : σ × List String) (name : String) :
    Reader (σ × List String) := fun text =>
  match fields.find? fun field => field.name == name with
  | some field =>
    if sofar.2.contains name then .error (.mismatch ("duplicate field `" ++ name ++ "`"))
    else do
      let ((), rest) ← colon text
      let (next, rest) ← field.readInto sofar.1 rest
      .ok ((next, name :: sofar.2), rest)
  | none => do
    let ((), rest) ← colon text
    let ((), rest) ← skipValue rest
    .ok (sofar, rest)

/-- Takes the items of an array off a text, into the fields in their order. -/
def readItems {σ : Type} : List (Field σ) → (first : Bool) → σ → Reader σ
  | [], _, sofar, text => do
    let ((), rest) ← endItems text
    .ok (sofar, rest)
  | field :: fields, first, sofar, text => do
    match ← nextItem first text with
    | none => do
      let ((), rest) ← endItems text
      .ok (sofar, rest)
    | some text => do
      let (sofar, rest) ← field.readInto sofar text
      readItems fields false sofar rest

/-- The section of the given fields, under the name it has in refusals. -/
def Schema.fields {σ : Type} (name : String) (default : σ) (fields : List (Field σ)) :
    Schema σ where
  ofJson
    | .obj members => storeMembers fields members default
    | .arr items => storeItems items.length fields items default
    | found => .error (.invalidType found ("struct " ++ name))
  read text :=
    match skipBlanks text with
    | '[' :: rest => readItems fields true default rest
    | '\x7b' :: rest => do
      let ((result, _), rest) ← objectOf (readMember fields) (default, []) rest
      .ok (result, rest)
    | text => readScalar (fun found => .error (.invalidType found ("struct " ++ name))) text

end LiveCounter.Json
