import LiveCounter.Json.Merge

/-!
# Looking into JSON values

The members of an object by name, and values as the texts, truth values and words that they are.
-/

namespace LiveCounter.Json

/-- A member of an object. -/
def member? (json : Json) (name : String) : Option Json :=
  match json with
  | .obj members => find? name members
  | _ => none

/-- The text of a value. -/
def asText? : Json → Option String
  | .str text => some text
  | _ => none

/-- The truth value of a value. -/
def asFlag? : Json → Option Bool
  | .bool flag => some flag
  | _ => none

/-- The unsigned number of 64 bits of a value. -/
def asWord? : Json → Option Nat
  | .int value => if 0 ≤ value ∧ value.toNat < 1 <<< 64 then some value.toNat else none
  | _ => none

/-- The signed number of 64 bits of a value. -/
def asInt64? : Json → Option Int64
  | .int value =>
    if Int64.minValue.toInt ≤ value ∧ value ≤ Int64.maxValue.toInt then some (.ofInt value)
    else none
  | _ => none

/-- The items of a value. -/
def asItems? : Json → Option (List Json)
  | .arr items => some items
  | _ => none

/-- A member that is a text. -/
def text? (json : Json) (name : String) : Option String := (json.member? name).bind asText?

/-- A member that is a truth value. -/
def flag? (json : Json) (name : String) : Option Bool := (json.member? name).bind asFlag?

/-- A member that is an unsigned number of 64 bits. -/
def word? (json : Json) (name : String) : Option Nat := (json.member? name).bind asWord?

end LiveCounter.Json
