import LiveCounter.Http.Percent

/-!
# Query strings

The fields of a form stand in a query as `name=value`, joined by `&`, with `+` for a blank. A field
without a value has the empty one. Bytes that are no text are replaced; no name and no number that
the server knows has the replacement in it.
-/

namespace LiveCounter.Query

/-- The text of a name or a value of a form. -/
def decodePart (text : String) : String :=
  Percent.decodeTextLossy (text.map fun c => if c = '+' then ' ' else c)

/-- The name and the value of one field. -/
def field (text : String) : String × String :=
  let chars := text.toList
  let name := chars.takeWhile (· != '=')
  let value := (chars.dropWhile (· != '=')).drop 1
  (decodePart (String.ofList name), decodePart (String.ofList value))

/-- The fields of a query, in order. -/
def fields (query : String) : List (String × String) :=
  ((query.splitOn "&").filter fun part => !part.isEmpty).map field

/-- A field that may occur once occurs again. -/
structure DuplicateField where
  name : String
  deriving DecidableEq, Repr

/-- The wording of a query that is refused. -/
def DuplicateField.message (fault : DuplicateField) : String :=
  "Failed to deserialize query string: duplicate field `" ++ fault.name ++ "`"

/-- The value of the field of the given name, which may occur once. -/
def value? (query : Option String) (name : String) : Except DuplicateField (Option String) :=
  match (fields (query.getD "")).filter fun field => field.1 == name with
  | [] => .ok none
  | [field] => .ok (some field.2)
  | _ => .error ⟨name⟩

end LiveCounter.Query
