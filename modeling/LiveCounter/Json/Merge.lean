import LiveCounter.Json.Value

/-!
# Merging JSON values

One value is laid over another. Objects are merged member by member; a `null` member of the upper
object leaves the lower one alone. Any other pair gives the upper value.
-/

namespace LiveCounter.Json

/-- The value of the member of the given name. -/
def find? {α : Type} (name : String) : List (String × α) → Option α
  | [] => none
  | (other, value) :: rest => if name = other then some value else find? name rest

mutual

/-- The value that results from laying `upper` over `lower`. -/
def merge (lower : Json) : (upper : Json) → Json
  | .obj members =>
    match lower with
    | .obj sofar => .obj (mergeMembers sofar members)
    | _ => .obj members
  | upper => upper

/-- The members that result from laying the members of an object over `sofar`, in turn. -/
def mergeMembers (sofar : List (String × Json)) : List (String × Json) → List (String × Json)
  | [] => sofar
  | (name, upper) :: rest =>
    match upper with
    | .null => mergeMembers sofar rest
    | upper =>
      match find? name sofar with
      | some lower => mergeMembers (insert name (merge lower upper) sofar) rest
      | none => mergeMembers (insert name upper sofar) rest

end

end LiveCounter.Json
