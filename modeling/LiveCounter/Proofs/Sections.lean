import LiveCounter.Proofs.Members
import LiveCounter.Settings.Basic

/-!
# Sections by their fields

An object is decoded member by member, in the order of their names. Since its members stand in that
order already, the same result comes from going through the fields instead, in the order of their
names, and looking up what the object holds for each: what is found for one field does not touch
another, members of other names play no part, and of several faults the one of the first field is
reported. So the sections of the settings are equal to plain records, one look-up to a field.
-/

namespace LiveCounter

namespace Json

section Fields

variable {σ α : Type} {members rest : List (String × Json)}

/-- The fields in the order of their names, the first one of each name. -/
def byName (fields : List (Field σ)) : List (String × Field σ) :=
  fields.foldr (fun field sorted => insert field.name field sorted) []

/-- Sorted by name, the fields are in order. -/
theorem ordered_byName (fields : List (Field σ)) : Ordered (byName fields) := by
  induction fields with
  | nil => exact List.Pairwise.nil
  | cons field fields ih => exact ih.insert _ _

/-- Sorting does not change which field is found under a name. -/
theorem find?_byName (name : String) (fields : List (Field σ)) :
    find? name (byName fields) = fields.find? fun field => field.name == name := by
  induction fields with
  | nil => rfl
  | cons field fields ih =>
    show find? name (insert field.name field (byName fields)) = _
    rw [find?_insert, ih, List.find?_cons]
    by_cases heq : field.name = name
    · simp [heq]
    · simp [beq_false_of_ne heq, Ne.symm heq]

/-- Stores what an object holds for each field, field by field. -/
def storeFields : List (String × Field σ) → List (String × Json) → σ → Except Fault σ
  | [], _, sofar => .ok sofar
  | (name, field) :: fields, members, sofar =>
    match find? name members with
    | none => storeFields fields members sofar
    | some found => field.store found sofar >>= storeFields fields members

/-- Nothing is stored from an object without members. -/
theorem storeFields_nil (fields : List (String × Field σ)) (sofar : σ) :
    storeFields fields [] sofar = .ok sofar := by
  induction fields with
  | nil => rfl
  | cons field fields ih => exact ih

/-- The first member of an object is stored before all others, if there is a field of its name. -/
theorem storeFields_cons {fields : List (String × Field σ)} {name : String} {found : Json}
    (hfields : Ordered fields) (hfirst : ∀ member ∈ rest, name < member.1) (sofar : σ) :
    storeFields fields ((name, found) :: rest) sofar =
      match find? name fields with
      | none => storeFields fields rest sofar
      | some field => field.store found sofar >>= storeFields fields rest := by
  induction fields generalizing sofar with
  | nil => rfl
  | cons entry fields ih =>
    obtain ⟨key, field⟩ := entry
    obtain ⟨hkey, hothers⟩ := ordered_cons_iff.mp hfields
    have hnothing (hnone : find? name fields = none) :
        storeFields fields ((name, found) :: rest) = storeFields fields rest := by
      funext next
      rw [ih hothers, hnone]
    by_cases heq : name = key
    · -- The fields behind this one have later names, so the member is nothing to them.
      subst heq
      have hlater : find? name fields = none := find?_eq_none_of_lt hkey
      have hgone : find? name rest = none := find?_eq_none_of_lt hfirst
      simp only [storeFields, find?, if_true, hgone, hnothing hlater]
    · have hhere : find? name ((key, field) :: fields) = find? name fields := by
        rw [find?, if_neg heq]
      have hskip : find? key ((name, found) :: rest) = find? key rest := by
        rw [find?, if_neg (Ne.symm heq)]
      rw [hhere, storeFields, hskip]
      by_cases hbefore : key < name
      · have hmissing : find? key rest = none :=
          find?_eq_none_of_lt fun member hmember => String.lt_trans hbefore (hfirst member hmember)
        simp only [storeFields, hmissing, ih hothers]
      · have hafter : name < key := by grind
        have hlater : find? name fields = none :=
          find?_eq_none_of_lt fun other hother => String.lt_trans hafter (hkey other hother)
        simp only [storeFields, hlater, hnothing hlater]

/-- Going through the members is going through the fields, when both have the same order. -/
theorem storeMembers_eq_storeFields (fields : List (Field σ)) (hmembers : Ordered members)
    (sofar : σ) :
    storeMembers fields members sofar = storeFields (byName fields) members sofar := by
  induction members generalizing sofar with
  | nil => exact (storeFields_nil _ _).symm
  | cons member rest ih =>
    obtain ⟨name, found⟩ := member
    obtain ⟨hfirst, hrest⟩ := ordered_cons_iff.mp hmembers
    rw [storeFields_cons (ordered_byName fields) hfirst, find?_byName, storeMembers]
    cases fields.find? fun field => field.name == name with
    | none => exact ih hrest sofar
    | some field => exact bind_congr fun next => ih hrest next

/-- What an object holds under a name: the default where it has no such member. -/
def Schema.at (schema : Schema α) (name : String) (default : α) (members : List (String × Json)) :
    Except Fault α :=
  match find? name members with
  | none => .ok default
  | some found => schema.ofJson found

/-- A field takes what the object holds under its name, or keeps its current value. -/
theorem storeFields_of {name : String} {schema : Schema α} {set : α → σ → σ} {sofar : σ}
    {fields : List (String × Field σ)} (current : α) (hcurrent : set current sofar = sofar) :
    storeFields ((name, .of name schema set) :: fields) members sofar = (do
      let value ← schema.at name current members
      storeFields fields members (set value sofar)) := by
  rw [storeFields, Schema.at]
  cases find? name members with
  | none =>
    show _ = storeFields fields members (set current sofar)
    rw [hcurrent]
  | some found =>
    show ((schema.ofJson found >>= fun value => pure (set value sofar)) >>= _) = _
    rw [bind_assoc]
    rfl

end Fields

end Json

open Json (Schema Ordered)

variable {members : List (String × Json)}

/-- The section is decoded field by field, in the order of the names. -/
theorem ServerSettings.ofJson_obj (h : Ordered members) :
    schema.ofJson (.obj members) = (do
      let host ← Schema.text.at "host" "0.0.0.0" members
      let port ← (Schema.word "u16" 16).at "port" 8080 members
      let timeout ← (Schema.word "u64" 64).at "shutdownTimeoutMs" 10000 members
      return { host, port := .ofNat port, shutdownTimeoutMs := .ofNat timeout }) := by
  refine (Json.storeMembers_eq_storeFields _ h _).trans ?_
  refine (Json.storeFields_of _ rfl).trans (bind_congr fun host => ?_)
  refine (Json.storeFields_of _ rfl).trans (bind_congr fun port => ?_)
  refine (Json.storeFields_of _ rfl).trans (bind_congr fun timeout => ?_)
  rfl

/-- The section is decoded field by field, in the order of the names. -/
theorem StreamSettings.ofJson_obj (h : Ordered members) :
    schema.ofJson (.obj members) = (do
      let detection ← (Schema.word "u64" 64).at "detectionIntervalMs" 1000 members
      let idle ← (Schema.word "u64" 64).at "idleTimeoutMs" 60000 members
      let keepalive ← (Schema.word "u64" 64).at "keepaliveIntervalMs" 15000 members
      let connections ← (Schema.word "usize" 64).at "maxConnections" 100000 members
      let drops ← (Schema.word "u32" 32).at "maxConsecutiveDrops" 32 members
      let capacity ← (Schema.word "usize" 64).at "queueCapacity" 10 members
      let timeout ← (Schema.word "u64" 64).at "writeTimeoutMs" 1000 members
      return {
        maxConnections := .ofNat connections
        queueCapacity := .ofNat capacity
        maxConsecutiveDrops := .ofNat drops
        idleTimeoutMs := .ofNat idle
        detectionIntervalMs := .ofNat detection
        keepaliveIntervalMs := .ofNat keepalive
        writeTimeoutMs := .ofNat timeout }) := by
  refine (Json.storeMembers_eq_storeFields _ h _).trans ?_
  refine (Json.storeFields_of _ rfl).trans (bind_congr fun detection => ?_)
  refine (Json.storeFields_of _ rfl).trans (bind_congr fun idle => ?_)
  refine (Json.storeFields_of _ rfl).trans (bind_congr fun keepalive => ?_)
  refine (Json.storeFields_of _ rfl).trans (bind_congr fun connections => ?_)
  refine (Json.storeFields_of _ rfl).trans (bind_congr fun drops => ?_)
  refine (Json.storeFields_of _ rfl).trans (bind_congr fun capacity => ?_)
  refine (Json.storeFields_of _ rfl).trans (bind_congr fun timeout => ?_)
  rfl

/-- The section is decoded field by field, in the order of the names. -/
theorem LoggingSettings.ofJson_obj (h : Ordered members) :
    schema.ofJson (.obj members) = (do
      let format ← LogFormat.schema.at "format" .compact members
      let level ← Schema.text.at "level" "info" members
      return { level, format }) := by
  refine (Json.storeMembers_eq_storeFields _ h _).trans ?_
  refine (Json.storeFields_of _ rfl).trans (bind_congr fun format => ?_)
  refine (Json.storeFields_of _ rfl).trans (bind_congr fun level => ?_)
  rfl

/-- The settings are decoded section by section, in the order of the names. -/
theorem Settings.ofJson_obj (h : Ordered members) :
    schema.ofJson (.obj members) = (do
      let logging ← LoggingSettings.schema.at "logging" {} members
      let server ← ServerSettings.schema.at "server" {} members
      let stream ← StreamSettings.schema.at "stream" {} members
      return { server, stream, logging }) := by
  refine (Json.storeMembers_eq_storeFields _ h _).trans ?_
  refine (Json.storeFields_of _ rfl).trans (bind_congr fun logging => ?_)
  refine (Json.storeFields_of _ rfl).trans (bind_congr fun server => ?_)
  refine (Json.storeFields_of _ rfl).trans (bind_congr fun stream => ?_)
  rfl

end LiveCounter
