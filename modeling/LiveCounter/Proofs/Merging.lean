import LiveCounter.Proofs.Sections
import LiveCounter.Settings.Load

/-!
# Defaults laid under a value

A value may be laid over the defaults before it is decoded, or decoded as it stands, where the
decoder fills in what is missing. Both give the same settings or the same fault, as long as no
`null` stands in the value: a `null` leaves the default alone in the first way and is refused in the
second. Scalars, arrays and objects over a default that is no object take its place as they are; an
object over an object is settled field by field, with a smaller default for each.
-/

namespace LiveCounter

namespace Json

/-- The value is no `null`, and none stands in it at any depth. -/
inductive NullFree : Json → Prop where
  | bool {value : Bool} : NullFree (.bool value)
  | int {value : Int} : NullFree (.int value)
  | float {value : Float} : NullFree (.float value)
  | str {value : String} : NullFree (.str value)
  | arr {items : List Json} (hitems : ∀ item ∈ items, NullFree item) : NullFree (.arr items)
  | obj {members : List (String × Json)} (hmembers : ∀ member ∈ members, NullFree member.2) :
      NullFree (.obj members)

attribute [simp] NullFree.bool NullFree.int NullFree.float NullFree.str

/-- An array is free of nulls when its items are. -/
@[simp] theorem nullFree_arr_iff {items : List Json} :
    (Json.arr items).NullFree ↔ ∀ item ∈ items, item.NullFree :=
  ⟨fun | .arr hitems => hitems, .arr⟩

/-- An object is free of nulls when its values are. -/
@[simp] theorem nullFree_obj_iff {members : List (String × Json)} :
    (Json.obj members).NullFree ↔ ∀ member ∈ members, member.2.NullFree :=
  ⟨fun | .obj hmembers => hmembers, .obj⟩

/-- Laying a value over `lower` does not change what is decoded from it. -/
def Schema.Absorbs {α : Type} (schema : Schema α) (lower : Json) : Prop :=
  ∀ upper : Json, upper.Canonical → upper.NullFree →
    schema.ofJson (merge lower upper) = schema.ofJson upper

section Absorbing

variable {α β : Type} {schema : Schema α}

/-- Whatever lies over a text replaces it. -/
theorem absorbs_str (text : String) : schema.Absorbs (.str text) := fun upper _ _ => by
  rw [merge_eq_upper fun _ => Json.noConfusion]

/-- Whatever lies over a number replaces it. -/
theorem absorbs_int (n : Int) : schema.Absorbs (.int n) := fun upper _ _ => by
  rw [merge_eq_upper fun _ => Json.noConfusion]

/-- An object is absorbed if it is absorbed under objects; anything else takes its place. -/
theorem absorbs_obj {lower : List (String × Json)}
    (h : ∀ upper : List (String × Json), (Json.obj upper).Canonical → (Json.obj upper).NullFree →
      schema.ofJson (.obj (mergeMembers lower upper)) = schema.ofJson (.obj upper)) :
    schema.Absorbs (.obj lower) := by
  intro upper hcanonical hnull
  cases upper with
  | obj members => exact h members hcanonical hnull
  | _ => rfl

/-- A field finds the same in an object and in the object over the defaults, if the default that
stands there decodes to the default of the field and is absorbed. -/
theorem Schema.at_mergeMembers {name : String} {default : α} {lower upper : List (String × Json)}
    {encoded : Json} (hcanonical : (Json.obj upper).Canonical) (hnull : (Json.obj upper).NullFree)
    (hencoded : find? name lower = some encoded) (hdefault : schema.ofJson encoded = .ok default)
    (habsorbs : schema.Absorbs encoded) :
    schema.at name default (mergeMembers lower upper) = schema.at name default upper := by
  obtain ⟨hordered, hmembers⟩ := canonical_obj_iff.mp hcanonical
  rw [Schema.at, find?_mergeMembers hordered, hencoded, Schema.at]
  cases hfound : find? name upper with
  | none => exact hdefault
  | some found =>
    have hmember : (name, found) ∈ upper := mem_of_find? hfound
    have hfree : found.NullFree := nullFree_obj_iff.mp hnull _ hmember
    have hmerged : overlay (some encoded) (some found) = some (merge encoded found) := by
      cases hfree <;> rfl
    rw [hmerged]
    exact habsorbs found (hmembers _ hmember) hfree

/-- Two steps agree with two others if each does. -/
theorem bind_eq_bind {first second : Except Fault α} {next next' : α → Except Fault β}
    (hfirst : first = second) (hnext : ∀ a, next a = next' a) :
    (first >>= next) = (second >>= next') := by
  rw [hfirst, funext hnext]

end Absorbing

end Json

open Json (Schema)

/-- The members of the section about the listener, in the JSON form of the defaults. -/
def ServerSettings.defaults : List (String × Json) :=
  [("host", .str "0.0.0.0"), ("port", .int 8080), ("shutdownTimeoutMs", .int 10000)]

/-- The members of the section about streams, in the JSON form of the defaults. -/
def StreamSettings.defaults : List (String × Json) :=
  [("detectionIntervalMs", .int 1000), ("idleTimeoutMs", .int 60000),
    ("keepaliveIntervalMs", .int 15000), ("maxConnections", .int 100000),
    ("maxConsecutiveDrops", .int 32), ("queueCapacity", .int 10), ("writeTimeoutMs", .int 1000)]

/-- The members of the section about logs, in the JSON form of the defaults. -/
def LoggingSettings.defaults : List (String × Json) :=
  [("format", .str "compact"), ("level", .str "info")]

/-- The JSON form of the defaults, by sections. -/
def Settings.defaults : List (String × Json) :=
  [("logging", .obj LoggingSettings.defaults), ("server", .obj ServerSettings.defaults),
    ("stream", .obj StreamSettings.defaults)]

/-- The defaults have the JSON form that is laid under a file. -/
theorem Settings.json_default : json {} = .obj defaults := rfl

/-- The members of the section are in order. -/
theorem ServerSettings.ordered_defaults : Json.Ordered defaults := by decide

/-- The members of the section are in order. -/
theorem StreamSettings.ordered_defaults : Json.Ordered defaults := by decide

/-- The members of the section are in order. -/
theorem LoggingSettings.ordered_defaults : Json.Ordered defaults := by decide

/-- The sections are in order. -/
theorem Settings.ordered_defaults : Json.Ordered defaults := by decide

/-- A section decodes to the same settings over the defaults as without them. -/
theorem ServerSettings.absorbs_defaults : schema.Absorbs (.obj defaults) := by
  refine Json.absorbs_obj fun upper hcanonical hnull => ?_
  rw [ofJson_obj ordered_defaults.mergeMembers, ofJson_obj hcanonical.ordered]
  refine Json.bind_eq_bind ?host fun host => Json.bind_eq_bind ?port fun port =>
    Json.bind_eq_bind ?timeout fun timeout => rfl
  case host => exact Schema.at_mergeMembers hcanonical hnull rfl rfl (Json.absorbs_str _)
  case port => exact Schema.at_mergeMembers hcanonical hnull rfl rfl (Json.absorbs_int _)
  case timeout => exact Schema.at_mergeMembers hcanonical hnull rfl rfl (Json.absorbs_int _)

/-- A section decodes to the same settings over the defaults as without them. -/
theorem StreamSettings.absorbs_defaults : schema.Absorbs (.obj defaults) := by
  refine Json.absorbs_obj fun upper hcanonical hnull => ?_
  rw [ofJson_obj ordered_defaults.mergeMembers, ofJson_obj hcanonical.ordered]
  refine Json.bind_eq_bind ?detection fun detection => Json.bind_eq_bind ?idle fun idle =>
    Json.bind_eq_bind ?keepalive fun keepalive => Json.bind_eq_bind ?connections fun connections =>
    Json.bind_eq_bind ?drops fun drops => Json.bind_eq_bind ?capacity fun capacity =>
    Json.bind_eq_bind ?timeout fun timeout => rfl
  all_goals exact Schema.at_mergeMembers hcanonical hnull rfl rfl (Json.absorbs_int _)

/-- A section decodes to the same settings over the defaults as without them. -/
theorem LoggingSettings.absorbs_defaults : schema.Absorbs (.obj defaults) := by
  refine Json.absorbs_obj fun upper hcanonical hnull => ?_
  rw [ofJson_obj ordered_defaults.mergeMembers, ofJson_obj hcanonical.ordered]
  refine Json.bind_eq_bind ?format fun format => Json.bind_eq_bind ?level fun level => rfl
  all_goals exact Schema.at_mergeMembers hcanonical hnull rfl rfl (Json.absorbs_str _)

/-- A file decodes to the same settings over the defaults as without them. -/
theorem Settings.absorbs_defaults : schema.Absorbs (.obj defaults) := by
  refine Json.absorbs_obj fun upper hcanonical hnull => ?_
  rw [ofJson_obj ordered_defaults.mergeMembers, ofJson_obj hcanonical.ordered]
  refine Json.bind_eq_bind ?logging fun logging => Json.bind_eq_bind ?server fun server =>
    Json.bind_eq_bind ?stream fun stream => rfl
  case logging =>
    exact Schema.at_mergeMembers hcanonical hnull rfl rfl LoggingSettings.absorbs_defaults
  case server =>
    exact Schema.at_mergeMembers hcanonical hnull rfl rfl ServerSettings.absorbs_defaults
  case stream =>
    exact Schema.at_mergeMembers hcanonical hnull rfl rfl StreamSettings.absorbs_defaults

namespace Settings

/-- Decoding a value over the defaults and decoding it as it stands give the same settings or the
same fault. Its members have to stand in the order of their names, as those of every value do that
a text denotes: the fault that is reported is the first in that order. -/
theorem ofJson_over_defaults {v : Json} (hcanonical : v.Canonical) (hnull : v.NullFree) :
    schema.ofJson (Json.merge (json {}) v) = schema.ofJson v := by
  rw [json_default]
  exact absorbs_defaults v hcanonical hnull

/-- A section that stands as an array is decoded item by item, and the item that is too large for
its word is reported in both ways; the name that is no section is passed over. -/
theorem ofJson_over_defaults_of_array :
    let v : Json := .obj [
      ("extra", .obj [("depth", .float 0.5)]),
      ("logging", .obj [("color", .bool true), ("format", .str "json")]),
      ("server", .arr [.str "::1"]),
      ("stream", .arr [.int 5, .int 6, .int 4294967296])]
    v.Canonical ∧ v.NullFree ∧ schema.ofJson (Json.merge (json {}) v) = schema.ofJson v ∧
      schema.ofJson v =
        .error (.mismatch "invalid value: integer `4294967296`, expected u32") := by
  intro v
  have hcanonical : v.Canonical := by
    have hdepth : Json.Ordered [("depth", Json.float 0.5)] := by decide
    have hlogging : Json.Ordered [("color", Json.bool true), ("format", .str "json")] := by decide
    refine Json.canonical_obj_iff.mpr ⟨by decide, ?_⟩
    simp [hdepth, hlogging]
  have hnull : v.NullFree := by simp [v]
  exact ⟨hcanonical, hnull, ofJson_over_defaults hcanonical hnull, rfl⟩

end Settings

end LiveCounter
