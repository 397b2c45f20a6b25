import LiveCounter.Json.Access
import LiveCounter.Proofs.Members

/-!
# Laws of laying values over one another

Laying a value over another twice gives what doing it once gives. Of two objects the upper one adds
its members to those of the lower one, except for those that are `null`: they leave the member below
alone, and the upper object may as well be without them. This goes for the objects that a chain of
members leads to, as long as there is an object in both values: where the lower value has none, the
upper one takes the place as it is, with every `null` in it.
-/

namespace LiveCounter.Json

/-! ## Objects with a member changed -/

section Changing

variable {α : Type} {name key : String} {members : List (String × α)}

/-- Takes a member out. -/
def eraseMember (name : String) (members : List (String × α)) : List (String × α) :=
  members.filter fun member => member.1 ≠ name

/-- Changes the value of a member. -/
def modifyMember (key : String) (f : α → α) (members : List (String × α)) : List (String × α) :=
  members.map fun member => (member.1, if member.1 = key then f member.2 else member.2)

/-- A member that is taken out is not found any more, and others are. -/
theorem find?_eraseMember (name key : String) (members : List (String × α)) :
    find? key (eraseMember name members) = if key = name then none else find? key members := by
  induction members with
  | nil => simp [eraseMember, find?]
  | cons member rest ih =>
    obtain ⟨other, value⟩ := member
    rw [eraseMember] at ih
    by_cases hother : other = name
    · subst hother
      rw [eraseMember, List.filter_cons_of_neg (by simp), ih, find?]
      split <;> rfl
    · rw [eraseMember, List.filter_cons_of_pos (by simpa using hother), find?, ih, find?]
      grind

/-- A member that is changed is found with its new value, and others are found as they were. -/
theorem find?_modifyMember (key name : String) (f : α → α) (members : List (String × α)) :
    find? name (modifyMember key f members) =
      if name = key then (find? name members).map f else find? name members := by
  induction members with
  | nil => simp [modifyMember, find?]
  | cons member rest ih =>
    obtain ⟨other, value⟩ := member
    rw [modifyMember] at ih
    rw [modifyMember, List.map_cons, find?, ih, find?]
    grind

/-- Members stay in order when one is taken out. -/
theorem Ordered.eraseMember (name : String) (h : Ordered members) :
    Ordered (eraseMember name members) :=
  List.Pairwise.filter _ h

/-- Members stay in order when the value of one changes. -/
theorem Ordered.modifyMember (key : String) (f : α → α) (h : Ordered members) :
    Ordered (modifyMember key f members) :=
  List.Pairwise.map _ (fun _ _ => id) h

end Changing

/-! ## Objects -/

section Objects

variable {lower upper : Json} {name : String}

/-- The value is an object. -/
def IsObject (v : Json) : Prop := ∃ members, v = .obj members

/-- The names of the members of an object. -/
def names : Json → List String
  | .obj members => members.map Prod.fst
  | _ => []

/-- An object has a member of each of its names. -/
theorem mem_names_iff {v : Json} : name ∈ v.names ↔ ∃ found, v.member? name = some found := by
  cases v with
  | obj members =>
    rw [names, member?]
    induction members with
    | nil => simp [find?]
    | cons member rest ih =>
      rw [List.map_cons, List.mem_cons, ih, find?]
      by_cases h : name = member.1 <;> simp [h]
  | _ => simp [names, member?]

/-- Objects are laid over one another name by name. -/
theorem member?_merge (hlower : lower.IsObject) (hupper : upper.IsObject)
    (hcanonical : upper.Canonical) :
    (merge lower upper).member? name = overlay (lower.member? name) (upper.member? name) := by
  obtain ⟨sofar, rfl⟩ := hlower
  obtain ⟨members, rfl⟩ := hupper
  exact find?_mergeMembers hcanonical.ordered

/-- The result has the members below, and those above that are no `null`. -/
theorem mem_names_merge_iff (hlower : lower.IsObject) (hupper : upper.IsObject)
    (hcanonical : upper.Canonical) :
    name ∈ (merge lower upper).names ↔
      name ∈ lower.names ∨ name ∈ upper.names ∧ upper.member? name ≠ some .null := by
  simp only [mem_names_iff, member?_merge hlower hupper hcanonical]
  cases upper.member? name with
  | none => simp [overlay_none]
  | some above =>
    by_cases hnull : above = .null
    · simp [hnull, overlay_null]
    · simp [overlay_of_ne_null _ hnull, hnull]

/-- What is absent above, or `null`, leaves alone what is below. -/
theorem member?_merge_of_absent (hlower : lower.IsObject) (hupper : upper.IsObject)
    (hcanonical : upper.Canonical)
    (h : upper.member? name = none ∨ upper.member? name = some .null) :
    (merge lower upper).member? name = lower.member? name := by
  rw [member?_merge hlower hupper hcanonical]
  rcases h with h | h
  · rw [h, overlay_none]
  · rw [h, overlay_null]

/-- Objects merge into an object. -/
theorem isObject_merge (hlower : lower.IsObject) (hupper : upper.IsObject) :
    (merge lower upper).IsObject := by
  obtain ⟨sofar, rfl⟩ := hlower
  obtain ⟨members, rfl⟩ := hupper
  exact ⟨_, rfl⟩

end Objects

/-! ## Laying a value over another again -/

section Again

variable {lower upper : Json}

/-- Laying members over others changes nothing if each of them, unless it is `null`, changes nothing
of what there is under its name. -/
theorem mergeMembers_eq_left {sofar members : List (String × Json)} (hsofar : Ordered sofar)
    (hmembers : Ordered members)
    (h : ∀ name above, find? name members = some above → above ≠ .null →
      ∃ below, find? name sofar = some below ∧ merge below above = below) :
    mergeMembers sofar members = sofar := by
  refine hsofar.mergeMembers.ext hsofar fun name => ?_
  rw [find?_mergeMembers hmembers]
  cases hfound : find? name members with
  | none => exact overlay_none _
  | some above =>
    by_cases hnull : above = .null
    · rw [hnull, overlay_null]
    · obtain ⟨below, hbelow, hmerge⟩ := h name above hfound hnull
      rw [hbelow, overlay_of_ne_null _ hnull]
      exact congrArg some hmerge

/-- A value over itself gives itself. -/
theorem merge_self {v : Json} (h : v.Canonical) : merge v v = v := by
  induction h with
  | @obj members hordered hmembers ih =>
    refine congrArg Json.obj (mergeMembers_eq_left hordered hordered fun name above hfound _ => ?_)
    exact ⟨above, hfound, ih _ (mem_of_find? hfound)⟩
  | _ => rfl

/-- Whatever a value is laid over, laying it over the result again changes nothing. A member that
was missing below is there as a whole then, with every `null` in it, and lies over itself. -/
theorem merge_merge (hlower : lower.Canonical) (hupper : upper.Canonical) :
    merge (merge lower upper) upper = merge lower upper := by
  induction hupper generalizing lower with
  | @obj members hordered hmembers ih =>
    by_cases hobject : lower.IsObject
    · obtain ⟨sofar, rfl⟩ := hobject
      obtain ⟨hsofar, hlow⟩ := canonical_obj_iff.mp hlower
      refine congrArg Json.obj (mergeMembers_eq_left hsofar.mergeMembers hordered ?_)
      intro name above hfound hnull
      have hmember : (name, above) ∈ members := mem_of_find? hfound
      rw [find?_mergeMembers hordered, hfound, overlay_of_ne_null _ hnull]
      cases hbelow : find? name sofar with
      | none => exact ⟨above, rfl, merge_self (hmembers _ hmember)⟩
      | some below => exact ⟨_, rfl, ih _ hmember (hlow _ (mem_of_find? hbelow))⟩
    · rw [merge_eq_upper (not_exists.mp hobject)]
      exact merge_self (.obj hordered hmembers)
  | _ => rfl

end Again

/-! ## Chains of members -/

section Chains

variable {lower upper inner : Json} {name key : String} {path : List String}

/-- The value that a chain of members leads to. -/
def at? : Json → List String → Option Json
  | v, [] => some v
  | v, key :: path => (v.member? key).bind fun inner => inner.at? path

/-- Takes a member out of the object that a chain of members leads to. -/
def eraseAt (name : String) : List String → Json → Json
  | [], .obj members => .obj (eraseMember name members)
  | key :: path, .obj members => .obj (modifyMember key (eraseAt name path) members)
  | _, v => v

/-- The member is not there any more. -/
theorem at?_eraseAt (name : String) (path : List String) (v : Json) :
    (v.eraseAt name path).at? (path ++ [name]) = none := by
  induction path generalizing v with
  | nil =>
    cases v with
    | obj members => simp [eraseAt, at?, member?, find?_eraseMember]
    | _ => rfl
  | cons key path ih =>
    cases v with
    | obj members =>
      rw [eraseAt, List.cons_append, at?, member?, find?_modifyMember, if_pos rfl]
      cases find? key members with
      | none => rfl
      | some inner => exact ih inner
    | _ => rfl

/-- To take out a member that is there makes a difference. -/
theorem eraseAt_ne_self {v : Json} (h : v.at? (path ++ [name]) = some inner) :
    v.eraseAt name path ≠ v := fun heq => by
  have hgone := at?_eraseAt name path v
  rw [heq, h] at hgone
  cases hgone

/-- A chain of members that leads anywhere starts in an object. -/
theorem exists_member_of_at? {v : Json} (h : v.at? (key :: path) = some inner) :
    ∃ members found, v = .obj members ∧ find? key members = some found ∧
      found.at? path = some inner := by
  rw [at?, Option.bind_eq_some_iff] at h
  obtain ⟨found, hfound, hrest⟩ := h
  cases v with
  | obj members => exact ⟨members, found, rfl, hfound, hrest⟩
  | _ => cases hfound

/-- Only an object has an object within it. -/
theorem isObject_of_at? {v : Json} {members : List (String × Json)}
    (h : v.at? path = some (.obj members)) : v.IsObject := by
  cases path with
  | nil => exact ⟨members, Option.some.inj h⟩
  | cons key path =>
    obtain ⟨outer, -, heq, -⟩ := exists_member_of_at? h
    exact ⟨outer, heq⟩

/-- Only what is found under each name matters of the upper object. -/
theorem mergeMembers_eq_mergeMembers_iff {sofar members others : List (String × Json)}
    (hsofar : Ordered sofar) (hmembers : Ordered members) (hothers : Ordered others) :
    mergeMembers sofar members = mergeMembers sofar others ↔
      ∀ name, overlay (find? name sofar) (find? name members) =
        overlay (find? name sofar) (find? name others) := by
  simp only [← find?_mergeMembers hmembers, ← find?_mergeMembers hothers]
  exact ⟨fun h name => by rw [h], hsofar.mergeMembers.ext hsofar.mergeMembers⟩

/-- Taking out a member changes nothing that is laid over an object which has a `null` there. -/
theorem mergeMembers_eraseMember {sofar members : List (String × Json)} (hsofar : Ordered sofar)
    (hmembers : Ordered members) (hnull : find? name members = some .null) :
    mergeMembers sofar (eraseMember name members) = mergeMembers sofar members := by
  refine (mergeMembers_eq_mergeMembers_iff hsofar (hmembers.eraseMember name) hmembers).mpr ?_
  intro other
  rw [find?_eraseMember]
  split
  · next heq => rw [heq, hnull, overlay_null, overlay]
  · rfl

/-- Changing a member matters exactly if what results under its name changes. -/
theorem mergeMembers_modifyMember_iff {sofar members : List (String × Json)} {f : Json → Json}
    (hsofar : Ordered sofar) (hmembers : Ordered members)
    (hinner : find? key members = some inner) :
    mergeMembers sofar (modifyMember key f members) = mergeMembers sofar members ↔
      overlay (find? key sofar) (some (f inner)) = overlay (find? key sofar) (some inner) := by
  rw [mergeMembers_eq_mergeMembers_iff hsofar (hmembers.modifyMember key f) hmembers]
  constructor
  · intro h
    have hkey := h key
    rwa [find?_modifyMember, if_pos rfl, hinner] at hkey
  · intro h other
    rw [find?_modifyMember]
    split
    · next heq =>
      rw [heq, hinner]
      exact h
    · rfl

/-- To take out a member makes no value null. -/
theorem eraseAt_eq_null_iff {v : Json} : v.eraseAt name path = .null ↔ v = .null := by
  cases v <;> cases path <;> simp [eraseAt]

/-- Over a value that is no object, the upper value stands as it is, with or without the member. -/
theorem merge_eraseAt_iff_of_not_isObject (hlower : ¬ lower.IsObject)
    (h : upper.at? (path ++ [name]) = some inner) :
    merge lower (upper.eraseAt name path) = merge lower upper ↔
      ∃ members, lower.at? path = some (.obj members) := by
  rw [merge_eq_upper (not_exists.mp hlower), merge_eq_upper (not_exists.mp hlower)]
  exact iff_of_false (eraseAt_ne_self h) fun ⟨_, hmembers⟩ => hlower (isObject_of_at? hmembers)

/-- A `null` may be taken out exactly if there is an object in both values: where it stands, and at
the end of the same chain of members below. -/
theorem merge_eraseAt_iff (hlower : lower.Canonical) (hupper : upper.Canonical)
    (hnull : upper.at? (path ++ [name]) = some .null) :
    merge lower (upper.eraseAt name path) = merge lower upper ↔
      ∃ members, lower.at? path = some (.obj members) := by
  induction path generalizing lower upper with
  | nil =>
    by_cases hobject : lower.IsObject
    · obtain ⟨sofar, rfl⟩ := hobject
      obtain ⟨members, found, rfl, hfound, hrest⟩ := exists_member_of_at? hnull
      obtain rfl : found = .null := Option.some.inj hrest
      refine iff_of_true (congrArg Json.obj ?_) ⟨sofar, rfl⟩
      exact mergeMembers_eraseMember hlower.ordered hupper.ordered hfound
    · exact merge_eraseAt_iff_of_not_isObject hobject hnull
  | cons key path ih =>
    by_cases hobject : lower.IsObject
    · obtain ⟨sofar, rfl⟩ := hobject
      obtain ⟨members, found, rfl, hfound, hrest⟩ := exists_member_of_at? hnull
      obtain ⟨hsofar, hbelow⟩ := canonical_obj_iff.mp hlower
      obtain ⟨hmembers, habove⟩ := canonical_obj_iff.mp hupper
      have hne : found ≠ .null := by
        rintro rfl
        cases path <;> cases hrest
      -- The objects differ at most under `key`, where the shorter chain is followed.
      rw [eraseAt, merge, merge, Json.obj.injEq,
        mergeMembers_modifyMember_iff hsofar hmembers hfound, overlay_of_ne_null _ hne,
        overlay_of_ne_null _ (mt eraseAt_eq_null_iff.mp hne), Option.some.injEq, at?, member?]
      cases hlow : find? key sofar with
      | none =>
        refine iff_of_false (eraseAt_ne_self hrest) ?_
        rintro ⟨-, ⟨⟩⟩
      | some below =>
        exact ih (hbelow _ (mem_of_find? hlow)) (habove _ (mem_of_find? hfound)) hrest
    · exact merge_eraseAt_iff_of_not_isObject hobject hnull

end Chains

/-- The laws of laying one value over another. Doing it again changes nothing. Two objects give an
object with the members of the lower one and those of the upper one that are no `null`; a member
that is absent above, or `null`, is the one below. A `null` in an object above, at the end of any
chain of members, is as good as absent exactly if the same chain leads to an object below too. -/
theorem merging_follows_its_laws {lower upper : Json} (hlower : lower.Canonical)
    (hupper : upper.Canonical) :
    merge (merge lower upper) upper = merge lower upper ∧
      (lower.IsObject ∧ upper.IsObject →
        (merge lower upper).IsObject ∧
        (∀ name, name ∈ (merge lower upper).names ↔
          name ∈ lower.names ∨ name ∈ upper.names ∧ upper.member? name ≠ some .null) ∧
        (∀ name, upper.member? name = none ∨ upper.member? name = some .null →
          (merge lower upper).member? name = lower.member? name)) ∧
      (∀ path name, upper.at? (path ++ [name]) = some .null →
        (upper.eraseAt name path).at? (path ++ [name]) = none ∧
        (merge lower (upper.eraseAt name path) = merge lower upper ↔
          ∃ members, lower.at? path = some (.obj members))) := by
  refine ⟨merge_merge hlower hupper, fun ⟨hlow, hup⟩ => ?_, fun path name hnull => ?_⟩
  · exact ⟨isObject_merge hlow hup, fun _ => mem_names_merge_iff hlow hup hupper,
      fun _ => member?_merge_of_absent hlow hup hupper⟩
  · exact ⟨at?_eraseAt name path upper, merge_eraseAt_iff hlower hupper hnull⟩

/-- The port and the version below are left alone, with or without the `null` above them; the
section that is missing below comes with its `null`, which may not be taken out. -/
theorem merging_follows_its_laws_of_nulls :
    let lower : Json := .obj [("server", .obj [("port", .int 8080)]), ("version", .int 1)]
    let upper : Json := .obj [
      ("server", .obj [("host", .obj [("name", .null)]), ("port", .null)]),
      ("version", .null),
      ("watch", .obj [("every", .null)])]
    lower.Canonical ∧ upper.Canonical ∧ lower.IsObject ∧ upper.IsObject ∧
      merge lower upper = .obj [
        ("server", .obj [("host", .obj [("name", .null)]), ("port", .int 8080)]),
        ("version", .int 1),
        ("watch", .obj [("every", .null)])] ∧
      merge (merge lower upper) upper = merge lower upper ∧
      "version" ∈ (merge lower upper).names ∧
      (merge lower upper).member? "version" = lower.member? "version" ∧
      merge lower (upper.eraseAt "port" ["server"]) = merge lower upper ∧
      merge lower (upper.eraseAt "every" ["watch"]) ≠ merge lower upper := by
  intro lower upper
  have hlower : lower.Canonical := by
    have hserver : Ordered [("port", Json.int 8080)] := by decide
    exact canonical_obj_iff.mpr ⟨by decide, by simp [hserver]⟩
  have hupper : upper.Canonical := by
    have hserver : Ordered [("host", Json.obj [("name", .null)]), ("port", .null)] := by decide
    have hhost : Ordered [("name", Json.null)] := by decide
    have hwatch : Ordered [("every", Json.null)] := by decide
    exact canonical_obj_iff.mpr ⟨by decide, by simp [hserver, hhost, hwatch]⟩
  have hobjects : lower.IsObject ∧ upper.IsObject := ⟨⟨_, rfl⟩, ⟨_, rfl⟩⟩
  obtain ⟨hagain, hmembers, hnulls⟩ := merging_follows_its_laws hlower hupper
  obtain ⟨-, hnames, hbelow⟩ := hmembers hobjects
  refine ⟨hlower, hupper, hobjects.1, hobjects.2, rfl, hagain, ?_, ?_, ?_, ?_⟩
  · exact (hnames "version").mpr (Or.inl (by decide))
  · exact hbelow "version" (Or.inr rfl)
  · exact (hnulls ["server"] "port" rfl).2.mpr ⟨_, rfl⟩
  · exact mt (hnulls ["watch"] "every" rfl).2.mp (by rintro ⟨-, ⟨⟩⟩)

end LiveCounter.Json
