import LiveCounter.Json.Merge
import LiveCounter.Json.Reader

/-!
# Members of objects

The members of an object stand in the order of their names, each name once. Putting a member in its
place keeps that order, so every value that a text denotes has it, in its objects at any depth. A
member is looked up by its name: putting one in its place changes what is found under its own name
only, and laying one object over another is done name by name.
-/

namespace LiveCounter.Json

section Ordered

variable {α : Type} {name key : String} {members : List (String × α)}

/-- The members stand in the order of their names, each name once. -/
def Ordered (members : List (String × α)) : Prop :=
  members.Pairwise fun first second => first.1 < second.1

instance : DecidablePred (Ordered (α := α)) := fun members =>
  inferInstanceAs (Decidable (members.Pairwise fun first second => first.1 < second.1))

/-- Members are in order when the first one comes before all others, and those are in order. -/
theorem ordered_cons_iff {member : String × α} :
    Ordered (member :: members) ↔ (∀ other ∈ members, member.1 < other.1) ∧ Ordered members :=
  List.pairwise_cons

/-- A name that comes before those of all members is none of theirs. -/
theorem find?_eq_none_of_lt (h : ∀ member ∈ members, name < member.1) :
    find? name members = none := by
  induction members with
  | nil => rfl
  | cons member rest ih =>
    obtain ⟨hfirst, hrest⟩ := List.forall_mem_cons.mp h
    have hne : name ≠ member.1 := fun heq => String.lt_irrefl _ (heq ▸ hfirst)
    rw [find?, if_neg hne, ih hrest]

/-- What is found under a name is a member. -/
theorem mem_of_find? {value : α} (h : find? name members = some value) :
    (name, value) ∈ members := by
  induction members with
  | nil => cases h
  | cons member rest ih =>
    obtain ⟨other, old⟩ := member
    simp only [find?] at h
    split at h
    · next heq =>
      obtain rfl := Option.some.inj h
      exact heq ▸ List.mem_cons_self
    · exact List.mem_cons_of_mem _ (ih h)

/-- After an insertion there are the new member and the old ones. -/
theorem mem_insert {value : α} {member : String × α} (h : member ∈ insert key value members) :
    member = (key, value) ∨ member ∈ members := by
  induction members with
  | nil => exact Or.inl (List.mem_singleton.mp h)
  | cons first rest ih =>
    obtain ⟨other, old⟩ := first
    simp only [insert] at h
    split at h
    · exact List.mem_cons.mp h
    · split at h
      · exact (List.mem_cons.mp h).imp_right (List.mem_cons_of_mem _)
      · obtain rfl | hrest := List.mem_cons.mp h
        · exact Or.inr List.mem_cons_self
        · exact (ih hrest).imp_right (List.mem_cons_of_mem _)

/-- A member that is put in its place is found under its own name, and nothing else changes. -/
theorem find?_insert (value : α) :
    find? name (insert key value members) =
      if name = key then some value else find? name members := by
  induction members with
  | nil => rfl
  | cons first rest ih =>
    obtain ⟨other, old⟩ := first
    simp only [insert]
    split
    · rfl
    · split
      · next heq =>
        subst heq
        simp only [find?]
        split <;> rfl
      · next hne =>
        simp only [find?, ih]
        grind

/-- An insertion keeps the members in order. -/
theorem Ordered.insert (key : String) (value : α) (h : Ordered members) :
    Ordered (insert key value members) := by
  induction members with
  | nil => exact List.pairwise_singleton _ _
  | cons first rest ih =>
    obtain ⟨other, old⟩ := first
    obtain ⟨hfirst, hrest⟩ := ordered_cons_iff.mp h
    simp only [Json.insert]
    split
    · next hbefore =>
      refine ordered_cons_iff.mpr ⟨fun member hmember => ?_, h⟩
      obtain rfl | hmember := List.mem_cons.mp hmember
      · exact hbefore
      · exact String.lt_trans hbefore (hfirst member hmember)
    · next hnotBefore =>
      split
      · next heq =>
        subst heq
        exact ordered_cons_iff.mpr ⟨hfirst, hrest⟩
      · next hne =>
        refine ordered_cons_iff.mpr ⟨fun member hmember => ?_, ih hrest⟩
        obtain rfl | hmember := mem_insert hmember
        · have hafter : other < key := by grind
          exact hafter
        · exact hfirst member hmember

/-- Members in order are told by what is found under each name. -/
theorem Ordered.ext {others : List (String × α)} (hmembers : Ordered members)
    (hothers : Ordered others) (h : ∀ name, find? name members = find? name others) :
    members = others := by
  induction members generalizing others with
  | nil =>
    cases others with
    | nil => rfl
    | cons other later => simpa [find?] using h other.1
  | cons member rest ih =>
    obtain ⟨name, value⟩ := member
    obtain ⟨hfirst, hrest⟩ := ordered_cons_iff.mp hmembers
    cases others with
    | nil => simpa [find?] using h name
    | cons other later =>
      obtain ⟨name', value'⟩ := other
      obtain ⟨hfirst', hlater⟩ := ordered_cons_iff.mp hothers
      -- The name that comes first in one list is that which comes first in the other.
      have hhere := h name
      have hthere := h name'
      simp only [find?, if_true] at hhere hthere
      have hname : name = name' := by
        refine Decidable.byContradiction fun hne => ?_
        rw [if_neg hne] at hhere
        rw [if_neg (Ne.symm hne)] at hthere
        have hafter : name' < name := hfirst' _ (mem_of_find? hhere.symm)
        have hbefore : name < name' := hfirst _ (mem_of_find? hthere)
        exact String.lt_irrefl _ (String.lt_trans hafter hbefore)
      subst hname
      rw [if_pos rfl, Option.some.injEq] at hhere
      subst hhere
      congr 1
      refine ih hrest hlater fun key => ?_
      by_cases hkey : key = name
      · subst hkey
        rw [find?_eq_none_of_lt hfirst, find?_eq_none_of_lt hfirst']
      · simpa [find?, hkey] using h key

end Ordered

/-! ### Values that texts denote -/

/-- In every object of the value, the members stand in the order of their names, each name once. -/
inductive Canonical : Json → Prop where
  | null : Canonical .null
  | bool {value : Bool} : Canonical (.bool value)
  | int {value : Int} : Canonical (.int value)
  | float {value : Float} : Canonical (.float value)
  | str {value : String} : Canonical (.str value)
  | arr {items : List Json} (hitems : ∀ item ∈ items, Canonical item) : Canonical (.arr items)
  | obj {members : List (String × Json)} (hordered : Ordered members)
      (hmembers : ∀ member ∈ members, Canonical member.2) : Canonical (.obj members)

/-- Two steps succeed when the first one does and the second one does with its result. -/
theorem bind_eq_ok {α β : Type} {first : Except Fault α} {next : α → Except Fault β} {b : β}
    (h : (first >>= next) = .ok b) : ∃ a, first = .ok a ∧ next a = .ok b := by
  cases first with
  | error fault => cases h
  | ok a => exact ⟨a, rfl, h⟩

attribute [simp] Canonical.null Canonical.bool Canonical.int Canonical.float Canonical.str

/-- An array is canonical when its items are. -/
@[simp] theorem canonical_arr_iff {items : List Json} :
    (Json.arr items).Canonical ↔ ∀ item ∈ items, item.Canonical :=
  ⟨fun | .arr hitems => hitems, .arr⟩

/-- An object is canonical when its members are in order and their values are canonical. -/
@[simp] theorem canonical_obj_iff {members : List (String × Json)} :
    (Json.obj members).Canonical ↔ Ordered members ∧ ∀ member ∈ members, member.2.Canonical :=
  ⟨fun | .obj hordered hmembers => ⟨hordered, hmembers⟩, fun h => .obj h.1 h.2⟩

/-- The members of a canonical object are in order. -/
theorem Canonical.ordered {members : List (String × Json)} (h : (Json.obj members).Canonical) :
    Ordered members :=
  (canonical_obj_iff.mp h).1

/-- Whatever the reader takes off a text has the property. -/
def Reader.Gives {α : Type} (reader : Reader α) (P : α → Prop) : Prop :=
  ∀ text result rest, reader text = .ok (result, rest) → P result

section Readers

variable {σ α : Type}

/-- A number with a fraction is canonical. -/
theorem canonical_of_double {negative : Bool} {significand : Nat} {exponent : Int} {v : Json}
    (h : double negative significand exponent = .ok v) : v.Canonical := by
  simp only [double] at h
  split at h
  · cases h
  · cases h
    exact .float

/-- What follows the exponent of a number leaves it canonical. -/
theorem withExponent_gives (negative : Bool) (significand : Nat) (exponent : Int) :
    (withExponent negative significand exponent).Gives Canonical := by
  intro text v rest h
  simp only [withExponent, bind, Except.bind] at h
  grind [canonical_of_double, Canonical]

/-- What follows the whole part of a number leaves it canonical. -/
theorem afterWhole_gives (negative : Bool) (significand dropped : Nat) :
    (afterWhole negative significand dropped).Gives Canonical := by
  intro text v rest h
  simp only [afterWhole] at h
  grind [withExponent_gives, Canonical, Reader.Gives]

/-- A reader of numbers gives canonical values. -/
theorem number_gives (negative : Bool) : (number negative).Gives Canonical := by
  intro text v rest h
  unfold number at h
  grind [afterWhole_gives, Reader.Gives]

/-- What every single member keeps holds at the end of the object. -/
theorem members_gives {P : σ → Prop} {member : σ → String → Reader σ}
    (hmember : ∀ state name, P state → (member state name).Gives P) (steps : Nat) {state : σ}
    (hstate : P state) : (members member steps state).Gives P := by
  intro text result rest h
  induction steps generalizing state text with
  | zero => cases h
  | succ steps ih =>
    simp only [members] at h
    split at h
    · obtain ⟨⟨name, text⟩, -, h⟩ := bind_eq_ok h
      obtain ⟨⟨next, text⟩, hread, h⟩ := bind_eq_ok h
      have hnext : P next := hmember state name hstate _ _ _ hread
      split at h
      · cases h
      · cases h
        exact hnext
      · exact ih hnext _ h
      · cases h
    · cases h
    · cases h

/-- A reader of objects keeps what every one of its members keeps. -/
theorem objectOf_gives {P : σ → Prop} {member : σ → String → Reader σ}
    (hmember : ∀ state name, P state → (member state name).Gives P) {state : σ}
    (hstate : P state) : (objectOf member state).Gives P := by
  intro text result rest h
  simp only [objectOf] at h
  split at h
  · cases h
  · cases h
    exact hstate
  · exact members_gives hmember _ hstate _ _ _ h

/-- A reader of arrays gives items of the kind that its reader of items gives. -/
theorem items_gives {P : α → Prop} {item : Reader α} (hitem : item.Gives P) (steps : Nat)
    (first : Bool) : (items item steps first).Gives fun list => ∀ each ∈ list, P each := by
  intro text list rest h
  induction steps generalizing first text list rest with
  | zero => cases h
  | succ steps ih =>
    obtain ⟨next, -, h⟩ := bind_eq_ok h
    cases next with
    | none =>
      obtain ⟨⟨_, _⟩, -, h⟩ := bind_eq_ok h
      cases h
      exact List.forall_mem_nil _
    | some text =>
      obtain ⟨⟨head, text⟩, hhead, h⟩ := bind_eq_ok h
      obtain ⟨⟨tail, text⟩, htail, h⟩ := bind_eq_ok h
      cases h
      exact List.forall_mem_cons.mpr ⟨hitem _ _ _ hhead, ih _ _ _ _ htail⟩

/-- A canonical value may be put in its place in an object. -/
theorem canonical_insert {members : List (String × Json)} {v : Json} (name : String)
    (hmembers : (Json.obj members).Canonical) (hv : v.Canonical) :
    (Json.obj (insert name v members)).Canonical := by
  obtain ⟨hordered, hcanonical⟩ := canonical_obj_iff.mp hmembers
  refine .obj (hordered.insert name v) fun member hmember => ?_
  obtain rfl | hmember := mem_insert hmember
  · exact hv
  · exact hcanonical member hmember

/-- Numbers, texts and the three names hold no object; arrays and objects hold what was read before
at a smaller depth. -/
theorem value_gives (depth : Nat) : (value depth).Gives Canonical := by
  induction depth with
  | zero => intro text v rest h; cases h
  | succ depth ih =>
    intro text v rest h
    simp only [value] at h
    split at h
    · cases h
    · obtain ⟨_, -, h⟩ := bind_eq_ok h
      cases h
      exact .null
    · obtain ⟨_, -, h⟩ := bind_eq_ok h
      cases h
      exact .bool
    · obtain ⟨_, -, h⟩ := bind_eq_ok h
      cases h
      exact .bool
    · obtain ⟨_, -, h⟩ := bind_eq_ok h
      cases h
      exact .str
    · exact number_gives _ _ _ _ h
    · split at h
      · cases h
      · obtain ⟨_, hitems, h⟩ := bind_eq_ok h
        cases h
        exact .arr (items_gives ih _ _ _ _ _ hitems)
    · split at h
      · cases h
      · obtain ⟨⟨list, text⟩, hmembers, h⟩ := bind_eq_ok h
        cases h
        have hnil : (Json.obj []).Canonical := .obj List.Pairwise.nil (List.forall_mem_nil _)
        refine objectOf_gives (P := fun list => (Json.obj list).Canonical)
          (fun sofar name hsofar => ?_) hnil _ _ _ hmembers
        intro text next rest h
        obtain ⟨_, -, h⟩ := bind_eq_ok h
        obtain ⟨⟨inner, _⟩, hinner, h⟩ := bind_eq_ok h
        cases h
        exact canonical_insert name hsofar (ih _ _ _ hinner)
    · split at h
      · exact number_gives _ _ _ _ h
      · cases h

/-- The members of every object that a text denotes stand in the order of their names. -/
theorem canonical_of_parse {text : String} {v : Json} (h : parse text = .ok v) : v.Canonical := by
  obtain ⟨⟨found, rest⟩, hvalue, h⟩ := bind_eq_ok h
  dsimp only at h
  split at h
  · cases h
    exact value_gives _ _ _ _ hvalue
  · cases h

end Readers

/-! ### Members laid over one another -/

section Merging

variable {name : String} {lower upper : List (String × Json)}

/-- Whatever is laid over a value that is no object takes its place. -/
theorem merge_eq_upper {lower : Json} (h : ∀ members, lower ≠ .obj members) (upper : Json) :
    merge lower upper = upper := by
  cases upper with
  | obj members =>
    cases lower with
    | obj sofar => exact absurd rfl (h sofar)
    | _ => rfl
  | _ => rfl

/-- The member that results when what is found below is laid under what is found above. -/
def overlay : (below above : Option Json) → Option Json
  | below, none | below, some .null => below
  | none, some above => some above
  | some below, some above => some (merge below above)

/-- What has nothing over it stays. -/
theorem overlay_none (below : Option Json) : overlay below none = below := by
  cases below <;> rfl

/-- A null covers nothing. -/
theorem overlay_null (below : Option Json) : overlay below (some .null) = below := by
  cases below <;> rfl

/-- A value that is no `null` is laid over what there is. -/
theorem overlay_of_ne_null {above : Json} (below : Option Json) (h : above ≠ .null) :
    overlay below (some above) = some ((below.map (merge · above)).getD above) := by
  cases below <;> cases above <;> first | rfl | contradiction

/-- A member that is null is passed over. -/
theorem mergeMembers_cons_null (rest : List (String × Json)) :
    mergeMembers lower ((name, .null) :: rest) = mergeMembers lower rest := by
  rw [mergeMembers]

/-- A member that is not `null` is put in its place, laid over what was there before. -/
theorem mergeMembers_cons {above : Json} (h : above ≠ .null) (rest : List (String × Json)) :
    mergeMembers lower ((name, above) :: rest) =
      mergeMembers (insert name (((find? name lower).map (merge · above)).getD above) lower)
        rest := by
  rw [mergeMembers]
  · cases find? name lower <;> rfl
  · exact h

/-- Objects are laid over one another name by name. -/
theorem find?_mergeMembers (hupper : Ordered upper) :
    find? name (mergeMembers lower upper) = overlay (find? name lower) (find? name upper) := by
  induction upper generalizing lower with
  | nil => rfl
  | cons member rest ih =>
    obtain ⟨key, above⟩ := member
    obtain ⟨hfirst, hrest⟩ := ordered_cons_iff.mp hupper
    have hlater : find? key rest = none := find?_eq_none_of_lt hfirst
    by_cases hnull : above = .null
    · subst hnull
      rw [mergeMembers_cons_null, ih hrest]
      by_cases heq : name = key
      · rw [find?, if_pos heq, heq, hlater]
        rfl
      · rw [find?, if_neg heq]
    · rw [mergeMembers_cons hnull, ih hrest, find?_insert]
      by_cases heq : name = key
      · rw [if_pos heq, find?, if_pos heq, heq, hlater]
        rw [overlay_none, overlay_of_ne_null _ hnull]
      · rw [if_neg heq, find?, if_neg heq]

/-- Laying members over others keeps them in the order of their names. -/
theorem Ordered.mergeMembers (hlower : Ordered lower) : Ordered (mergeMembers lower upper) := by
  induction upper generalizing lower with
  | nil => exact hlower
  | cons member rest ih =>
    obtain ⟨key, above⟩ := member
    by_cases hnull : above = .null
    · subst hnull
      rw [mergeMembers_cons_null]
      exact ih hlower
    · rw [mergeMembers_cons hnull]
      exact ih (hlower.insert _ _)

end Merging

end LiveCounter.Json
