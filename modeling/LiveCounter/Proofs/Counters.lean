import LiveCounter.Counter.Store

/-!
# Counters as a map

The store keeps its counters in a list, but only what `get?` finds there matters. Putting a value and
erasing a counter change what is found under that topic and nothing else.
-/

namespace LiveCounter.CounterStore

/-- A counter is found at the front of the store, or behind it. -/
theorem get?_cons (entry : Topic × Int64) (rest : List (Topic × Int64)) (topic : Topic) :
    (CounterStore.mk (entry :: rest)).get? topic =
      if entry.1 = topic then some entry.2 else (CounterStore.mk rest).get? topic := by
  by_cases h : entry.1 = topic <;> simp [get?, h]

/-- Putting a value changes what is found under its topic. -/
theorem get?_put (store : CounterStore) (topic : Topic) (value : Int64) (other : Topic) :
    (store.put topic value).get? other = if other = topic then some value else store.get? other := by
  obtain ⟨entries⟩ := store
  induction entries with
  | nil => simp [put, insertEntry, get?, eq_comm]
  | cons entry rest ih =>
    obtain ⟨key, old⟩ := entry
    simp only [put] at ih
    simp only [put, insertEntry]
    by_cases hkey : key = topic
    · subst hkey
      rw [if_pos rfl, get?_cons, get?_cons]
      by_cases hother : key = other
      · simp [hother]
      · simp [hother, Ne.symm hother]
    · rw [if_neg hkey, get?_cons, get?_cons, ih]
      by_cases hother : key = other
      · subst hother
        simp [hkey]
      · simp [hother]

/-- Erasing a counter changes what is found under its topic. -/
theorem get?_erase (store : CounterStore) (topic other : Topic) :
    (store.erase topic).get? other = if other = topic then none else store.get? other := by
  obtain ⟨entries⟩ := store
  induction entries with
  | nil => simp [erase, get?]
  | cons entry rest ih =>
    simp only [erase] at ih
    rw [erase, List.filter_cons, get?_cons]
    by_cases hkey : entry.1 = topic
    · rw [if_neg (by simpa using hkey), ih]
      by_cases hother : other = topic
      · simp [hother]
      · simp [hkey, hother, Ne.symm hother]
    · rw [if_pos (by simpa using hkey), get?_cons, ih]
      by_cases hother : entry.1 = other
      · simp [hother, hother ▸ hkey]
      · simp [hother]

/-- Erasing a counter that is not there changes nothing. -/
theorem erase_of_get?_eq_none {store : CounterStore} {topic : Topic} (h : store.get? topic = none) :
    store.erase topic = store := by
  have hkeys : ∀ entry ∈ store.entries, entry.1 ≠ topic := by simpa [get?] using h
  exact congrArg CounterStore.mk (List.filter_eq_self.mpr fun entry hentry => by
    simpa using hkeys entry hentry)

/-! ## Operations that give a counter a value -/

/-- An operation gives the counter of a topic a value and answers with it, or fails and changes
nothing. -/
inductive Writes (store : CounterStore) (topic : Topic) : Outcome → Prop
  | wrote (value : Int64) : Writes store topic (store.answer topic value)
  | failed (fault : CounterFault) : Writes store topic (.error fault, store)

/-- A counter is created with the value that is answered, or exists already. -/
theorem writes_create (store : CounterStore) (topic : Topic) (initial : Int64) :
    store.Writes topic (store.create topic initial) := by
  unfold create
  split
  · exact .failed _
  · exact .wrote _

/-- A hit leaves the counter with the value that is answered, or fails. -/
theorem writes_hit (store : CounterStore) (topic : Topic) :
    store.Writes topic (store.hit topic) := by
  unfold hit
  split
  · exact .wrote _
  · exact .failed _

/-- Setting a counter leaves it with the value that is answered, or fails. -/
theorem writes_set (store : CounterStore) (topic : Topic) (value : Int64) :
    store.Writes topic (store.set topic value) := by
  unfold set
  split
  · exact .wrote _
  · exact .failed _

/-- Adding to a counter leaves it with the value that is answered, or fails. -/
theorem writes_add (store : CounterStore) (topic : Topic) (delta : Int64) :
    store.Writes topic (store.add topic delta) := by
  unfold add
  split
  · exact .failed _
  · split
    · exact .wrote _
    · exact .failed _

end LiveCounter.CounterStore
