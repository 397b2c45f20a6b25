import LiveCounter.Proofs.Counters
import LiveCounter.Proofs.Simulations
import Mathlib.Data.Finmap

/-!
# Counters over unbounded integers

Counters are meant as a finite map from topics to integers of which no value lies outside the range
of 64 bits. Here that map stands beside the counters: its values are any integers, and a request
that would bring one out of range fails, as does one for a counter that is there when it must not be
or is missing. Whatever is requested, in whatever order, the counters answer as the map does.
-/

namespace LiveCounter

/-- What can be requested of counters. -/
inductive CounterRequest where
  | create (topic : Topic) (initial : Int64)
  | hit (topic : Topic)
  | set (topic : Topic) (value : Int64)
  | reset (topic : Topic)
  | add (topic : Topic) (delta : Int64)
  | delete (topic : Topic)
  | get (topic : Topic)
  | size
  deriving DecidableEq

/-- The counter that a request is about, if it is about one. -/
def CounterRequest.topic? : CounterRequest → Option Topic
  | .create topic _ | .hit topic | .set topic _ | .reset topic | .add topic _ | .delete topic
  | .get topic => some topic
  | .size => none

/-- What counters answer, with values of some type. -/
inductive CounterReply (α : Type) where
  | outcome (result : Except CounterFault α)
  | value (found : Option α)
  | size (count : Nat)

/-- A reply with its values replaced. -/
def CounterReply.map {α β : Type} (f : α → β) : CounterReply α → CounterReply β
  | .outcome result => .outcome (result.map f)
  | .value found => .value (found.map f)
  | .size count => .size count

/-- A fault is the same fault, whatever the values mean. -/
theorem CounterReply.map_eq_error_iff {α β : Type} (f : α → β) (reply : CounterReply α)
    (fault : CounterFault) :
    reply.map f = .outcome (.error fault) ↔ reply = .outcome (.error fault) := by
  cases reply with
  | outcome result => cases result <;> simp [map, Except.map]
  | value found => simp [map]
  | size count => simp [map]

/-- Serves a request. -/
def CounterStore.serve : Machine CounterStore CounterRequest (CounterReply Int64)
  | store, .create topic initial => (store.create topic initial).map .outcome id
  | store, .hit topic => (store.hit topic).map .outcome id
  | store, .set topic value => (store.set topic value).map .outcome id
  | store, .reset topic => (store.reset topic).map .outcome id
  | store, .add topic delta => (store.add topic delta).map .outcome id
  | store, .delete topic => (store.delete topic).map .outcome id
  | store, .get topic => (.value (store.get? topic), store)
  | store, .size => (.size store.size, store)

/-- Counters with any integers as their values. -/
abbrev Counts := Finmap fun _ : Topic => Int

namespace Counts

/-- An integer that a word of 64 bits with a sign can hold. -/
def Fits (n : Int) : Prop := -9223372036854775808 ≤ n ∧ n ≤ 9223372036854775807

instance (n : Int) : Decidable (Fits n) := inferInstanceAs (Decidable (_ ∧ _))

/-- The value of a counter; one that does not exist counts as zero. -/
def value (counts : Counts) (topic : Topic) : Int := (counts.lookup topic).getD 0

/-- Why a request fails, if it does. -/
def fault? (counts : Counts) : CounterRequest → Option CounterFault
  | .create topic _ => if topic ∈ counts then some (.alreadyExists topic) else none
  | .hit topic => if Fits (counts.value topic + 1) then none else some (.overflow topic)
  | .set topic _ | .reset topic => if topic ∈ counts then none else some (.missing topic)
  | .add topic delta =>
    if topic ∈ counts then
      if Fits (counts.value topic + delta.toInt) then none else some (.overflow topic)
    else some (.missing topic)
  | .delete topic => if topic ∈ counts then none else some (.notFound topic)
  | .get _ | .size => none

/-- Puts a value and answers with it. -/
def answer (counts : Counts) (topic : Topic) (value : Int) : CounterReply Int × Counts :=
  (.outcome (.ok value), counts.insert topic value)

/-- Serves a request; one that fails changes nothing. -/
def serve : Machine Counts CounterRequest (CounterReply Int)
  | counts, request =>
    match counts.fault? request with
    | some fault => (.outcome (.error fault), counts)
    | none =>
      match request with
      | .create topic initial => counts.answer topic initial.toInt
      | .hit topic => counts.answer topic (counts.value topic + 1)
      | .set topic value => counts.answer topic value.toInt
      | .reset topic => counts.answer topic 0
      | .add topic delta => counts.answer topic (counts.value topic + delta.toInt)
      | .delete topic => (.outcome (.ok (counts.value topic)), counts.erase topic)
      | .get topic => (.value (counts.lookup topic), counts)
      | .size => (.size counts.keys.card, counts)

/-- A request that has a fault fails with it. -/
theorem serve_eq_error {counts : Counts} {request : CounterRequest} {fault : CounterFault}
    (h : counts.fault? request = some fault) :
    counts.serve request = (.outcome (.error fault), counts) := by
  simp only [serve, h]

/-- A request fails for the reason that there is, and only if there is one. -/
theorem serve_eq_error_iff {counts : Counts} {request : CounterRequest} {fault : CounterFault} :
    (counts.serve request).1 = .outcome (.error fault) ↔ counts.fault? request = some fault := by
  cases hfault : counts.fault? request with
  | some other => rw [serve_eq_error hfault]; simp
  | none =>
    simp only [serve, hfault]
    cases request <;> simp [answer]

end Counts

/-- A sum is in range exactly if a word can hold it, and then it is what the word holds. -/
theorem addInRange?_cases (a b : Int64) :
    (Counts.Fits (a.toInt + b.toInt) ∧
        ∃ sum, addInRange? a b = some sum ∧ sum.toInt = a.toInt + b.toInt) ∨
      (¬ Counts.Fits (a.toInt + b.toInt) ∧ addInRange? a b = none) := by
  have hrange : (Int64.minValue.toInt ≤ a.toInt + b.toInt ∧
      a.toInt + b.toInt ≤ Int64.maxValue.toInt) ↔ Counts.Fits (a.toInt + b.toInt) := Iff.rfl
  by_cases hfits : Counts.Fits (a.toInt + b.toInt)
  · refine Or.inl ⟨hfits, _, if_pos (hrange.mpr hfits), ?_⟩
    exact Int64.toInt_ofInt_of_le hfits.1 (Int.lt_add_one_of_le hfits.2)
  · exact Or.inr ⟨hfits, if_neg (mt hrange.mp hfits)⟩

namespace CounterStore

/-! ## Entries -/

/-- The topics of the counters, in the order of their entries. -/
def topics (store : CounterStore) : List Topic := store.entries.map (·.1)

/-- The topics are those that have a counter. -/
theorem mem_topics (store : CounterStore) (topic : Topic) :
    topic ∈ store.topics ↔ (store.get? topic).isSome := by
  simp [topics, get?]

/-- A value that is put leaves each topic with one entry. -/
theorem nodup_topics_put {store : CounterStore} (h : store.topics.Nodup) (topic : Topic)
    (value : Int64) : (store.put topic value).topics.Nodup := by
  obtain ⟨entries⟩ := store
  induction entries with
  | nil => exact List.nodup_singleton topic
  | cons entry rest ih =>
    obtain ⟨hkey, hrest⟩ := List.nodup_cons.mp h
    by_cases htopic : entry.1 = topic
    · have hput : (CounterStore.mk (entry :: rest)).put topic value = ⟨(topic, value) :: rest⟩ := by
        simp [put, insertEntry, htopic]
      rw [hput]
      exact List.nodup_cons.mpr ⟨htopic ▸ hkey, hrest⟩
    · have hput : ((CounterStore.mk (entry :: rest)).put topic value).topics =
          entry.1 :: ((CounterStore.mk rest).put topic value).topics := by
        simp [topics, put, insertEntry, htopic]
      rw [hput]
      refine List.nodup_cons.mpr ⟨?_, ih hrest⟩
      rw [mem_topics, get?_put, if_neg htopic, ← mem_topics]
      exact hkey

/-- A counter that is erased leaves each other topic with one entry. -/
theorem nodup_topics_erase {store : CounterStore} (h : store.topics.Nodup) (topic : Topic) :
    (store.erase topic).topics.Nodup :=
  h.sublist (List.filter_sublist.map _)

/-- Of two values put under one topic, the second stays. -/
theorem put_put (store : CounterStore) (topic : Topic) (first second : Int64) :
    (store.put topic first).put topic second = store.put topic second := by
  obtain ⟨entries⟩ := store
  simp only [put, mk.injEq]
  induction entries with
  | nil => simp [insertEntry]
  | cons entry rest ih =>
    obtain ⟨key, old⟩ := entry
    by_cases hkey : key = topic
    · simp [insertEntry, hkey]
    · simp [insertEntry, hkey, ih]

/-! ## Counters and counts -/

/-- The counters have one entry for each count, with its value. -/
structure Represents (store : CounterStore) (counts : Counts) : Prop where
  nodup : store.topics.Nodup
  lookup : ∀ topic, counts.lookup topic = (store.get? topic).map Int64.toInt

namespace Represents

variable {store : CounterStore} {counts : Counts} {topic : Topic} {current : Int64}

/-- A counter that is there has the value of its count. -/
theorem of_some (h : store.Represents counts) (hget : store.get? topic = some current) :
    topic ∈ counts ∧ counts.value topic = current.toInt := by
  have hlookup : counts.lookup topic = some current.toInt := by rw [h.lookup, hget, Option.map_some]
  exact ⟨Finmap.mem_of_lookup_eq_some hlookup, by rw [Counts.value, hlookup, Option.getD_some]⟩

/-- A counter that is not there has no count. -/
theorem of_none (h : store.Represents counts) (hget : store.get? topic = none) :
    topic ∉ counts ∧ counts.value topic = 0 := by
  have hlookup : counts.lookup topic = none := by rw [h.lookup, hget, Option.map_none]
  exact ⟨Finmap.lookup_eq_none.mp hlookup, by rw [Counts.value, hlookup, Option.getD_none]⟩

/-- There is a count for each counter. -/
theorem mem_iff (h : store.Represents counts) (topic : Topic) :
    topic ∈ counts ↔ (store.get? topic).isSome := by
  rw [← Finmap.lookup_isSome, h.lookup, Option.isSome_map]

/-- There are as many counters as counts. -/
theorem size_eq (h : store.Represents counts) : store.size = counts.keys.card := by
  have hkeys : counts.keys = store.topics.toFinset := by
    ext topic
    rw [Finmap.mem_keys, h.mem_iff, List.mem_toFinset, mem_topics]
  rw [hkeys, List.toFinset_card_of_nodup h.nodup, topics, List.length_map]
  rfl

/-- No counters represent no counts. -/
theorem empty : Represents {} ∅ where
  nodup := List.nodup_nil
  lookup _ := Finmap.lookup_empty _

/-- Counters and counts stay the same when both are given a value. -/
theorem put (h : store.Represents counts) (topic : Topic) (value : Int64) :
    (store.put topic value).Represents (counts.insert topic value.toInt) where
  nodup := nodup_topics_put h.nodup topic value
  lookup other := by
    rw [get?_put]
    by_cases hother : other = topic
    · rw [if_pos hother, hother, Finmap.lookup_insert, Option.map_some]
    · rw [if_neg hother, Finmap.lookup_insert_of_ne _ hother, h.lookup]

/-- Counters and counts stay the same when both lose one. -/
theorem erase (h : store.Represents counts) (topic : Topic) :
    (store.erase topic).Represents (counts.erase topic) where
  nodup := nodup_topics_erase h.nodup topic
  lookup other := by
    rw [get?_erase]
    by_cases hother : other = topic
    · rw [if_pos hother, hother, Finmap.lookup_erase, Option.map_none]
    · rw [if_neg hother, Finmap.lookup_erase_ne hother, h.lookup]

end Represents

/-! ## Requests -/

/-- The counters serve a request as the counts do, and represent them afterwards. -/
def ServesAs (store : CounterStore) (counts : Counts) (request : CounterRequest) : Prop :=
  (store.serve request).1.map Int64.toInt = (counts.serve request).1 ∧
    (store.serve request).2.Represents (counts.serve request).2

namespace Represents

variable {store : CounterStore} {counts : Counts}

/-- Counters serve a request as counts do if both fail with the same fault. -/
theorem serves_error (h : store.Represents counts) {request : CounterRequest} {outcome : Outcome}
    {fault : CounterFault} (hserve : store.serve request = outcome.map .outcome id)
    (hstore : outcome = (.error fault, store)) (hcounts : counts.fault? request = some fault) :
    store.ServesAs counts request := by
  rw [ServesAs, hserve, hstore, Counts.serve_eq_error hcounts]
  exact ⟨rfl, h⟩

/-- Counters serve a request as counts do if both answer with the same value. -/
theorem serves_ok (h : store.Represents counts) {request : CounterRequest} {outcome : Outcome}
    {topic : Topic} {value : Int64} (hserve : store.serve request = outcome.map .outcome id)
    (hstore : outcome = store.answer topic value)
    (hcounts : counts.serve request = counts.answer topic value.toInt) :
    store.ServesAs counts request := by
  rw [ServesAs, hserve, hstore, hcounts]
  exact ⟨rfl, h.put topic value⟩

/-- Counters are created as counts are. -/
theorem serves_create (h : store.Represents counts) (topic : Topic) (initial : Int64) :
    store.ServesAs counts (.create topic initial) := by
  cases hget : store.get? topic with
  | some current =>
    have hcreate : store.create topic initial = (.error (.alreadyExists topic), store) := by
      rw [create, hget]
    exact h.serves_error rfl hcreate (if_pos (h.of_some hget).1)
  | none =>
    have hcreate : store.create topic initial = store.answer topic initial := by rw [create, hget]
    have hfault : counts.fault? (.create topic initial) = none := if_neg (h.of_none hget).1
    exact h.serves_ok rfl hcreate (by simp only [Counts.serve, hfault])

/-- Counters are hit as counts are. -/
theorem serves_hit (h : store.Represents counts) (topic : Topic) :
    store.ServesAs counts (.hit topic) := by
  have hvalue : counts.value topic = ((store.get? topic).getD 0).toInt := by
    cases hget : store.get? topic with
    | some current => exact (h.of_some hget).2
    | none => exact (h.of_none hget).2
  obtain ⟨hfits, sum, hsum, htoInt⟩ | ⟨hfits, hsum⟩ :=
    addInRange?_cases ((store.get? topic).getD 0) 1
  · have hhit : store.hit topic = store.answer topic sum := by rw [hit, hsum]
    have hfault : counts.fault? (.hit topic) = none := if_pos (hvalue ▸ hfits)
    refine h.serves_ok rfl hhit ?_
    simp only [Counts.serve, hfault, hvalue, htoInt]
    rfl
  · have hhit : store.hit topic = (.error (.overflow topic), store) := by rw [hit, hsum]
    exact h.serves_error rfl hhit (if_neg (hvalue ▸ hfits))

/-- Counters are set as counts are. -/
theorem serves_set (h : store.Represents counts) (topic : Topic) (value : Int64) :
    store.ServesAs counts (.set topic value) := by
  cases hget : store.get? topic with
  | some current =>
    have hset : store.set topic value = store.answer topic value := by rw [set, hget]
    have hfault : counts.fault? (.set topic value) = none := if_pos (h.of_some hget).1
    exact h.serves_ok rfl hset (by simp only [Counts.serve, hfault])
  | none =>
    have hset : store.set topic value = (.error (.missing topic), store) := by rw [set, hget]
    exact h.serves_error rfl hset (if_neg (h.of_none hget).1)

/-- Counters are added to as counts are. -/
theorem serves_add (h : store.Represents counts) (topic : Topic) (delta : Int64) :
    store.ServesAs counts (.add topic delta) := by
  cases hget : store.get? topic with
  | some current =>
    obtain ⟨hmem, hvalue⟩ := h.of_some hget
    obtain ⟨hfits, sum, hsum, htoInt⟩ | ⟨hfits, hsum⟩ := addInRange?_cases current delta
    · have hadd : store.add topic delta = store.answer topic sum := by simp only [add, hget, hsum]
      have hfault : counts.fault? (.add topic delta) = none := by
        rw [Counts.fault?, if_pos hmem, if_pos (hvalue ▸ hfits)]
      exact h.serves_ok rfl hadd (by simp only [Counts.serve, hfault, hvalue, htoInt])
    · have hadd : store.add topic delta = (.error (.overflow topic), store) := by
        simp only [add, hget, hsum]
      refine h.serves_error rfl hadd ?_
      rw [Counts.fault?, if_pos hmem, if_neg (hvalue ▸ hfits)]
  | none =>
    have hadd : store.add topic delta = (.error (.missing topic), store) := by rw [add, hget]
    exact h.serves_error rfl hadd (if_neg (h.of_none hget).1)

/-- Counters are deleted as counts are. -/
theorem serves_delete (h : store.Represents counts) (topic : Topic) :
    store.ServesAs counts (.delete topic) := by
  cases hget : store.get? topic with
  | some current =>
    obtain ⟨hmem, hvalue⟩ := h.of_some hget
    have hdelete : store.delete topic = (.ok current, store.erase topic) := by rw [delete, hget]
    have hfault : counts.fault? (.delete topic) = none := if_pos hmem
    simp only [ServesAs, serve, hdelete, Counts.serve, hfault, hvalue]
    exact ⟨rfl, h.erase topic⟩
  | none =>
    have hdelete : store.delete topic = (.error (.notFound topic), store) := by rw [delete, hget]
    exact h.serves_error rfl hdelete (if_neg (h.of_none hget).1)

end Represents

/-- Each request is served as the counts serve it. -/
theorem follows_serve :
    Counts.serve.Follows CounterStore.serve (CounterReply.map Int64.toInt) Represents := by
  intro store counts h request
  cases request with
  | create topic initial => exact h.serves_create topic initial
  | hit topic => exact h.serves_hit topic
  | set topic value => exact h.serves_set topic value
  | reset topic => exact h.serves_set topic 0
  | add topic delta => exact h.serves_add topic delta
  | delete topic => exact h.serves_delete topic
  | get topic => exact ⟨congrArg CounterReply.value (h.lookup topic).symm, h⟩
  | size => exact ⟨congrArg CounterReply.size h.size_eq, h⟩

/-! ## What a request leaves alone -/

/-- An operation fails and changes nothing, or it succeeds and changes at most the counter of a
topic. -/
inductive Confined (store : CounterStore) (topic : Topic) : Outcome → Prop
  | failed (fault : CounterFault) : Confined store topic (.error fault, store)
  | done (value : Int64) {after : CounterStore}
      (others : ∀ other, topic ≠ other → after.get? other = store.get? other) :
      Confined store topic (.ok value, after)

/-- What gives a counter a value leaves the others alone. -/
theorem Writes.confined {store : CounterStore} {topic : Topic} {outcome : Outcome}
    (h : store.Writes topic outcome) : store.Confined topic outcome := by
  cases h with
  | wrote value => exact .done value fun other hother => by rw [get?_put, if_neg hother.symm]
  | failed fault => exact .failed fault

/-- A deletion leaves the other counters alone. -/
theorem confined_delete (store : CounterStore) (topic : Topic) :
    store.Confined topic (store.delete topic) := by
  unfold delete
  split
  · exact .done _ fun other hother => by rw [get?_erase, if_neg hother.symm]
  · exact .failed _

/-- A request is an operation on the counter that it is about, or it only looks. -/
theorem serve_cases (store : CounterStore) (request : CounterRequest) :
    (∃ topic outcome, request.topic? = some topic ∧ store.Confined topic outcome ∧
        store.serve request = outcome.map .outcome id) ∨
      ((store.serve request).2 = store ∧ ∀ result, (store.serve request).1 ≠ .outcome result) := by
  cases request with
  | create topic initial => exact .inl ⟨_, _, rfl, (writes_create ..).confined, rfl⟩
  | hit topic => exact .inl ⟨_, _, rfl, (writes_hit ..).confined, rfl⟩
  | set topic value => exact .inl ⟨_, _, rfl, (writes_set ..).confined, rfl⟩
  | reset topic => exact .inl ⟨_, _, rfl, (writes_set ..).confined, rfl⟩
  | add topic delta => exact .inl ⟨_, _, rfl, (writes_add ..).confined, rfl⟩
  | delete topic => exact .inl ⟨_, _, rfl, confined_delete .., rfl⟩
  | get topic => exact .inr ⟨rfl, nofun⟩
  | size => exact .inr ⟨rfl, nofun⟩

/-- A request that fails changes nothing. -/
theorem serve_eq_self_of_error {store : CounterStore} {request : CounterRequest}
    {fault : CounterFault} (h : (store.serve request).1 = .outcome (.error fault)) :
    (store.serve request).2 = store := by
  obtain ⟨topic, outcome, -, hconfined, hserve⟩ | ⟨hself, -⟩ := store.serve_cases request
  · rw [hserve] at h ⊢
    cases hconfined with
    | failed _ => rfl
    | done value _ => simp [Prod.map] at h
  · exact hself

/-- No request changes a counter that it is not about. -/
theorem get?_serve_of_ne (store : CounterStore) {request : CounterRequest} {other : Topic}
    (h : request.topic? ≠ some other) :
    (store.serve request).2.get? other = store.get? other := by
  obtain ⟨topic, outcome, htopic, hconfined, hserve⟩ | ⟨hself, -⟩ := store.serve_cases request
  · rw [hserve]
    cases hconfined with
    | failed _ => rfl
    | done value others => exact others other fun heq => h (heq ▸ htopic)
  · rw [hself]

/-! ## Hits -/

/-- The counters with one of a topic, made at zero if there is none. -/
def made (store : CounterStore) (topic : Topic) : CounterStore :=
  match store.get? topic with
  | some _ => store
  | none => store.put topic 0

/-- The first hit of a topic makes its counter one. -/
theorem hit_of_none {store : CounterStore} {topic : Topic} (h : store.get? topic = none) :
    store.hit topic = store.answer topic 1 := by
  have hsum : addInRange? 0 1 = some 1 := by decide
  rw [hit, h, Option.getD_none, hsum]

/-- A hit makes its counter if there is none and then adds one to it; as one can always be added to
zero, no counter is left at zero by a hit that fails. -/
theorem add_made (store : CounterStore) (topic : Topic) :
    (store.made topic).add topic 1 = store.hit topic := by
  cases hget : store.get? topic with
  | some current =>
    rw [made, hget, add, hget, hit, hget]
    rfl
  | none =>
    have hput : (store.put topic 0).get? topic = some 0 := by rw [get?_put, if_pos rfl]
    have hsum : addInRange? 0 1 = some 1 := by decide
    rw [made, hget, add, hput, hit_of_none hget]
    simp only [hsum, answer, put_put]

/-! ## All together -/

/-- From no counters on, whatever is requested, the counters answer as a map of integers does in
which no value leaves the range of 64 bits. A request fails exactly when and for the reason that the
map gives, and then it changes nothing at all; one that succeeds changes no counter but its own. -/
theorem counters_refine_bounded_integers (requests : List CounterRequest) :
    let store := CounterStore.serve.run {} requests
    let counts := Counts.serve.run ∅ requests
    (CounterStore.serve.log {} requests).map (Prod.map id (CounterReply.map Int64.toInt)) =
        Counts.serve.log ∅ requests ∧
      (∀ topic, (store.get? topic).map Int64.toInt = counts.lookup topic) ∧
      store.size = counts.keys.card ∧
      (∀ request fault,
        (store.serve request).1 = .outcome (.error fault) ↔ counts.fault? request = some fault) ∧
      (∀ request fault, (store.serve request).1 = .outcome (.error fault) →
        (store.serve request).2 = store) ∧
      (∀ request other, request.topic? ≠ some other →
        (store.serve request).2.get? other = store.get? other) ∧
      ∀ topic, (store.made topic).add topic 1 = store.hit topic ∧
        (store.get? topic = none → (store.hit topic).1 = .ok 1) := by
  intro store counts
  have hrepresents : store.Represents counts := follows_serve.run .empty requests
  refine ⟨follows_serve.log .empty requests, fun topic => (hrepresents.lookup topic).symm,
    hrepresents.size_eq, fun request fault => ?_, fun request fault => serve_eq_self_of_error,
    fun request other => store.get?_serve_of_ne, fun topic => ⟨store.add_made topic, ?_⟩⟩
  · rw [← Counts.serve_eq_error_iff, ← (follows_serve hrepresents request).1,
      CounterReply.map_eq_error_iff]
  · exact fun hget => congrArg Prod.fst (hit_of_none hget)

end CounterStore

end LiveCounter
