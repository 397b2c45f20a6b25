import LiveCounter.Proofs.Simulations
import LiveCounter.Proofs.Subscriptions
import Mathlib.Data.Finset.Card
import Mathlib.Data.Finset.Image
import Mathlib.Data.Finset.SDiff

/-!
# Subscriptions over a whole life

Subscriptions change as sessions subscribe and unsubscribe and as the recipients of a topic are
looked up, which takes stale handles off it; which handles are stale changes elsewhere, as sessions
go. All of this together does what a finite set of pairs of topics and sessions does.
-/

namespace LiveCounter

/-- What happens to subscriptions and to the sessions behind them. -/
inductive SubscriptionUse where
  | subscribe (topic : Topic) (session : Nat)
  | unsubscribe (topic : Topic) (session : Nat)
  | recipients (topic : Topic)
  | drop (session : Nat)
  deriving DecidableEq

/-- What a use of subscriptions answers, with sessions collected in some type. -/
inductive SubscriptionReply (β : Type) where
  | done
  | removed (found : Bool)
  | recipients (sessions stale : β)

/-- A reply with its collections replaced. -/
def SubscriptionReply.map {β γ : Type} (f : β → γ) : SubscriptionReply β → SubscriptionReply γ
  | .done => .done
  | .removed found => .removed found
  | .recipients sessions stale => .recipients (f sessions) (f stale)

/-- Subscriptions, and which sessions are gone. -/
structure Registrations where
  subs : Subscriptions := {}
  gone : Finset Nat := ∅

/-- A set of subscribed pairs, and which sessions are gone. -/
structure SubscribedPairs where
  pairs : Finset (Topic × Nat) := ∅
  gone : Finset Nat := ∅

/-- The effect of a use. -/
def Registrations.serve :
    Machine Registrations SubscriptionUse (SubscriptionReply (List Nat))
  | ⟨subs, gone⟩, .subscribe topic session => (.done, ⟨subs.subscribe topic session, gone⟩)
  | ⟨subs, gone⟩, .unsubscribe topic session =>
    let (found, subs) := subs.unsubscribe topic session
    (.removed found, ⟨subs, gone⟩)
  | ⟨subs, gone⟩, .recipients topic =>
    let (found, subs) := subs.recipients (fun session => session ∉ gone) topic
    (.recipients found.sessions found.stale, ⟨subs, gone⟩)
  | ⟨subs, gone⟩, .drop session => (.done, ⟨subs, insert session gone⟩)

namespace SubscribedPairs

/-- The sessions paired with a topic. -/
def sessions (state : SubscribedPairs) (topic : Topic) : Finset Nat :=
  (state.pairs.filter fun pair => pair.1 = topic).image Prod.snd

/-- A session is paired with a topic if the pair is in the set. -/
@[simp] theorem mem_sessions (state : SubscribedPairs) (topic : Topic) (n : Nat) :
    n ∈ state.sessions topic ↔ (topic, n) ∈ state.pairs := by
  simp [sessions]

/-- The effect of a use on the set. -/
def serve : Machine SubscribedPairs SubscriptionUse (SubscriptionReply (Multiset Nat))
  | state, .subscribe topic session =>
    (.done, { state with pairs := insert (topic, session) state.pairs })
  | state, .unsubscribe topic session =>
    (.removed (decide ((topic, session) ∈ state.pairs)),
      { state with pairs := state.pairs.erase (topic, session) })
  | state, .recipients topic =>
    (.recipients (state.sessions topic \ state.gone).val (state.sessions topic ∩ state.gone).val,
      { state with
        pairs := state.pairs.filter fun pair => ¬ (pair.1 = topic ∧ pair.2 ∈ state.gone) })
  | state, .drop session => (.done, { state with gone := insert session state.gone })

end SubscribedPairs

namespace Subscriptions

/-- Subscribing once more changes nothing. -/
theorem subscribe_of_contains {subs : Subscriptions} {topic : Topic} {n : Nat}
    (h : subs.contains topic n = true) : subs.subscribe topic n = subs := by
  obtain ⟨entries⟩ := subs
  refine congrArg Subscriptions.mk ?_
  rw [contains_iff_mem] at h
  change n ∈ handlesIn topic entries at h
  induction entries with
  | nil => simp at h
  | cons entry rest ih =>
    obtain ⟨key, list⟩ := entry
    rw [handlesIn_cons] at h
    by_cases hkey : key = topic
    · have hmem : n ∈ list := by simpa [hkey] using h
      simp [insertHandle, hkey, hmem]
    · rw [if_neg hkey] at h
      rw [insertHandle, if_neg hkey, ih h]

/-- Looking up the recipients of a topic takes its stale handles off it and no others. -/
theorem WellFormed.contains_recipients {subs : Subscriptions} (h : subs.WellFormed)
    (alive : Nat → Bool) (topic other : Topic) (n : Nat) :
    (subs.recipients alive topic).2.contains other n = true ↔
      subs.contains other n = true ∧ ¬ (other = topic ∧ alive n = false) := by
  rw [recipients, h.contains_unsubscribeAll, Bool.and_eq_true]
  refine and_congr_right fun hn => ?_
  by_cases htopic : topic = other
  · subst htopic
    have hmem : n ∈ subs.handles topic := (contains_iff_mem ..).mp hn
    simp [hmem]
  · simp [htopic, Ne.symm htopic]

/-- The pairs that subscriptions stand for, topic by topic. -/
def pairs (subs : Subscriptions) : List (Topic × Nat) :=
  subs.topics.flatMap fun entry => entry.2.map fun n => (entry.1, n)

/-- The total counts pairs. -/
theorem total_eq_length_pairs (subs : Subscriptions) : subs.total = subs.pairs.length := by
  rw [total_eq_length, all, pairs, List.length_flatMap, List.length_flatMap]
  simp only [List.length_map]

/-- Well-formed subscriptions stand for the pairs that they contain. -/
theorem WellFormed.mem_pairs {subs : Subscriptions} (h : subs.WellFormed) (topic : Topic)
    (n : Nat) : (topic, n) ∈ subs.pairs ↔ subs.contains topic n = true := by
  rw [contains_iff_mem, pairs, List.mem_flatMap]
  constructor
  · rintro ⟨entry, hentry, hpair⟩
    obtain ⟨m, hm, heq⟩ := List.mem_map.mp hpair
    obtain ⟨rfl, rfl⟩ := Prod.mk.inj heq
    rwa [h.handles_of_mem hentry]
  · intro hn
    by_cases hkey : topic ∈ subs.topics.map (·.1)
    · obtain ⟨entry, hentry, rfl⟩ := List.mem_map.mp hkey
      exact ⟨entry, hentry, List.mem_map_of_mem (h.handles_of_mem hentry ▸ hn)⟩
    · simp [handles_of_notMem hkey] at hn

/-- Well-formed subscriptions stand for each pair once. -/
theorem WellFormed.pairs_nodup {subs : Subscriptions} (h : subs.WellFormed) : subs.pairs.Nodup := by
  rw [pairs, List.nodup_flatMap]
  refine ⟨fun entry hentry =>
    (h.entry_nodup entry hentry).map (Prod.mk_right_injective entry.1), ?_⟩
  refine (List.pairwise_map.mp h.keys_nodup).imp fun hne => ?_
  intro pair hfirst hsecond
  obtain ⟨_, -, rfl⟩ := List.mem_map.mp hfirst
  obtain ⟨_, -, heq⟩ := List.mem_map.mp hsecond
  exact hne (congrArg Prod.fst heq).symm

end Subscriptions

namespace Registrations

/-- Subscriptions stay well-formed, whatever their use. -/
theorem wellFormed_serve {state : Registrations} (h : state.subs.WellFormed)
    (use : SubscriptionUse) : (state.serve use).2.subs.WellFormed := by
  cases use with
  | subscribe topic n => exact h.subscribe topic n
  | unsubscribe topic n => exact h.unsubscribe topic n
  | recipients topic => exact h.unsubscribeAll topic _
  | drop n => exact h

/-! ## Subscriptions and pairs -/

/-- Well-formed subscriptions hold exactly the pairs of a set, with the same sessions gone. -/
structure Represents (state : Registrations) (set : SubscribedPairs) : Prop where
  wellFormed : state.subs.WellFormed
  contains : ∀ topic n, state.subs.contains topic n = true ↔ (topic, n) ∈ set.pairs
  gone : state.gone = set.gone

namespace Represents

variable {state : Registrations} {set : SubscribedPairs}

/-- No subscriptions stand for no pairs. -/
theorem empty : Represents {} {} where
  wellFormed := Subscriptions.wellFormed_empty
  contains _ _ := iff_of_false Bool.false_ne_true (Finset.notMem_empty _)
  gone := rfl

/-- The handles of a topic are the sessions paired with it. -/
theorem mem_handles (h : state.Represents set) (topic : Topic) (n : Nat) :
    n ∈ state.subs.handles topic ↔ n ∈ set.sessions topic := by
  rw [← Subscriptions.contains_iff_mem, h.contains, SubscribedPairs.mem_sessions]

/-- Handles and sessions that are picked out alike are the same. -/
theorem handles_filter (h : state.Represents set) (topic : Topic) (keep : Nat → Bool)
    (kept : Finset Nat) (hkept : ∀ n, n ∈ kept ↔ n ∈ set.sessions topic ∧ keep n = true) :
    ((state.subs.handles topic).filter keep : Multiset Nat) = kept.val := by
  have hnodup : ((state.subs.handles topic).filter keep).Nodup :=
    (h.wellFormed.handles_nodup topic).filter _
  refine (Multiset.Nodup.ext (Multiset.coe_nodup.mpr hnodup) kept.nodup).mpr fun n => ?_
  rw [Multiset.mem_coe, List.mem_filter, h.mem_handles, Finset.mem_val, hkept]

/-- The pairs that subscriptions stand for are those of the set. -/
theorem pairs_eq (h : state.Represents set) : state.subs.pairs.toFinset = set.pairs := by
  ext ⟨topic, n⟩
  rw [List.mem_toFinset, h.wellFormed.mem_pairs, h.contains]

/-- The handles of a topic are the sessions paired with it, each once. -/
theorem handles_eq (h : state.Represents set) (topic : Topic) :
    (state.subs.handles topic : Multiset Nat) = (set.sessions topic).val := by
  have hall := h.handles_filter topic (fun _ => true) (set.sessions topic) (by simp)
  rwa [List.filter_true] at hall

/-- A topic has as many subscriptions as it has sessions. -/
theorem count_eq (h : state.Represents set) (topic : Topic) :
    state.subs.count topic = (set.sessions topic).card := by
  rw [Finset.card, ← h.handles_eq, Multiset.coe_card, Subscriptions.count]

/-- There are as many subscriptions as pairs. -/
theorem total_eq (h : state.Represents set) : state.subs.total = set.pairs.card := by
  rw [Subscriptions.total_eq_length_pairs, ← h.pairs_eq,
    List.toFinset_card_of_nodup h.wellFormed.pairs_nodup]

/-- The topics with subscriptions are those of the pairs. -/
theorem mem_topics (h : state.Represents set) (topic : Topic) :
    topic ∈ state.subs.topics.map Prod.fst ↔ ∃ n, (topic, n) ∈ set.pairs :=
  (h.wellFormed.mem_keys topic).trans (exists_congr (h.contains topic))

/-- There are as many topics as the pairs have. -/
theorem numTopics_eq (h : state.Represents set) :
    state.subs.numTopics = (set.pairs.image Prod.fst).card := by
  have htopics : (state.subs.topics.map Prod.fst).toFinset = set.pairs.image Prod.fst := by
    ext topic
    simp [h.mem_topics]
  rw [← htopics, List.toFinset_card_of_nodup h.wellFormed.keys_nodup, List.length_map]
  rfl

/-- Subscriptions are empty when there are no pairs. -/
theorem isEmpty_iff (h : state.Represents set) : state.subs.isEmpty = true ↔ set.pairs = ∅ := by
  rw [← Finset.image_eq_empty (f := Prod.fst), ← Finset.card_eq_zero, ← h.numTopics_eq,
    Subscriptions.numTopics, List.length_eq_zero_iff, Subscriptions.isEmpty, List.isEmpty_iff]

end Represents

/-- Every use does to subscriptions what it does to the set of pairs. -/
theorem follows_serve :
    SubscribedPairs.serve.Follows Registrations.serve
      (SubscriptionReply.map (fun list : List Nat => (list : Multiset Nat))) Represents := by
  intro state set h use
  have hwell := wellFormed_serve h.wellFormed use
  cases use with
  | subscribe topic n =>
    refine ⟨rfl, hwell, fun other m => ?_, h.gone⟩
    simp only [serve, SubscribedPairs.serve, Subscriptions.contains_subscribe, Bool.or_eq_true,
      Bool.and_eq_true, decide_eq_true_eq, h.contains, Finset.mem_insert, Prod.mk.injEq]
    rw [or_comm, eq_comm (a := topic)]
  | unsubscribe topic n =>
    have hfound : state.subs.contains topic n = decide ((topic, n) ∈ set.pairs) :=
      Bool.eq_iff_iff.mpr ((h.contains topic n).trans decide_eq_true_iff.symm)
    refine ⟨congrArg SubscriptionReply.removed hfound, hwell, fun other m => ?_, h.gone⟩
    simp only [serve, SubscribedPairs.serve, h.wellFormed.contains_unsubscribe, Bool.and_eq_true,
      Bool.not_eq_true', Bool.and_eq_false_iff, decide_eq_false_iff_not, ← not_and_or, h.contains,
      Finset.mem_erase, ne_eq, Prod.mk.injEq]
    rw [and_comm, eq_comm (a := topic)]
  | recipients topic =>
    have hlive := h.handles_filter topic (fun m => m ∉ state.gone) (set.sessions topic \ set.gone)
      (by simp [h.gone])
    have hstale := h.handles_filter topic (fun m => !decide (m ∉ state.gone))
      (set.sessions topic ∩ set.gone) (by simp [h.gone])
    refine ⟨congrArg₂ SubscriptionReply.recipients hlive hstale, hwell,
      fun other m => ?_, h.gone⟩
    simp only [serve, SubscribedPairs.serve, h.wellFormed.contains_recipients, h.contains,
      Finset.mem_filter, decide_eq_false_iff_not, not_not, h.gone]
  | drop n => exact ⟨rfl, hwell, h.contains, congrArg (insert n) h.gone⟩

/-! ## Stale handles reported -/

/-- The stale handles of a topic that a use reports. -/
def staleReports (topic : Topic) : SubscriptionUse × SubscriptionReply (List Nat) → List Nat
  | (.recipients other, .recipients _ stale) => if other = topic then stale else []
  | _ => []

/-- Only subscribing puts a handle there. -/
theorem contains_of_contains_serve {state : Registrations} (h : state.subs.WellFormed)
    {use : SubscriptionUse} {topic : Topic} {n : Nat}
    (hafter : (state.serve use).2.subs.contains topic n = true) :
    use = .subscribe topic n ∨ state.subs.contains topic n = true := by
  cases use with
  | subscribe other m =>
    simp only [serve, Subscriptions.contains_subscribe, Bool.or_eq_true, Bool.and_eq_true,
      decide_eq_true_eq] at hafter
    obtain hbefore | ⟨rfl, rfl⟩ := hafter
    · exact .inr hbefore
    · exact .inl rfl
  | unsubscribe other m =>
    simp only [serve, h.contains_unsubscribe, Bool.and_eq_true] at hafter
    exact .inr hafter.1
  | recipients other =>
    simp only [serve, h.contains_recipients] at hafter
    exact .inr hafter.1
  | drop m => exact .inr hafter

/-- A stale handle is reported once and then is no longer there. -/
theorem of_mem_staleReports {state : Registrations} (h : state.subs.WellFormed)
    {use : SubscriptionUse} {topic : Topic} {n : Nat}
    (hn : n ∈ staleReports topic (use, (state.serve use).1)) :
    state.subs.contains topic n = true ∧ (state.serve use).2.subs.contains topic n = false ∧
      (staleReports topic (use, (state.serve use).1)).count n = 1 := by
  cases use with
  | recipients other =>
    by_cases htopic : other = topic
    · subst htopic
      have hreports : staleReports other (.recipients other, (state.serve (.recipients other)).1) =
          (state.subs.handles other).filter fun m => !decide (m ∉ state.gone) := if_pos rfl
      rw [hreports] at hn ⊢
      obtain ⟨hmem, hgone⟩ := List.mem_filter.mp hn
      refine ⟨(Subscriptions.contains_iff_mem ..).mpr hmem, ?_,
        List.count_eq_one_of_mem ((h.handles_nodup other).filter _) hn⟩
      rw [Bool.eq_false_iff, ne_eq, serve, h.contains_recipients]
      exact fun hkept => hkept.2 ⟨rfl, by simpa using hgone⟩
    · simp [staleReports, serve, htopic] at hn
  | _ => simp [staleReports] at hn

/-- A use takes away each registration that it reports as stale. -/
theorem count_staleReports_serve {state : Registrations} (h : state.subs.WellFormed)
    (use : SubscriptionUse) (topic : Topic) (n : Nat) :
    (staleReports topic (use, (state.serve use).1)).count n +
        ((state.serve use).2.subs.contains topic n).toNat ≤
      (if use = .subscribe topic n then 1 else 0) + (state.subs.contains topic n).toNat := by
  by_cases hn : n ∈ staleReports topic (use, (state.serve use).1)
  · obtain ⟨hbefore, hafter, hcount⟩ := of_mem_staleReports h hn
    rw [hbefore, hafter, hcount]
    exact Nat.le_add_left ..
  · rw [List.count_eq_zero_of_not_mem hn, Nat.zero_add]
    cases hafter : (state.serve use).2.subs.contains topic n with
    | false => exact Nat.zero_le _
    | true =>
      obtain huse | hbefore := contains_of_contains_serve h hafter
      · rw [if_pos huse]
        exact Nat.le_add_right ..
      · rw [hbefore]
        exact Nat.le_add_left ..

/-- In the course of many uses, each registration of a handle is good for one report at most. -/
theorem count_staleReports_log {state : Registrations} (h : state.subs.WellFormed)
    (uses : List SubscriptionUse) (topic : Topic) (n : Nat) :
    ((serve.log state uses).flatMap (staleReports topic)).count n +
        ((serve.run state uses).subs.contains topic n).toNat ≤
      uses.count (.subscribe topic n) + (state.subs.contains topic n).toNat := by
  induction uses generalizing state with
  | nil => simp [Machine.log, Machine.run]
  | cons use uses ih =>
    have hfirst := count_staleReports_serve h use topic n
    have hlater := ih (wellFormed_serve h use)
    rw [show serve.run state (use :: uses) = serve.run (state.serve use).2 uses from rfl]
    simp only [Machine.log, List.flatMap_cons, List.count_append, List.count_cons, beq_iff_eq]
    omega

/-! ## All together -/

/-- From no subscriptions on, subscriptions do what a set of pairs does, whatever is done to them
and whichever sessions go. Every registration of a handle is good for one report that it is stale at
most. -/
theorem refine_set_of_pairs (uses : List SubscriptionUse) :
    let state := serve.run {} uses
    let set := SubscribedPairs.serve.run {} uses
    (serve.log {} uses).map
          (Prod.map id (SubscriptionReply.map fun list : List Nat => (list : Multiset Nat))) =
        SubscribedPairs.serve.log {} uses ∧
      state.gone = set.gone ∧
      (∀ topic n, state.subs.contains topic n = true ↔ (topic, n) ∈ set.pairs) ∧
      (∀ topic, (state.subs.handles topic : Multiset Nat) = (set.sessions topic).val ∧
        state.subs.count topic = (set.sessions topic).card ∧
        (topic ∈ state.subs.topics.map Prod.fst ↔ ∃ n, (topic, n) ∈ set.pairs)) ∧
      state.subs.numTopics = (set.pairs.image Prod.fst).card ∧
      state.subs.total = set.pairs.card ∧
      (state.subs.isEmpty = true ↔ set.pairs = ∅) ∧
      (∀ topic n, (topic, n) ∈ set.pairs → state.subs.subscribe topic n = state.subs) ∧
      ∀ later topic n,
        ((serve.log state later).flatMap (staleReports topic)).count n +
            ((serve.run state later).subs.contains topic n).toNat ≤
          later.count (.subscribe topic n) + (state.subs.contains topic n).toNat := by
  intro state set
  have h : state.Represents set := follows_serve.run .empty uses
  exact ⟨follows_serve.log .empty uses, h.gone, h.contains,
    fun topic => ⟨h.handles_eq topic, h.count_eq topic, h.mem_topics topic⟩,
    h.numTopics_eq, h.total_eq, h.isEmpty_iff,
    fun topic n hpair => Subscriptions.subscribe_of_contains ((h.contains topic n).mpr hpair),
    count_staleReports_log h.wellFormed⟩

end Registrations

end LiveCounter
