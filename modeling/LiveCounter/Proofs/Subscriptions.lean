import LiveCounter.Stream.Subscriptions
import Mathlib.Data.List.Nodup
import Mathlib.Data.List.Perm.Basic
import Mathlib.Data.List.Dedup

/-!
# Subscriptions as a set of pairs

In well-formed subscriptions no topic has two entries, no entry is empty, and no entry names a
session twice. Subscribing and unsubscribing keep this, and then subscriptions are no more than the
set of the pairs that `contains` finds: putting a pair in or taking it out changes the answer for
that pair alone.
-/

namespace LiveCounter.Subscriptions

/-- No topic has two entries, and every entry names some sessions, each once. -/
structure WellFormed (subs : Subscriptions) : Prop where
  keys_nodup : (subs.topics.map (·.1)).Nodup
  entry_nonempty : ∀ entry ∈ subs.topics, entry.2 ≠ []
  entry_nodup : ∀ entry ∈ subs.topics, entry.2.Nodup

/-- The handles of a topic in a list of entries. -/
def handlesIn (topic : Topic) (entries : List (Topic × List Nat)) : List Nat :=
  handles ⟨entries⟩ topic

/-- Nobody is subscribed where there are no topics. -/
@[simp] theorem handlesIn_nil (topic : Topic) : handlesIn topic [] = [] := rfl

/-- A topic is looked up entry by entry. -/
theorem handlesIn_cons (topic : Topic) (entry : Topic × List Nat)
    (rest : List (Topic × List Nat)) :
    handlesIn topic (entry :: rest) = if entry.1 = topic then entry.2 else handlesIn topic rest := by
  by_cases h : entry.1 = topic <;> simp [handlesIn, handles, List.find?, h]

/-- A topic without an entry has no handles. -/
theorem handlesIn_of_notMem {topic : Topic} {entries : List (Topic × List Nat)}
    (h : topic ∉ entries.map (·.1)) : handlesIn topic entries = [] := by
  induction entries with
  | nil => rfl
  | cons entry rest ih =>
    simp only [List.map_cons, List.mem_cons, not_or] at h
    rw [handlesIn_cons, if_neg (Ne.symm h.1), ih h.2]

/-- The only entry of a topic holds its handles. -/
theorem handlesIn_of_mem {entry : Topic × List Nat} {entries : List (Topic × List Nat)}
    (hkeys : (entries.map (·.1)).Nodup) (h : entry ∈ entries) :
    handlesIn entry.1 entries = entry.2 := by
  induction entries with
  | nil => simp at h
  | cons first rest ih =>
    simp only [List.map_cons, List.nodup_cons] at hkeys
    rw [handlesIn_cons]
    rcases List.mem_cons.mp h with rfl | hrest
    · rw [if_pos rfl]
    · have hne : first.1 ≠ entry.1 := fun heq =>
        hkeys.1 (heq ▸ List.mem_map_of_mem hrest)
      rw [if_neg hne, ih hkeys.2 hrest]

/-- A topic without an entry has no subscribers. -/
theorem handles_of_notMem {subs : Subscriptions} {topic : Topic}
    (h : topic ∉ subs.topics.map (·.1)) : subs.handles topic = [] :=
  handlesIn_of_notMem h

/-- The entry of a topic has its subscribers. -/
theorem WellFormed.handles_of_mem {subs : Subscriptions} (h : subs.WellFormed)
    {entry : Topic × List Nat} (hentry : entry ∈ subs.topics) :
    subs.handles entry.1 = entry.2 :=
  handlesIn_of_mem h.keys_nodup hentry

/-- Nobody is subscribed to a topic twice. -/
theorem WellFormed.handles_nodup {subs : Subscriptions} (h : subs.WellFormed) (topic : Topic) :
    (subs.handles topic).Nodup := by
  by_cases hkey : topic ∈ subs.topics.map (·.1)
  · obtain ⟨entry, hentry, rfl⟩ := List.mem_map.mp hkey
    rw [h.handles_of_mem hentry]
    exact h.entry_nodup entry hentry
  · rw [handles_of_notMem hkey]
    exact List.nodup_nil

/-- Somebody is subscribed exactly if listed. -/
theorem contains_iff_mem (subs : Subscriptions) (topic : Topic) (n : Nat) :
    subs.contains topic n = true ↔ n ∈ subs.handles topic := by
  simp [contains]

/-! ## Subscribing -/

/-- Putting a handle in adds it to the handles of its topic and leaves other topics alone. -/
theorem mem_handlesIn_insertHandle (topic other : Topic) (n m : Nat)
    (entries : List (Topic × List Nat)) :
    m ∈ handlesIn other (insertHandle topic n entries) ↔
      m ∈ handlesIn other entries ∨ (topic = other ∧ m = n) := by
  induction entries with
  | nil => by_cases h : topic = other <;> simp [insertHandle, handlesIn_cons, h]
  | cons entry rest ih =>
    obtain ⟨key, list⟩ := entry
    by_cases hkey : key = topic
    · subst hkey
      by_cases hother : key = other
      · by_cases hn : n ∈ list
        · simp only [insertHandle, List.contains_iff_mem.mpr hn, handlesIn_cons, hother, if_true]
          exact ⟨Or.inl, fun h => h.elim id fun h => h.2 ▸ hn⟩
        · simp [insertHandle, handlesIn_cons, hother, hn]
      · simp [insertHandle, handlesIn_cons, hother]
    · by_cases hother : key = other
      · subst hother
        simp [insertHandle, handlesIn_cons, hkey, Ne.symm hkey]
      · simp [insertHandle, handlesIn_cons, hkey, hother, ih]

/-- Of the topics that have entries only that of the new subscriber can be new. -/
theorem mem_keys_insertHandle (topic key : Topic) (n : Nat) (entries : List (Topic × List Nat)) :
    key ∈ (insertHandle topic n entries).map (·.1) ↔
      key ∈ entries.map (·.1) ∨ key = topic := by
  induction entries with
  | nil => simp [insertHandle]
  | cons entry rest ih =>
    by_cases h : entry.1 = topic
    · simp only [insertHandle, h, if_true, List.map_cons, List.mem_cons]
      tauto
    · simp only [insertHandle, h, if_false, List.map_cons, List.mem_cons, ih]
      tauto

/-- After a subscription, one more is subscribed. -/
theorem contains_subscribe (subs : Subscriptions) (topic other : Topic) (n m : Nat) :
    (subs.subscribe topic n).contains other m =
      (subs.contains other m || (decide (topic = other) && decide (m = n))) := by
  rw [Bool.eq_iff_iff]
  simp only [contains_iff_mem, Bool.or_eq_true, Bool.and_eq_true, decide_eq_true_eq]
  exact mem_handlesIn_insertHandle topic other n m subs.topics

/-- A subscription keeps the subscriptions well-formed. -/
theorem WellFormed.subscribe {subs : Subscriptions} (h : subs.WellFormed) (topic : Topic)
    (n : Nat) : (subs.subscribe topic n).WellFormed := by
  obtain ⟨entries⟩ := subs
  induction entries with
  | nil => exact ⟨by simp [Subscriptions.subscribe, insertHandle],
      by simp [Subscriptions.subscribe, insertHandle],
      by simp [Subscriptions.subscribe, insertHandle]⟩
  | cons entry rest ih =>
    obtain ⟨hkeys, hnonempty, hnodup⟩ := h
    simp only [List.map_cons, List.nodup_cons, List.forall_mem_cons] at hkeys hnonempty hnodup
    obtain ⟨rkeys, rnonempty, rnodup⟩ := ih ⟨hkeys.2, hnonempty.2, hnodup.2⟩
    by_cases hkey : entry.1 = topic
    · have hlist : ∀ list, list = (if entry.2.contains n then entry.2 else entry.2 ++ [n]) →
          list ≠ [] ∧ list.Nodup := by
        intro list hlist
        by_cases hn : n ∈ entry.2
        · simp [hlist, hn, hnonempty.1, hnodup.1]
        · rw [hlist, if_neg (by simpa using hn)]
          refine ⟨by simp, ?_⟩
          rw [List.nodup_append]
          exact ⟨hnodup.1, List.nodup_singleton n, by
            intro a ha b hb
            rw [List.mem_singleton.mp hb]
            exact fun heq => hn (heq ▸ ha)⟩
      have htopics : (Subscriptions.subscribe ⟨entry :: rest⟩ topic n).topics =
          (entry.1, if entry.2.contains n then entry.2 else entry.2 ++ [n]) :: rest := by
        simp [Subscriptions.subscribe, insertHandle, hkey]
      refine ⟨?_, ?_, ?_⟩
      · simpa only [htopics, List.map_cons, List.nodup_cons] using hkeys
      · simpa only [htopics, List.forall_mem_cons] using ⟨(hlist _ rfl).1, hnonempty.2⟩
      · simpa only [htopics, List.forall_mem_cons] using ⟨(hlist _ rfl).2, hnodup.2⟩
    · have htopics : (Subscriptions.subscribe ⟨entry :: rest⟩ topic n).topics =
          entry :: (Subscriptions.subscribe ⟨rest⟩ topic n).topics := by
        simp [Subscriptions.subscribe, insertHandle, hkey]
      refine ⟨?_, ?_, ?_⟩
      · rw [htopics, List.map_cons, List.nodup_cons]
        refine ⟨fun hmem => ?_, rkeys⟩
        rcases (mem_keys_insertHandle topic entry.1 n rest).mp hmem with hmem | heq
        · exact hkeys.1 hmem
        · exact hkey heq
      · simpa only [htopics, List.forall_mem_cons] using ⟨hnonempty.1, rnonempty⟩
      · simpa only [htopics, List.forall_mem_cons] using ⟨hnodup.1, rnodup⟩

/-! ## Unsubscribing -/

/-- Taking a handle out leaves no key that was not there. -/
theorem keys_eraseHandle_sublist (topic : Topic) (n : Nat) (entries : List (Topic × List Nat)) :
    ((eraseHandle topic n entries).map (·.1)).Sublist (entries.map (·.1)) := by
  induction entries with
  | nil => exact List.Sublist.refl _
  | cons entry rest ih =>
    obtain ⟨key, list⟩ := entry
    simp only [eraseHandle]
    split
    · split
      · exact List.sublist_cons_self _ _
      · exact List.Sublist.refl _
    · exact ih.cons_cons _

/-- Every entry after taking a handle out is an old one, or an old one without the handle that is
not empty. -/
theorem mem_eraseHandle {topic : Topic} {n : Nat} {entries : List (Topic × List Nat)}
    {entry : Topic × List Nat} (h : entry ∈ eraseHandle topic n entries) :
    entry ∈ entries ∨ (entry.2 ≠ [] ∧ ∃ list, (entry.1, list) ∈ entries ∧ entry.2 = list.erase n) := by
  induction entries with
  | nil => simp [eraseHandle] at h
  | cons first rest ih =>
    obtain ⟨key, list⟩ := first
    simp only [eraseHandle] at h
    split at h
    · split at h
      · exact Or.inl (List.mem_cons_of_mem _ h)
      · next hkept =>
        rcases List.mem_cons.mp h with rfl | h
        · exact Or.inr ⟨by simpa using hkept, list, List.mem_cons_self, rfl⟩
        · exact Or.inl (List.mem_cons_of_mem _ h)
    · rcases List.mem_cons.mp h with rfl | h
      · exact Or.inl List.mem_cons_self
      · rcases ih h with h | ⟨hne, list, hmem, heq⟩
        · exact Or.inl (List.mem_cons_of_mem _ h)
        · exact Or.inr ⟨hne, list, List.mem_cons_of_mem _ hmem, heq⟩

/-- So does its end. -/
theorem WellFormed.unsubscribe {subs : Subscriptions} (h : subs.WellFormed) (topic : Topic)
    (n : Nat) : (subs.unsubscribe topic n).2.WellFormed where
  keys_nodup := h.keys_nodup.sublist (keys_eraseHandle_sublist topic n subs.topics)
  entry_nonempty entry hentry :=
    (mem_eraseHandle hentry).elim (h.entry_nonempty entry) And.left
  entry_nodup entry hentry := by
    rcases mem_eraseHandle hentry with hmem | ⟨-, list, hmem, heq⟩
    · exact h.entry_nodup entry hmem
    · exact heq ▸ (h.entry_nodup _ hmem).erase n

/-- A handle is taken out entry by entry, and an entry that it leaves empty goes with it. -/
theorem eraseHandle_cons (topic : Topic) (n : Nat) (entry : Topic × List Nat)
    (rest : List (Topic × List Nat)) :
    eraseHandle topic n (entry :: rest) =
      if entry.1 = topic then
        if entry.2.erase n = [] then rest else (entry.1, entry.2.erase n) :: rest
      else entry :: eraseHandle topic n rest := by
  simp only [eraseHandle]
  cases entry.2.erase n <;> simp

/-- Nothing is taken out of a topic without an entry. -/
theorem eraseHandle_of_notMem {topic : Topic} {entries : List (Topic × List Nat)}
    (h : topic ∉ entries.map (·.1)) (n : Nat) : eraseHandle topic n entries = entries := by
  induction entries with
  | nil => rfl
  | cons entry rest ih =>
    simp only [List.map_cons, List.mem_cons, not_or] at h
    rw [eraseHandle_cons, if_neg (Ne.symm h.1), ih h.2]

/-- Taking a handle out of entries without repetition takes it out of the handles of its topic and
leaves other topics alone. -/
theorem handlesIn_eraseHandle {entries : List (Topic × List Nat)} (topic other : Topic) (n : Nat)
    (hkeys : (entries.map (·.1)).Nodup) :
    handlesIn other (eraseHandle topic n entries) =
      if topic = other then (handlesIn other entries).erase n else handlesIn other entries := by
  induction entries with
  | nil => simp [eraseHandle]
  | cons entry rest ih =>
    obtain ⟨hkey, hrest⟩ := List.nodup_cons.mp hkeys
    by_cases htopic : entry.1 = topic
    · subst htopic
      by_cases hother : entry.1 = other
      · subst hother
        rw [eraseHandle_cons, if_pos rfl, if_pos rfl, handlesIn_cons, if_pos rfl]
        split
        · next hempty => rw [handlesIn_of_notMem hkey, hempty]
        · rw [handlesIn_cons, if_pos rfl]
      · rw [eraseHandle_cons, if_pos rfl, if_neg hother, handlesIn_cons, if_neg hother]
        split
        · rfl
        · rw [handlesIn_cons, if_neg hother]
    · rw [eraseHandle_cons, if_neg htopic, handlesIn_cons, handlesIn_cons, ih hrest]
      by_cases hother : entry.1 = other
      · have hne : topic ≠ other := fun heq => htopic (hother.trans heq.symm)
        rw [if_pos hother, if_pos hother, if_neg hne]
      · rw [if_neg hother, if_neg hother]

/-- The end of a subscription takes one handle from its topic. -/
theorem WellFormed.handles_unsubscribe {subs : Subscriptions} (h : subs.WellFormed)
    (topic other : Topic) (n : Nat) :
    (subs.unsubscribe topic n).2.handles other =
      if topic = other then (subs.handles other).erase n else subs.handles other :=
  handlesIn_eraseHandle topic other n h.keys_nodup

/-- After the end of a subscription, one less is subscribed. -/
theorem WellFormed.contains_unsubscribe {subs : Subscriptions} (h : subs.WellFormed)
    (topic other : Topic) (n m : Nat) :
    (subs.unsubscribe topic n).2.contains other m =
      (subs.contains other m && !(decide (topic = other) && decide (m = n))) := by
  rw [Bool.eq_iff_iff]
  simp only [contains_iff_mem, Bool.and_eq_true, Bool.not_eq_true', Bool.and_eq_false_iff,
    decide_eq_false_iff_not, h.handles_unsubscribe]
  by_cases htopic : topic = other
  · rw [if_pos htopic, (h.handles_nodup other).mem_erase_iff]
    simp [htopic, and_comm]
  · rw [if_neg htopic]
    simp [htopic]

/-- It does not matter which of two handles is taken out first. -/
theorem eraseHandle_comm {entries : List (Topic × List Nat)} (hkeys : (entries.map (·.1)).Nodup)
    (topic other : Topic) (n m : Nat) :
    eraseHandle topic n (eraseHandle other m entries) =
      eraseHandle other m (eraseHandle topic n entries) := by
  induction entries with
  | nil => rfl
  | cons entry rest ih =>
    obtain ⟨hkey, hrest⟩ := List.nodup_cons.mp hkeys
    have hboth (first second : Nat) :
        eraseHandle entry.1 second (eraseHandle entry.1 first (entry :: rest)) =
          if (entry.2.erase first).erase second = [] then rest
          else (entry.1, (entry.2.erase first).erase second) :: rest := by
      rw [eraseHandle_cons, if_pos rfl]
      split
      · next hempty =>
        rw [hempty, eraseHandle_of_notMem hkey]
        rfl
      · rw [eraseHandle_cons, if_pos rfl]
    by_cases htopic : entry.1 = topic <;> by_cases hother : entry.1 = other
    · subst htopic hother
      rw [hboth, hboth, List.erase_comm]
    · subst htopic
      simp only [eraseHandle_cons, if_true, if_neg hother]
      split
      · rfl
      · simp only [eraseHandle_cons, if_neg hother]
    · subst hother
      simp only [eraseHandle_cons, if_true, if_neg htopic]
      split
      · rfl
      · simp only [eraseHandle_cons, if_neg htopic]
    · simp only [eraseHandle_cons, if_neg htopic, if_neg hother, ih hrest]

/-- It does not matter which of two sessions is taken off its topic first. -/
theorem WellFormed.unsubscribe_comm {subs : Subscriptions} (h : subs.WellFormed)
    (topic other : Topic) (n m : Nat) :
    ((subs.unsubscribe topic n).2.unsubscribe other m).2 =
      ((subs.unsubscribe other m).2.unsubscribe topic n).2 :=
  congrArg Subscriptions.mk (eraseHandle_comm h.keys_nodup other topic m n)

/-- The end of several subscriptions keeps the others well-formed. -/
theorem WellFormed.unsubscribeAll {subs : Subscriptions} (h : subs.WellFormed) (topic : Topic)
    (ns : List Nat) : (subs.unsubscribeAll topic ns).WellFormed := by
  induction ns generalizing subs with
  | nil => exact h
  | cons n rest ih => exact ih (h.unsubscribe topic n)

/-- After the end of several subscriptions, those are not subscribed any more. -/
theorem WellFormed.contains_unsubscribeAll {subs : Subscriptions} (h : subs.WellFormed)
    (topic other : Topic) (ns : List Nat) (m : Nat) :
    (subs.unsubscribeAll topic ns).contains other m =
      (subs.contains other m && !(decide (topic = other) && ns.contains m)) := by
  induction ns generalizing subs with
  | nil => simp [Subscriptions.unsubscribeAll]
  | cons n rest ih =>
    have hrest := ih (h.unsubscribe topic n)
    rw [show subs.unsubscribeAll topic (n :: rest) =
      (subs.unsubscribe topic n).2.unsubscribeAll topic rest from rfl, hrest,
      h.contains_unsubscribe]
    by_cases htopic : topic = other <;> by_cases hm : m = n <;> simp [htopic, hm]

/-- Taking several sessions off a topic leaves the others in their order. -/
theorem WellFormed.handles_unsubscribeAll {subs : Subscriptions} (h : subs.WellFormed)
    (topic other : Topic) (ns : List Nat) :
    (subs.unsubscribeAll topic ns).handles other =
      if topic = other then (subs.handles other).filter fun n => n ∉ ns else subs.handles other := by
  induction ns generalizing subs with
  | nil => simp [Subscriptions.unsubscribeAll]
  | cons n rest ih =>
    rw [show subs.unsubscribeAll topic (n :: rest) =
      (subs.unsubscribe topic n).2.unsubscribeAll topic rest from rfl, ih (h.unsubscribe topic n),
      h.handles_unsubscribe]
    by_cases htopic : topic = other
    · rw [if_pos htopic, if_pos htopic, if_pos htopic, (h.handles_nodup other).erase_eq_filter,
        List.filter_filter]
      exact List.filter_congr fun m _ => by by_cases hm : m = n <;> simp [hm]
    · rw [if_neg htopic, if_neg htopic, if_neg htopic]

/-- Entries of other topics stay in front. -/
theorem unsubscribeAll_cons_of_ne {topic : Topic} {entry : Topic × List Nat}
    (h : entry.1 ≠ topic) (rest : List (Topic × List Nat)) (ns : List Nat) :
    (unsubscribeAll ⟨entry :: rest⟩ topic ns).topics =
      entry :: (unsubscribeAll ⟨rest⟩ topic ns).topics := by
  induction ns generalizing rest with
  | nil => rfl
  | cons n ns ih =>
    have hfirst : (unsubscribe ⟨entry :: rest⟩ topic n).2 =
        ⟨entry :: eraseHandle topic n rest⟩ :=
      congrArg Subscriptions.mk ((eraseHandle_cons topic n entry rest).trans (if_neg h))
    simp only [unsubscribeAll, List.foldl_cons, hfirst]
    exact ih (eraseHandle topic n rest)

/-- Once all its sessions are taken off it, the entry of a topic goes. -/
theorem unsubscribeAll_cons_self (topic : Topic) (rest : List (Topic × List Nat)) {ns : List Nat}
    (h : ns ≠ []) : (unsubscribeAll ⟨(topic, ns) :: rest⟩ topic ns).topics = rest := by
  induction ns with
  | nil => exact absurd rfl h
  | cons n ns ih =>
    have hfirst : (unsubscribe ⟨(topic, n :: ns) :: rest⟩ topic n).2 =
        ⟨if ns = [] then rest else (topic, ns) :: rest⟩ := by
      refine congrArg Subscriptions.mk ((eraseHandle_cons topic n _ rest).trans ?_)
      rw [if_pos rfl, List.erase_cons_head]
    simp only [unsubscribeAll, List.foldl_cons, hfirst] at ih ⊢
    split
    · next hlast => rw [hlast, List.foldl_nil]
    · next hmore => exact ih hmore

/-- If every subscriber of a topic is taken off it, all other entries are left, in their order. -/
theorem WellFormed.topics_unsubscribeAll {subs : Subscriptions} (h : subs.WellFormed)
    (topic : Topic) :
    (subs.unsubscribeAll topic (subs.handles topic)).topics =
      subs.topics.filter fun entry => entry.1 ≠ topic := by
  obtain ⟨entries⟩ := subs
  induction entries with
  | nil => rfl
  | cons entry rest ih =>
    obtain ⟨hkeys, hnonempty, hnodup⟩ := h
    obtain ⟨hkey, hrest⟩ := List.nodup_cons.mp hkeys
    by_cases htopic : entry.1 = topic
    · subst htopic
      have hothers : rest.filter (fun other => decide (other.1 ≠ entry.1)) = rest :=
        List.filter_eq_self.mpr fun other hother => by
          have hne : other.1 ≠ entry.1 := fun heq =>
            hkey (List.mem_map.mpr ⟨other, hother, heq⟩)
          simpa using hne
      rw [show handles ⟨entry :: rest⟩ entry.1 = entry.2 from
          (handlesIn_cons entry.1 entry rest).trans (if_pos rfl),
        unsubscribeAll_cons_self entry.1 rest (hnonempty entry List.mem_cons_self),
        List.filter_cons_of_neg (by simp), hothers]
    · have hlater := ih ⟨hrest, fun other hother => hnonempty other (List.mem_cons_of_mem _ hother),
        fun other hother => hnodup other (List.mem_cons_of_mem _ hother)⟩
      rw [show handles ⟨entry :: rest⟩ topic = handles ⟨rest⟩ topic from
          (handlesIn_cons topic entry rest).trans (if_neg htopic),
        unsubscribeAll_cons_of_ne htopic, hlater, List.filter_cons_of_pos (by simpa using htopic)]

/-! ## Counting -/

/-- All handles, topic by topic. -/
def all (subs : Subscriptions) : List Nat := subs.topics.flatMap (·.2)

/-- The number of subscriptions is the length of the list of all. -/
theorem total_eq_length (subs : Subscriptions) : subs.total = subs.all.length := by
  rw [all, List.length_flatMap]
  rfl

/-- A session is among all handles exactly if it is subscribed to some topic. -/
theorem WellFormed.mem_all {subs : Subscriptions} (h : subs.WellFormed) (n : Nat) :
    n ∈ subs.all ↔ ∃ topic, subs.contains topic n = true := by
  simp only [all, List.mem_flatMap, contains_iff_mem]
  constructor
  · rintro ⟨entry, hentry, hn⟩
    exact ⟨entry.1, (h.handles_of_mem hentry).symm ▸ hn⟩
  · rintro ⟨topic, hn⟩
    by_cases hkey : topic ∈ subs.topics.map (·.1)
    · obtain ⟨entry, hentry, rfl⟩ := List.mem_map.mp hkey
      exact ⟨entry, hentry, h.handles_of_mem hentry ▸ hn⟩
    · simp [handles_of_notMem hkey] at hn

/-- If no session is subscribed to two topics, no handle occurs twice. -/
theorem WellFormed.all_nodup {subs : Subscriptions} (h : subs.WellFormed)
    (hone : ∀ n topic other, subs.contains topic n = true → subs.contains other n = true →
      topic = other) : subs.all.Nodup := by
  rw [all, List.nodup_flatMap]
  refine ⟨h.entry_nodup, ?_⟩
  apply (List.pairwise_map.mp h.keys_nodup).imp_of_mem
  intro first second hfirst hsecond hne n hn hm
  refine hne (hone n first.1 second.1 ?_ ?_)
  · exact (contains_iff_mem ..).mpr ((h.handles_of_mem hfirst).symm ▸ hn)
  · exact (contains_iff_mem ..).mpr ((h.handles_of_mem hsecond).symm ▸ hm)

/-- A topic has an entry exactly if somebody is subscribed to it. -/
theorem WellFormed.mem_keys {subs : Subscriptions} (h : subs.WellFormed) (topic : Topic) :
    topic ∈ subs.topics.map (·.1) ↔ ∃ n, subs.contains topic n = true := by
  simp only [contains_iff_mem]
  constructor
  · intro hkey
    obtain ⟨entry, hentry, rfl⟩ := List.mem_map.mp hkey
    obtain ⟨n, hn⟩ := List.exists_mem_of_ne_nil _ (h.entry_nonempty entry hentry)
    exact ⟨n, (h.handles_of_mem hentry).symm ▸ hn⟩
  · rintro ⟨n, hn⟩
    by_contra hkey
    simp [handles_of_notMem hkey] at hn

/-- No subscriptions are well-formed. -/
theorem wellFormed_empty : WellFormed {} :=
  ⟨List.nodup_nil, by simp, by simp⟩

end LiveCounter.Subscriptions
