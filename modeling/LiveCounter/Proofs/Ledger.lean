import LiveCounter.Proofs.Publications

/-!
# Statistics and metrics

The hub counts the same happenings twice, for its statistics and for operators. Whatever it does,
with sessions in any state, what it counts goes on by a few kinds of entries, and each entry adds to
both sides alike. So the two accounts agree after every run.
-/

namespace LiveCounter

/-- What the statistics count, next to what the metrics count. -/
structure Ledger where
  counts : Metric → Nat
  gauge : Int
  opened : Nat
  closed : Nat
  forced : Nat
  published : Nat
  delivered : Nat
  dropped : Nat
  disagreements : Nat

/-- Whether there is no statistic for a series. -/
def Metric.isRemark : Metric → Bool
  | .hits | .sessionsRejected _ | .sessionDurations => true
  | _ => false

/-- What may be entered besides publications. -/
inductive LedgerEntry where
  | remark (metric : Metric) (h : metric.isRemark = true)
  | opened
  | closed (reason : CloseReason)
  | forced (reason : CloseReason)
  | disagreement

namespace Ledger

/-- The ledger with one more of a metric. -/
def count (ledger : Ledger) (metric : Metric) : Ledger :=
  { ledger with counts := fun other => ledger.counts other + if metric = other then 1 else 0 }

/-- The ledger after an entry. -/
def post (ledger : Ledger) : LedgerEntry → Ledger
  | .remark metric _ => ledger.count metric
  | .opened =>
    { ledger.count .sessionsOpened with opened := ledger.opened + 1, gauge := ledger.gauge + 1 }
  | .closed reason =>
    { ledger.count (.sessionsClosed reason) with
      closed := ledger.closed + 1, gauge := ledger.gauge - 1 }
  | .forced reason => { ledger.count (.forcedClosures reason) with forced := ledger.forced + 1 }
  | .disagreement => { ledger.count .disagreements with disagreements := ledger.disagreements + 1 }

/-- The ledger after a publication that was delivered and dropped so many times and found so much out
of order. -/
def publish (ledger : Ledger) (delivered dropped missing : Nat) : Ledger :=
  { ledger with
    counts := fun metric => ledger.counts metric + metric.tally 1 dropped missing
    published := ledger.published + 1
    delivered := ledger.delivered + delivered
    dropped := ledger.dropped + dropped
    disagreements := ledger.disagreements + missing }

/-- What the series of all reasons come to together. -/
def overReasons (ledger : Ledger) (series : CloseReason → Metric) : Nat :=
  (CloseReason.all.map fun reason => ledger.counts (series reason)).foldr (· + ·) 0

/-- The two sides agree. -/
structure Balanced (ledger : Ledger) : Prop where
  opened : ledger.counts .sessionsOpened = ledger.opened
  closed : ledger.overReasons .sessionsClosed = ledger.closed
  forced : ledger.overReasons .forcedClosures = ledger.forced
  published : ledger.counts .eventsPublished = ledger.published
  dropped : ledger.counts .broadcastDrops = ledger.dropped
  disagreements : ledger.counts .disagreements = ledger.disagreements
  gauge : ledger.gauge + ledger.closed = ledger.opened

/-- What is counted is one more. -/
theorem counts_count_self (ledger : Ledger) (metric : Metric) :
    (ledger.count metric).counts metric = ledger.counts metric + 1 := by
  simp only [count, if_true]

/-- Other series stay as they are. -/
theorem counts_count_other (ledger : Ledger) {metric other : Metric} (h : metric ≠ other) :
    (ledger.count metric).counts other = ledger.counts other := by
  simp only [count, if_neg h, Nat.add_zero]

/-- One of the series of all reasons has grown by one. -/
theorem overReasons_count_self (ledger : Ledger) {series : CloseReason → Metric}
    (hseries : Function.Injective series) (reason : CloseReason) :
    (ledger.count (series reason)).overReasons series = ledger.overReasons series + 1 := by
  have hcounts (other : CloseReason) : (ledger.count (series reason)).counts (series other) =
      ledger.counts (series other) + if reason = other then 1 else 0 := by
    simp only [count, hseries.eq_iff]
  simp only [overReasons, hcounts, CloseReason.all, List.map_cons, List.map_nil, List.foldr_cons,
    List.foldr_nil]
  cases reason <;> simp <;> omega

/-- A series that does not belong to a reason leaves the sums over reasons alone. -/
theorem overReasons_count_other (ledger : Ledger) {series : CloseReason → Metric} {metric : Metric}
    (h : ∀ reason, metric ≠ series reason) :
    (ledger.count metric).overReasons series = ledger.overReasons series := by
  simp [overReasons, count, h]

/-- So does a publication. -/
theorem overReasons_publish (ledger : Ledger) (delivered dropped missing : Nat)
    {series : CloseReason → Metric} (h : ∀ reason, (series reason).tally 1 dropped missing = 0) :
    (ledger.publish delivered dropped missing).overReasons series = ledger.overReasons series := by
  simp [overReasons, publish, h]

/-- Every entry adds to both sides alike. -/
theorem Balanced.post {ledger : Ledger} (h : ledger.Balanced) (entry : LedgerEntry) :
    (ledger.post entry).Balanced := by
  obtain ⟨hopened, hclosed, hforced, hpublished, hdropped, hdisagreements, hgauge⟩ := h
  have hclosures : Function.Injective Metric.sessionsClosed := fun _ _ => Metric.sessionsClosed.inj
  have hforcings : Function.Injective Metric.forcedClosures := fun _ _ => Metric.forcedClosures.inj
  cases entry with
  | remark metric hremark =>
    have hother {other : Metric} (h : other.isRemark = false) : metric ≠ other := by
      rintro rfl
      exact Bool.false_ne_true (h.symm.trans hremark)
    refine ⟨?_, ?_, ?_, ?_, ?_, ?_, hgauge⟩
    · exact (counts_count_other ledger (hother rfl)).trans hopened
    · exact (overReasons_count_other ledger fun _ => hother rfl).trans hclosed
    · exact (overReasons_count_other ledger fun _ => hother rfl).trans hforced
    · exact (counts_count_other ledger (hother rfl)).trans hpublished
    · exact (counts_count_other ledger (hother rfl)).trans hdropped
    · exact (counts_count_other ledger (hother rfl)).trans hdisagreements
  | opened =>
    refine ⟨?_, ?_, ?_, ?_, ?_, ?_, ?_⟩
    · exact (counts_count_self ledger _).trans (congrArg (· + 1) hopened)
    · exact (overReasons_count_other ledger (by simp)).trans hclosed
    · exact (overReasons_count_other ledger (by simp)).trans hforced
    · exact (counts_count_other ledger (by simp)).trans hpublished
    · exact (counts_count_other ledger (by simp)).trans hdropped
    · exact (counts_count_other ledger (by simp)).trans hdisagreements
    · simp only [Ledger.post, count]
      omega
  | closed reason =>
    refine ⟨?_, ?_, ?_, ?_, ?_, ?_, ?_⟩
    · exact (counts_count_other ledger (by simp)).trans hopened
    · exact (overReasons_count_self ledger hclosures reason).trans (congrArg (· + 1) hclosed)
    · exact (overReasons_count_other ledger (by simp)).trans hforced
    · exact (counts_count_other ledger (by simp)).trans hpublished
    · exact (counts_count_other ledger (by simp)).trans hdropped
    · exact (counts_count_other ledger (by simp)).trans hdisagreements
    · simp only [Ledger.post, count]
      omega
  | forced reason =>
    refine ⟨?_, ?_, ?_, ?_, ?_, ?_, hgauge⟩
    · exact (counts_count_other ledger (by simp)).trans hopened
    · exact (overReasons_count_other ledger (by simp)).trans hclosed
    · exact (overReasons_count_self ledger hforcings reason).trans (congrArg (· + 1) hforced)
    · exact (counts_count_other ledger (by simp)).trans hpublished
    · exact (counts_count_other ledger (by simp)).trans hdropped
    · exact (counts_count_other ledger (by simp)).trans hdisagreements
  | disagreement =>
    refine ⟨?_, ?_, ?_, ?_, ?_, ?_, hgauge⟩
    · exact (counts_count_other ledger (by simp)).trans hopened
    · exact (overReasons_count_other ledger (by simp)).trans hclosed
    · exact (overReasons_count_other ledger (by simp)).trans hforced
    · exact (counts_count_other ledger (by simp)).trans hpublished
    · exact (counts_count_other ledger (by simp)).trans hdropped
    · exact (counts_count_self ledger _).trans (congrArg (· + 1) hdisagreements)

/-- A publication is entered on both sides. -/
theorem Balanced.publish {ledger : Ledger} (h : ledger.Balanced) (delivered dropped missing : Nat) :
    (ledger.publish delivered dropped missing).Balanced where
  opened := h.opened
  closed := (overReasons_publish ledger _ _ _ fun _ => rfl).trans h.closed
  forced := (overReasons_publish ledger _ _ _ fun _ => rfl).trans h.forced
  published := congrArg (· + 1) h.published
  dropped := congrArg (· + dropped) h.dropped
  disagreements := congrArg (· + missing) h.disagreements
  gauge := h.gauge

end Ledger

namespace Hub

/-- What a hub has counted. -/
def ledger (hub : Hub) : Ledger where
  counts := hub.metrics.count
  gauge := hub.metrics.active.getD 0
  opened := hub.opened
  closed := hub.closed
  forced := hub.forced
  published := hub.published
  delivered := hub.delivered
  dropped := hub.dropped
  disagreements := hub.disagreements

/-- What a hub counts goes into its ledger. -/
theorem ledger_count (hub : Hub) (metric : Metric) :
    (hub.count metric).ledger = hub.ledger.count metric := by
  have hcounts : (hub.count metric).metrics.count = (hub.ledger.count metric).counts :=
    funext fun other => Metrics.count_increment hub.metrics metric other
  simp only [ledger, hcounts]
  rfl

/-! ## What is entered -/

/-- What the later hub has counted goes on from what the first one has by entries other than
publications. -/
def Posts (hub later : Hub) : Prop :=
  ∃ entries : List LedgerEntry, later.ledger = entries.foldl Ledger.post hub.ledger

/-- What counts nothing makes no entry. -/
theorem posts_of_eq {hub later : Hub} (h : later.ledger = hub.ledger) : hub.Posts later := ⟨[], h⟩

/-- What makes one entry makes entries. -/
theorem posts_of_entry {hub later : Hub} (entry : LedgerEntry)
    (h : later.ledger = hub.ledger.post entry) : hub.Posts later := ⟨[entry], h⟩

/-- Entries in turn are entries. -/
theorem Posts.trans {first second third : Hub} (h : first.Posts second) (h' : second.Posts third) :
    first.Posts third := by
  obtain ⟨entries, h⟩ := h
  obtain ⟨more, h'⟩ := h'
  exact ⟨entries ++ more, by rw [h', h, List.foldl_append]⟩

/-- What is kept by every entry is kept altogether. -/
theorem Posts.induction {P : Ledger → Prop} {hub later : Hub} (h : hub.Posts later)
    (hpost : ∀ ledger entry, P ledger → P (ledger.post entry)) (hhub : P hub.ledger) :
    P later.ledger := by
  obtain ⟨entries, h⟩ := h
  rw [h]
  exact List.foldlRecOn entries Ledger.post hhub fun ledger hledger entry _ =>
    hpost ledger entry hledger

/-- A remark is no entry for the statistics. -/
theorem posts_count (hub : Hub) {metric : Metric} (h : metric.isRemark = true) :
    hub.Posts (hub.count metric) :=
  posts_of_entry (.remark metric h) (hub.ledger_count metric)

/-- What makes entries for one item does so for many. -/
theorem posts_foldl {A : Type} {f : Hub → A → Hub} (h : ∀ (hub : Hub) item, hub.Posts (f hub item))
    (items : List A) (hub : Hub) : hub.Posts (items.foldl f hub) := by
  induction items generalizing hub with
  | nil => exact posts_of_eq rfl
  | cons item rest ih => exact (h hub item).trans (ih _)

/-! ## Closing -/

/-- A disagreement is entered. -/
theorem posts_noteDisagreement (hub : Hub) : hub.Posts hub.noteDisagreement :=
  posts_of_entry .disagreement (ledger_count { hub with disagreements := hub.disagreements + 1 } _)

/-- Leaving a topic makes an entry if the topic did not have the session. -/
theorem posts_leaveTopic (hub : Hub) (n : Nat) (session : Session) (previous : SessionStage) :
    hub.Posts (hub.leaveTopic n session previous) := by
  simp only [leaveTopic]
  split
  · exact posts_noteDisagreement { hub with
      subscriptions := (hub.subscriptions.unsubscribe session.topic n).2 }
  · exact posts_of_eq rfl

/-- The end of a session is entered. -/
theorem posts_countClosed (hub : Hub) (n : Nat) (previous : SessionStage) (reason : CloseReason) :
    hub.Posts (hub.countClosed n previous reason) := by
  have hclosed : hub.Posts (if previous = .open then
        { hub with closed := hub.closed + 1
                   metrics := (hub.metrics.increment (.sessionsClosed reason)).moveActive (-1)
          }.count .sessionDurations
      else hub) := by
    split
    · refine .trans (posts_of_entry (.closed reason) ?_) (posts_count _ rfl)
      have hcount := ledger_count hub (.sessionsClosed reason)
      simp only [Ledger.post, ← hcount]
      rfl
    · exact posts_of_eq rfl
  have hforced (later : Hub) : later.Posts (if reason.isForced then
        { later with forced := later.forced + 1 }.count (.forcedClosures reason)
      else later) := by
    split
    · exact posts_of_entry (.forced reason)
        (ledger_count { later with forced := later.forced + 1 } _)
    · exact posts_of_eq rfl
  refine (hclosed.trans (hforced _)).trans (posts_of_eq ?_)
  simp only [countClosed]
  split <;> rfl

/-- A claim makes no entry. -/
theorem ledger_claim {hub later : Hub} {n : Nat} {reason : CloseReason} {previous : SessionStage}
    (h : hub.claim? n reason = some (previous, later)) : later.ledger = hub.ledger := by
  simp only [claim?, bind, Option.bind_eq_some_iff, Option.some.injEq, Prod.mk.injEq] at h
  obtain ⟨_, _, _, _, _, rfl⟩ := h
  rfl

/-- Whatever the session is like, to tear it down is to make entries. -/
theorem posts_retire (hub : Hub) (n : Nat) (reason : CloseReason) (fault : Option StreamFault) :
    hub.Posts (hub.retire n reason fault).2 := by
  unfold retire
  split
  · next session previous claimed _ hclaim =>
    -- Whether an error is kept or not, the rest of the teardown is the same.
    have hrest (kept : Hub) (hkept : kept.ledger = hub.ledger) :
        hub.Posts (((((kept.leaveTopic n session previous).releaseOutbox n).leaveTable n).terminate n
          ).countClosed n previous reason) := by
      have hleft := (posts_of_eq hkept).trans (posts_leaveTopic kept n session previous)
      refine .trans (hleft.trans (posts_of_eq ?_)) (posts_countClosed _ n previous reason)
      rw [leaveTable_eq]
      rfl
    have hclaimed := ledger_claim hclaim
    cases fault with
    | none => exact hrest claimed hclaimed
    | some fault => exact hrest (claimed.keepFault n session fault) hclaimed
  · exact posts_of_eq rfl

/-- A close makes entries. -/
theorem posts_close (hub : Hub) (n : Nat) (reason : CloseReason) :
    hub.Posts (hub.close n reason).2 :=
  posts_retire hub n reason none

/-- So does a close for an error. -/
theorem posts_closeFor (hub : Hub) (n : Nat) (fault : StreamFault) :
    hub.Posts (hub.closeFor n fault).2 :=
  posts_retire hub n (.ofError fault) (some fault)

/-- So does a close of a session that is looked for in the table. -/
theorem posts_closeLive (hub : Hub) (n : Nat) (reason : CloseReason) :
    hub.Posts (hub.closeLive n reason).2 := by
  unfold closeLive
  split
  · exact posts_close hub n reason
  · exact posts_of_eq rfl

/-- So does clearing a topic. -/
theorem posts_clearTopic (hub : Hub) (topic : Topic) : hub.Posts (hub.clearTopic topic).2 := by
  have hclose := posts_foldl (fun hub n => posts_closeLive hub n .topicClosed)
    (hub.subscriptions.handles topic) hub
  simp only [clearTopic, closeEach_snd]
  split
  · exact hclose.trans (posts_of_eq rfl)
  · exact hclose

/-- So does a sweep. -/
theorem posts_sweep (hub : Hub) : hub.Posts hub.sweep.2 := by
  simp only [sweep, closeEach_snd]
  exact .trans (posts_of_eq rfl) (posts_foldl (fun hub n => posts_close hub n .shutdown) hub.table _)

/-! ## Admission -/

/-- So do the last steps of an admission. -/
theorem posts_finishAdmission (hub : Hub) (n : Nat) (topic : Topic) (id : SessionId) :
    hub.Posts (hub.finishAdmission n topic id).2 := by
  unfold finishAdmission
  split
  · exact posts_of_eq rfl
  · next later hopened =>
    have hsame : later.ledger = hub.ledger := by
      simp only [opened?, bind, Option.bind_eq_some_iff, Option.some.injEq] at hopened
      obtain ⟨_, _, _, _, rfl⟩ := hopened
      rfl
    have hcounted : hub.Posts later.countOpened := by
      refine .trans (posts_of_eq hsame) (posts_of_entry .opened ?_)
      simp only [Ledger.post, ← ledger_count]
      rfl
    simp only
    split
    · exact hcounted.trans (posts_close _ n .shutdown)
    · exact hcounted.trans (posts_of_eq rfl)

/-- So does a call for a stream. -/
theorem posts_join (hub : Hub) (topic : Topic) (id : SessionId) :
    hub.Posts (hub.join topic id).2 := by
  unfold join
  split
  · exact posts_count hub rfl
  · cases hslot : hub.claimSlot? with
    | none => exact (posts_count hub rfl).trans (posts_of_eq rfl)
    | some later =>
      have hsame : later.ledger = hub.ledger := by
        simp only [claimSlot?] at hslot
        split at hslot
        · rw [← Option.some.inj hslot]
          rfl
        · cases hslot
      by_cases hfits : later.policy.queueCapacity ≤ Outbox.maxCapacity
      · simp only [create_eq, if_pos hfits]
        exact .trans (posts_of_eq hsame) (posts_finishAdmission _ _ topic id)
      · simp only [create_eq, if_neg hfits]
        exact posts_of_eq hsame

/-- So does the opening of a stream. -/
theorem posts_connect (hub : Hub) (topic : Topic) (id : SessionId) (client : Client)
    (initial : Option Int64) : hub.Posts (hub.connect topic id client initial).2 := by
  have hjoin := posts_join hub topic id
  unfold connect
  generalize hub.join topic id = result at hjoin
  obtain ⟨answer, joined⟩ := result
  cases answer with
  | error fault => exact hjoin
  | ok n =>
    refine hjoin.trans (posts_of_eq ?_)
    cases initial with
    | none => rfl
    | some value =>
      have hoffer : (joined.offer n ⟨topic, value⟩).2.ledger = joined.ledger := by
        rw [offer_snd]
        rfl
      simp only [offerInitial]
      split
      · exact hoffer
      · exact hoffer

/-! ## Tasks -/

/-- So does a poll of a watch. -/
theorem posts_pollWatch (hub : Hub) (n : Nat) : hub.Posts (hub.pollWatch n) := by
  unfold pollWatch
  split
  · exact posts_of_eq rfl
  · simp only
    split
    · exact posts_of_eq rfl
    · exact posts_of_eq rfl
    · exact .trans (posts_of_eq rfl) (posts_closeFor _ n _)

/-- So does the end of a writer. -/
theorem posts_endWriter (hub : Hub) (n : Nat) (exit : WriterExit) :
    hub.Posts (hub.endWriter n exit) := by
  cases exit with
  | orderly reason => exact .trans (posts_of_eq rfl) (posts_close _ n reason)
  | failed fault =>
    have hfault := (posts_of_eq rfl).trans (posts_closeFor
      (hub.log .warn "write failed, closing session" [("error", .str fault.message)]) n
        (.transport fault))
    exact hfault.trans (.trans (posts_of_eq rfl) (posts_close _ n .transportError))
  | panicked => exact posts_close hub n .aborted

/-- So does a poll of a writer. -/
theorem posts_pollWriter (hub : Hub) (n : Nat) : hub.Posts (hub.pollWriter n) := by
  unfold pollWriter
  split
  · exact posts_of_eq rfl
  · split
    · exact posts_of_eq rfl
    · simp only
      split
      · exact posts_of_eq rfl
      · exact .trans (posts_of_eq rfl) (posts_endWriter _ n _)

/-! ## Operations -/

/-- A publication is entered as it is reported. -/
theorem Published.ledger_eq {hub later : Hub} {event : CounterEvent} {report : Delivery}
    (h : hub.Published event report later) : later.ledger = hub.ledger.publish report.delivered
      report.dropped (report.stale.length + report.inconsistent.length) := by
  have hcounts : later.metrics.count = fun metric => hub.metrics.count metric +
      metric.tally 1 report.dropped (report.stale.length + report.inconsistent.length) :=
    funext h.counts
  simp only [ledger, Ledger.publish, hcounts, h.gauge]
  rw [h.totals]

/-- A publication is entered, and then what comes of the closings that it leads to. -/
theorem posts_publish {hub : Hub} (hwf : hub.subscriptions.WellFormed) (event : CounterEvent) :
    ∃ published : Hub, published.ledger = hub.ledger.publish (hub.publish event).1.delivered
        (hub.publish event).1.dropped ((hub.publish event).1.stale.length +
          (hub.publish event).1.inconsistent.length) ∧
      published.Posts (hub.publish event).2 :=
  ⟨(hub.distribute event).2, (published_distribute hwf event).ledger_eq,
    (posts_foldl (fun hub n => posts_closeFor hub n _) _ _).trans
      (posts_foldl (fun hub n => posts_closeFor hub n _) _ _)⟩

/-- An operation other than a publication only makes entries. -/
theorem posts_step (hub : Hub) {operation : Operation} (h : ∀ event, operation ≠ .publish event) :
    hub.Posts (hub.step operation) := by
  cases operation with
  | publish event => exact absurd rfl (h event)
  | join topic id => exact posts_join hub topic id
  | connect topic id transport initial => exact posts_connect hub topic id _ initial
  | close n reason => exact posts_close hub n reason
  | closeFor n fault => exact posts_closeFor hub n fault
  | closeLive n reason => exact posts_closeLive hub n reason
  | clearTopic topic => exact posts_clearTopic hub topic
  | sweep => exact .trans (posts_of_eq rfl) (posts_sweep hub.beginStop)
  | pollWatch n => exact posts_pollWatch hub n
  | pollWriter n => exact posts_pollWriter hub n
  | countHit => exact posts_count hub rfl
  | offer n event =>
    rw [step, offer_snd]
    exact posts_of_eq rfl
  | receive n limit =>
    refine posts_of_eq ?_
    simp only [step, receive]
    split <;> rfl
  | claim n reason =>
    rw [step, claimed_eq]
    exact posts_of_eq rfl
  | subscribe n topic =>
    refine posts_of_eq ?_
    simp only [step, enroll]
    split <;> rfl
  | create topic capacity id =>
    rw [step_create]
    split <;> exact posts_of_eq rfl
  | take | refresh | noteWrite | loseClient | letGo | pass | report | release | unsubscribe =>
    exact posts_of_eq rfl

/-- Every operation keeps the two sides in balance. -/
theorem balanced_step {hub : Hub} (hwf : hub.subscriptions.WellFormed) (h : hub.ledger.Balanced)
    (operation : Operation) : (hub.step operation).ledger.Balanced := by
  by_cases hpublish : ∃ event, operation = .publish event
  · obtain ⟨event, rfl⟩ := hpublish
    obtain ⟨published, hledger, hposts⟩ := posts_publish hwf event
    exact hposts.induction (fun _ entry => (·.post entry)) (hledger ▸ h.publish _ _ _)
  · exact (hub.posts_step fun event heq => hpublish ⟨event, heq⟩).induction
      (fun _ entry => (·.post entry)) h

/-- Whatever is done, also around the hub, what is counted for operators is what the statistics
say. -/
theorem balanced_run (policy : StreamPolicy) (operations : List Operation) :
    ((Hub.new policy).run operations).ledger.Balanced := by
  induction operations using List.reverseRecOn with
  | nil => exact ⟨rfl, rfl, rfl, rfl, rfl, rfl, rfl⟩
  | append_singleton operations operation ih =>
    rw [run_append]
    exact balanced_step (enrolled_run policy operations).wellFormed ih operation

end Hub

end LiveCounter
