import LiveCounter.Proofs.Reactions

/-!
# Recipients that were noted before

A publication notes who is subscribed, and then goes through these recipients. Sessions may be closed
in between. Such a session is not subscribed any more, and the records agree about it. But what goes
through the recipients looks only at whether a session has ended, and not at whether it is still
subscribed, so it counts such a session as a disagreement.
-/

namespace LiveCounter.Hub

/-- Where the records agree, a session has ended if it is not subscribed to its topic. -/
theorem Consistent.hasEnded_eq {hub : Hub} (h : hub.Consistent) {n : Nat} {session : Session}
    (hs : hub.session? n = some session) :
    hub.hasEnded n = !hub.subscriptions.contains session.topic n := by
  have hsubscribed := h.subscribed session.topic n
  simp only [hs, Option.some.injEq, exists_eq_left', and_true] at hsubscribed
  rw [hasEnded, hs, Option.any_some]
  cases h.settled n session hs with
  | live stage =>
    rw [hsubscribed.mpr stage]
    simp [stage]
  | ended stage =>
    have hnot : hub.subscriptions.contains session.topic n = false := by
      simp [← Bool.not_eq_true, hsubscribed, stage]
    simp [hnot, stage]

/-- Recipients none of which was stale count as disagreements if they have ended since. -/
theorem report_distributeTo (recipients : Recipients) (hnodup : recipients.sessions.Nodup)
    (hstale : recipients.stale = []) (event : CounterEvent) (hub : Hub) :
    let outcome := hub.distributeTo recipients event
    outcome.1.inconsistent = recipients.sessions.filter hub.hasEnded ∧
      outcome.2.disagreements = hub.disagreements + (recipients.sessions.filter hub.hasEnded).length := by
  have hvisits := visits_deliverAll event hnodup
    { recipients := recipients.sessions.length, stale := recipients.stale } hub
  have hreport := congrArg Delivery.inconsistent hvisits.report
  have hcount := hvisits.disagreements
  rw [hstale] at hreport hcount
  simp only [distributeTo, hstale, List.foldl_nil, hasEnded_eq_passes]
  exact ⟨hreport, hcount.trans (by rw [List.countP_eq_length_filter])⟩

/-- A recipient that was noted before a run has ended if it is not subscribed after the run. -/
theorem hasEnded_run_of_mem {hub : Hub} (h : hub.Consistent) {operations : List Operation}
    (hregular : ∀ operation ∈ operations, operation.isRegular = true) {topic : Topic} {n : Nat}
    (hn : n ∈ hub.subscriptions.handles topic) :
    (hub.run operations).hasEnded n = !(hub.run operations).subscriptions.contains topic n := by
  obtain ⟨session, hs, -, htopic⟩ :=
    (h.subscribed topic n).mp ((Subscriptions.contains_iff_mem _ _ _).mpr hn)
  obtain ⟨connection, hconnection, rfl⟩ := connection_of_session? hs
  obtain ⟨moves, hlater⟩ := connections_run hconnection operations
  have hs' : (hub.run operations).session? n = some (connection.after moves).session := by
    rw [session?, hlater, Option.map_some]
  rw [(h.follows_run hregular).consistent.hasEnded_eq hs', connection.topic_after, htopic]

/-- A publication that has noted its recipients before a run reports and counts those that the run
has closed. None of them is subscribed any more, so no disagreement of the records is behind any of
what it counts; it counts nothing if all its recipients are still subscribed. -/
theorem recipients_closed_since_are_counted (policy : StreamPolicy) {history between : List Operation}
    (hhistory : ∀ operation ∈ history, operation.isRegular = true)
    (hbetween : ∀ operation ∈ between, operation.isRegular = true) (event : CounterEvent) :
    let noted := ((Hub.new policy).run history).countPublished.takeRecipients event.topic
    let later := noted.2.run between
    let outcome := later.distributeTo noted.1 event
    outcome.1.inconsistent =
        noted.1.sessions.filter (fun n => !later.subscriptions.contains event.topic n) ∧
      outcome.2.disagreements = outcome.1.inconsistent.length := by
  intro noted later outcome
  have hconsistent := (follows_run policy hhistory).consistent
  have hcounted := hconsistent.path (path_countPublished _)
  have hnoted : noted = _ := takeRecipients_of_attended (hconsistent.attended event.topic)
  have hlater : later.Consistent := by
    simp only [later, hnoted]
    exact (hcounted.follows_run hbetween).consistent
  have hnodup : noted.1.sessions.Nodup := by
    rw [hnoted]
    exact hconsistent.wellFormed.handles_nodup event.topic
  obtain ⟨hinconsistent, hcount⟩ :=
    report_distributeTo noted.1 hnodup (by rw [hnoted]) event later
  have hended : noted.1.sessions.filter later.hasEnded =
      noted.1.sessions.filter (fun n => !later.subscriptions.contains event.topic n) := by
    refine List.filter_congr fun n hn => ?_
    simp only [later, hnoted] at hn ⊢
    exact hasEnded_run_of_mem hcounted hbetween hn
  rw [hlater.disagreements_eq, Nat.zero_add] at hcount
  exact ⟨hinconsistent.trans hended, hcount.trans (congrArg List.length hinconsistent.symm)⟩

/-- One of two recipients is closed before the event is offered to them. -/
theorem recipients_closed_since_are_counted_after_close :
    let noted := ((Hub.new .default).run [.join (.random 0) ⟨0⟩, .join (.random 0) ⟨1⟩]).countPublished
      |>.takeRecipients (.random 0)
    let later := noted.2.run [.close 0 .explicit]
    let outcome := later.distributeTo noted.1 ⟨.random 0, 6⟩
    noted.1.sessions = [0, 1] ∧ later.subscriptions.handles (.random 0) = [1] ∧
      outcome.1.inconsistent = [0] ∧ outcome.2.disagreements = 1 := by
  intro noted later outcome
  obtain ⟨hinconsistent, hcount⟩ := recipients_closed_since_are_counted .default
    (show ∀ operation ∈ [.join (.random 0) ⟨0⟩, .join (.random 0) ⟨1⟩],
      Operation.isRegular operation = true by decide)
    (show ∀ operation ∈ [Operation.close 0 .explicit], operation.isRegular = true by decide)
    ⟨.random 0, 6⟩
  have hclosed : outcome.1.inconsistent = [0] := hinconsistent.trans (by decide +kernel)
  exact ⟨by decide +kernel, by decide +kernel, hclosed, hcount.trans (congrArg List.length hclosed)⟩

/-- What is counted as a disagreement is not always subscribed at that moment. -/
theorem recipients_counted_though_unsubscribed :
    ¬ ∀ between : List Operation, (∀ operation ∈ between, operation.isRegular = true) →
      let noted := ((Hub.new .default).run [.join (.random 0) ⟨0⟩]).countPublished.takeRecipients
        (.random 0)
      let later := noted.2.run between
      ∀ n ∈ (later.distributeTo noted.1 ⟨.random 0, 6⟩).1.inconsistent,
        later.subscriptions.contains (.random 0) n = true := by
  intro hsubscribed
  have hclosed := hsubscribed [.close 0 .explicit] (by decide) 0 (by decide +kernel)
  exact absurd hclosed (by decide +kernel)

end LiveCounter.Hub
