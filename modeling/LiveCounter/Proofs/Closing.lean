import LiveCounter.Hub.Stopping
import Mathlib.Data.List.Basic

/-!
# What tearing a session down does

Tearing down is a chain of small steps, but its effect can be said at once: a session that nobody has
claimed ends with its cause written down, and leaves the table, the slots and its topic; a session
that is claimed stays as it is, and so does the hub.
-/

namespace LiveCounter

/-- A metric is looked up entry by entry. -/
theorem Metrics.count_cons (entry : Metric × Nat) (rest : List (Metric × Nat))
    (active : Option Int) (metric : Metric) :
    (Metrics.mk (entry :: rest) active).count metric =
      if entry.1 = metric then entry.2 else (Metrics.mk rest active).count metric := by
  by_cases h : entry.1 = metric <;> simp [Metrics.count, h]

/-- Counting a series adds one to it and leaves the others alone. -/
theorem Metrics.count_increment (metrics : Metrics) (metric other : Metric) :
    (metrics.increment metric).count other =
      metrics.count other + if metric = other then 1 else 0 := by
  obtain ⟨counts, active⟩ := metrics
  induction counts with
  | nil => by_cases h : metric = other <;> simp [Metrics.increment, Metrics.bump, Metrics.count, h]
  | cons entry rest ih =>
    simp only [Metrics.increment] at ih
    simp only [Metrics.increment, Metrics.bump]
    by_cases hentry : entry.1 = metric
    · rw [if_pos hentry, Metrics.count_cons, Metrics.count_cons]
      by_cases hother : metric = other
      · simp [hentry, hother]
      · simp [hentry, hother]
    · rw [if_neg hentry, Metrics.count_cons, Metrics.count_cons, ih]
      by_cases hother : entry.1 = other
      · have hne : metric ≠ other := fun h => hentry (hother.trans h.symm)
        simp [hother, hne]
      · simp [hother]

/-- One record of metrics comes after another if no series has fallen. -/
def Metrics.Le (earlier later : Metrics) : Prop :=
  ∀ metric, earlier.count metric ≤ later.count metric

/-- Nothing is taken back at once. -/
theorem Metrics.Le.refl (metrics : Metrics) : metrics.Le metrics :=
  fun _ => Nat.le_refl _

/-- What takes nothing back twice takes nothing back. -/
theorem Metrics.Le.trans {first second third : Metrics} (h : first.Le second)
    (h' : second.Le third) : first.Le third :=
  fun metric => Nat.le_trans (h metric) (h' metric)

/-- Counting takes nothing back. -/
theorem Metrics.le_increment (metrics : Metrics) (metric : Metric) :
    metrics.Le (metrics.increment metric) := fun other => by
  rw [Metrics.count_increment]
  exact Nat.le_add_right _ _

namespace Session

/-- Whether somebody has claimed the closing of a session. -/
def isClaimed (session : Session) : Bool :=
  match session.stage with
  | .opening | .open => false
  | .draining | .terminated => true

/-- What a session becomes when its closing is claimed and nothing else is done. -/
def claimedFor (session : Session) (reason : CloseReason) : Session :=
  { session with
    stage := .draining, reason := session.reason <|> some reason, cancelled := true }

/-- What tearing a session down makes of it. -/
def retired (session : Session) (reason : CloseReason) (fault : Option StreamFault) : Session :=
  if session.isClaimed then session
  else
    { session with
      stage := .terminated
      reason := session.reason <|> some reason
      failure := session.failure <|> fault
      cancelled := true
      outbox := session.outbox.release.2 }

/-- Nobody claims a session a second time. -/
theorem claim?_of_isClaimed {session : Session} (h : session.isClaimed = true)
    (reason : CloseReason) : session.claim? reason = none := by
  cases hstage : session.stage <;> simp [isClaimed, hstage] at h <;> simp [claim?, hstage]

/-- Whoever comes first claims the session, and learns its stage. -/
theorem claim?_of_unclaimed {session : Session} (h : session.isClaimed = false)
    (reason : CloseReason) :
    session.claim? reason = some (session.stage, session.claimedFor reason) := by
  cases hstage : session.stage <;> simp [isClaimed, hstage] at h <;>
    simp [claim?, claimedFor, hstage]

/-- Nobody has claimed an open session. -/
theorem isClaimed_of_open {session : Session} (h : session.stage = .open) :
    session.isClaimed = false := by
  simp [isClaimed, h]

/-- A session that has been claimed stays as it is. -/
theorem retired_of_isClaimed {session : Session} (h : session.isClaimed = true)
    (reason : CloseReason) (fault : Option StreamFault) :
    session.retired reason fault = session := by
  simp [retired, h]

/-- A session that has been ended is claimed. -/
@[simp] theorem isClaimed_retired (session : Session) (reason : CloseReason)
    (fault : Option StreamFault) : (session.retired reason fault).isClaimed = true := by
  by_cases h : session.isClaimed = true
  · rw [retired_of_isClaimed h, h]
  · rw [retired, if_neg h]
    rfl

end Session

namespace Hub

/-- Two changes of a list are the same if they agree on the item that is changed. -/
theorem modify_congr {A : Type} {items : List A} {n : Nat} {f g : A → A}
    (h : ∀ item, items[n]? = some item → f item = g item) :
    items.modify n f = items.modify n g := by
  apply List.ext_getElem?
  intro i
  rw [List.getElem?_modify, List.getElem?_modify]
  by_cases hi : n = i
  · subst hi
    cases hitem : items[n]? with
    | none => rfl
    | some item => simp [h item hitem]
  · simp [hi]

/-- What changes one item depends on what is done to that item only. -/
theorem modify_congr_at {A : Type} {items : List A} {n : Nat} {item : A} {f g : A → A}
    (hitem : items[n]? = some item) (h : f item = g item) : items.modify n f = items.modify n g := by
  apply modify_congr
  intro other hother
  rwa [Option.some.inj (hother.symm.trans hitem)]

/-- A session belongs to a connection. -/
theorem connection_of_session? {hub : Hub} {n : Nat} {session : Session}
    (h : hub.session? n = some session) :
    ∃ connection, hub.connections[n]? = some connection ∧ connection.session = session := by
  simpa [session?, Option.map_eq_some_iff] using h

/-- Nothing happens to a session that is claimed already. -/
theorem retire_of_isClaimed {hub : Hub} {n : Nat}
    (h : ∀ session, hub.session? n = some session → session.isClaimed = true)
    (reason : CloseReason) (fault : Option StreamFault) :
    hub.retire n reason fault = (.alreadyClosed, hub) := by
  cases hs : hub.session? n with
  | none => simp [retire, claim?, hs]
  | some session =>
    have hclaim := Session.claim?_of_isClaimed (h session hs) reason
    simp [retire, claim?, hs, hclaim]

/-! ## Reporting

What is reported and counted for operators says nothing about sessions, so hubs are compared up to
it. -/

/-- The second hub differs from the first only in what has been reported and counted. -/
def Reports (hub later : Hub) : Prop :=
  ∃ metrics journal, hub.metrics.Le metrics ∧ later = { hub with metrics, journal }

/-- No report is a report. -/
theorem Reports.refl (hub : Hub) : hub.Reports hub :=
  ⟨hub.metrics, hub.journal, .refl _, rfl⟩

/-- Reports in turn are reports. -/
theorem Reports.trans {first second third : Hub} (h : first.Reports second)
    (h' : second.Reports third) : first.Reports third := by
  obtain ⟨metrics, journal, hle, rfl⟩ := h
  obtain ⟨metrics', journal', hle', rfl⟩ := h'
  exact ⟨metrics', journal', hle.trans hle', rfl⟩

/-- Reports change no connection. -/
theorem Reports.connections {hub later : Hub} (h : hub.Reports later) :
    later.connections = hub.connections := by
  obtain ⟨_, _, _, rfl⟩ := h
  rfl

/-- What is logged is a report. -/
theorem reports_log (hub : Hub) (level : LogLevel) (message : String)
    (fields : List (String × Json)) : hub.Reports (hub.log level message fields) :=
  ⟨hub.metrics, _, .refl _, rfl⟩

/-- What is counted is a report. -/
theorem reports_count (hub : Hub) (metric : Metric) : hub.Reports (hub.count metric) :=
  ⟨_, hub.journal, Metrics.le_increment _ metric, rfl⟩

/-- Moving the gauge of open sessions is a report. -/
theorem reports_moveActive (hub : Hub) (change : Int) :
    hub.Reports { hub with metrics := hub.metrics.moveActive change } :=
  ⟨hub.metrics.moveActive change, hub.journal, fun _ => Nat.le_refl _, rfl⟩

/-- It makes no difference whether a connection changes before a report or after it. -/
theorem Reports.modify {hub later : Hub} (h : hub.Reports later) (n : Nat)
    (f : Connection → Connection) : (hub.modify n f).Reports (later.modify n f) := by
  obtain ⟨metrics, journal, hle, rfl⟩ := h
  exact ⟨metrics, journal, hle, rfl⟩

/-! ## The steps of tearing down -/

/-- The hub with a session off its topic; that an open one was not there is noted. -/
def offTopic (hub : Hub) (n : Nat) (topic : Topic) (previous : SessionStage) : Hub :=
  { hub with
    subscriptions := (hub.subscriptions.unsubscribe topic n).2
    disagreements :=
      if previous = .open ∧ ¬ hub.subscriptions.contains topic n = true
      then hub.disagreements + 1 else hub.disagreements }

/-- The hub with a session off the table and its slot given back. -/
def offTable (hub : Hub) (n : Nat) : Hub :=
  { hub with
    table := hub.table.erase n
    active := if n ∈ hub.table then hub.active - 1 else hub.active }

/-- The hub with a session added to the total of those that have closed after they were open. -/
def tallyClosed (hub : Hub) (previous : SessionStage) : Hub :=
  { hub with closed := if previous = .open then hub.closed + 1 else hub.closed }

/-- The hub with a session added to the total of those that were forced to close. -/
def tallyForced (hub : Hub) (reason : CloseReason) : Hub :=
  { hub with forced := if reason.isForced then hub.forced + 1 else hub.forced }

/-- Nor whether a session leaves its topic before or after. -/
theorem Reports.offTopic {hub later : Hub} (h : hub.Reports later) (n : Nat) (topic : Topic)
    (previous : SessionStage) :
    (hub.offTopic n topic previous).Reports (later.offTopic n topic previous) := by
  obtain ⟨metrics, journal, hle, rfl⟩ := h
  exact ⟨metrics, journal, hle, rfl⟩

/-- Nor whether it leaves the table before or after. -/
theorem Reports.offTable {hub later : Hub} (h : hub.Reports later) (n : Nat) :
    (hub.offTable n).Reports (later.offTable n) := by
  obtain ⟨metrics, journal, hle, rfl⟩ := h
  exact ⟨metrics, journal, hle, rfl⟩

/-- Nor whether its end is counted before or after. -/
theorem Reports.tallyClosed {hub later : Hub} (h : hub.Reports later) (previous : SessionStage) :
    (hub.tallyClosed previous).Reports (later.tallyClosed previous) := by
  obtain ⟨metrics, journal, hle, rfl⟩ := h
  exact ⟨metrics, journal, hle, rfl⟩

/-- Nor whether a forced end is counted before or after. -/
theorem Reports.tallyForced {hub later : Hub} (h : hub.Reports later) (reason : CloseReason) :
    (hub.tallyForced reason).Reports (later.tallyForced reason) := by
  obtain ⟨metrics, journal, hle, rfl⟩ := h
  exact ⟨metrics, journal, hle, rfl⟩

/-- Apart from reports, a session that leaves its topic does just that. -/
theorem reports_leaveTopic (hub : Hub) (n : Nat) (session : Session) (previous : SessionStage) :
    (hub.offTopic n session.topic previous).Reports (hub.leaveTopic n session previous) := by
  by_cases h : previous = .open ∧ ¬ hub.subscriptions.contains session.topic n = true
  · rw [show hub.leaveTopic n session previous = _ from if_pos h]
    refine Reports.trans ?_ (reports_log _ _ _ _)
    refine Reports.trans ?_ (reports_count _ .disagreements)
    simp only [Hub.offTopic, if_pos h]
    exact Reports.refl _
  · rw [show hub.leaveTopic n session previous = _ from if_neg h]
    simp only [Hub.offTopic, if_neg h]
    exact Reports.refl _

/-- Leaving the table gives the slot back. -/
theorem leaveTable_eq (hub : Hub) (n : Nat) : hub.leaveTable n = hub.offTable n := by
  by_cases h : n ∈ hub.table
  · simp [leaveTable, offTable, h]
  · simp [leaveTable, offTable, h, List.erase_of_not_mem h]

/-- The last words about a session are a report. -/
theorem reports_farewell (hub : Hub) (n : Nat) (reason : CloseReason) :
    hub.Reports (match hub.session? n with
      | none => hub
      | some session =>
        hub.log .info "session terminated" (topicFields session.id session.topic ++
          [("reason", .str reason.label), ("dropped", .nat session.dropped)])) := by
  cases hub.session? n with
  | none => exact Reports.refl _
  | some session => exact reports_log _ _ _ _

/-- Apart from reports, the end of a session is counted once or twice. -/
theorem reports_countClosed (hub : Hub) (n : Nat) (previous : SessionStage)
    (reason : CloseReason) :
    ((hub.tallyClosed previous).tallyForced reason).Reports
      (hub.countClosed n previous reason) := by
  have hclosed : (hub.tallyClosed previous).Reports (if previous = .open then
        { hub with closed := hub.closed + 1
                   metrics := (hub.metrics.increment (.sessionsClosed reason)).moveActive (-1)
          }.count .sessionDurations
      else hub) := by
    simp only [Hub.tallyClosed]
    split
    · have hcount := reports_count { hub with closed := hub.closed + 1 } (.sessionsClosed reason)
      have hmove := reports_moveActive
        ({ hub with closed := hub.closed + 1 }.count (.sessionsClosed reason)) (-1)
      exact (hcount.trans hmove).trans (reports_count _ _)
    · exact Reports.refl _
  have hforced (later : Hub) : (later.tallyForced reason).Reports (if reason.isForced then
        { later with forced := later.forced + 1 }.count (.forcedClosures reason)
      else later) := by
    simp only [Hub.tallyForced]
    split
    · exact reports_count _ _
    · exact Reports.refl _
  exact ((hclosed.tallyForced reason).trans (hforced _)).trans (reports_farewell _ n reason)

/-! ## The whole -/

/-- The hub after a session that nobody had claimed has been torn down, reports apart. -/
def ended (hub : Hub) (n : Nat) (session : Session) (reason : CloseReason)
    (fault : Option StreamFault) : Hub :=
  let hub := hub.modifySession n (·.retired reason fault)
  (((hub.offTopic n session.topic session.stage).offTable n).tallyClosed session.stage).tallyForced
    reason

/-- Claiming, keeping the error, releasing the outbox and ending, one after the other, make the
session what tearing down makes of it. -/
theorem modify_chain_eq {connections : List Connection} {n : Nat} {session : Session}
    (hs : (connections[n]?).map (·.session) = some session) (hu : session.isClaimed = false)
    (reason : CloseReason) (fault : Option StreamFault) :
    (((connections.modify n fun connection =>
          { connection with
            session := { session.claimedFor reason with failure := session.failure <|> fault } }
        ).modify n fun connection =>
          { connection with
            session := { connection.session with
              outbox := connection.session.outbox.release.2 } }
        ).modify n fun connection => { connection with session := connection.session.terminate }) =
      connections.modify n fun connection =>
        { connection with session := connection.session.retired reason fault } := by
  rw [List.modify_modify_eq, List.modify_modify_eq]
  apply modify_congr
  intro connection hconnection
  have heq : connection.session = session := by simpa [hconnection] using hs
  simp [heq, Session.retired, hu, Session.claimedFor, Session.terminate]

/-- Keeping the error of a claimed session, if there is one. -/
theorem reports_keepFault (hub : Hub) (n : Nat) (session : Session) (fault : Option StreamFault)
    (claimed : Session) :
    (hub.modifySession n fun _ => { claimed with failure := claimed.failure <|> fault }).Reports
      (match fault with
      | some fault => (hub.modifySession n fun _ => claimed).keepFault n session fault
      | none => hub.modifySession n fun _ => claimed) := by
  cases fault with
  | none =>
    have hsame : (claimed.failure <|> none) = claimed.failure := by
      cases claimed.failure <;> rfl
    rw [hsame]
    exact Reports.refl _
  | some fault =>
    have hlog := (reports_log (hub.modifySession n fun _ => claimed) .warn "session failed"
      (topicFields session.id session.topic ++ [("error", .str fault.message)])).modify n
        fun connection => { connection with session := connection.session.keepFault fault }
    refine Reports.trans ?_ hlog
    simp only [modifySession, modify, List.modify_modify_eq]
    exact Reports.refl _

/-- A session that nobody has claimed ends, and every record of it as a live one goes. -/
theorem retire_of_unclaimed {hub : Hub} {n : Nat} {session : Session}
    (hs : hub.session? n = some session) (hu : session.isClaimed = false)
    (reason : CloseReason) (fault : Option StreamFault) :
    (hub.retire n reason fault).1 = .closed ∧
      (hub.ended n session reason fault).Reports (hub.retire n reason fault).2 := by
  have hclaim : hub.claim? n reason =
      some (session.stage, hub.modifySession n fun _ => session.claimedFor reason) := by
    simp [claim?, hs, Session.claim?_of_unclaimed hu]
  refine ⟨by simp [retire, hs, hclaim], ?_⟩
  have hfault := reports_keepFault hub n session fault (session.claimedFor reason)
  have hall := ((((hfault.offTopic n session.topic session.stage).trans
    (reports_leaveTopic _ n session session.stage)).modify n fun connection =>
      { connection with
        session := { connection.session with
          outbox := connection.session.outbox.release.2 } }).offTable n).modify n fun connection =>
            { connection with session := connection.session.terminate }
  have hend := ((hall.tallyClosed session.stage).tallyForced reason).trans
    (reports_countClosed _ n session.stage reason)
  have hchain := modify_chain_eq hs hu reason fault
  simp only [retire, hs, hclaim, releaseOutbox, terminate, modifySession, leaveTable_eq]
  refine Reports.trans ?_ hend
  rw [show hub.ended n session reason fault = _ from ?_]
  · exact Reports.refl _
  · simp only [ended, modifySession, modify, offTopic, offTable, tallyClosed, tallyForced, ← hchain]
    rfl

end Hub

end LiveCounter
