import LiveCounter.Hub.Basic
import Mathlib.Logic.Basic

/-!
# The course of a session

Most of what happens to a session leaves its course alone: what it is, how far it has come, why it
closes. Its tasks never change the course themselves; they only ask the hub to.
-/

namespace LiveCounter

namespace Session

/-- The second session is as far as the first one, and for the same causes. -/
structure SameCourse (before after : Session) : Prop where
  id : after.id = before.id
  topic : after.topic = before.topic
  stage : after.stage = before.stage
  reason : after.reason = before.reason
  failure : after.failure = before.failure
  cancelled : after.cancelled = before.cancelled
  released : after.outbox.released = before.outbox.released
  emptied : before.outbox.items = [] → before.outbox.released = true → after.outbox.items = []

/-- A session is where it is. -/
theorem SameCourse.refl (session : Session) : session.SameCourse session :=
  ⟨rfl, rfl, rfl, rfl, rfl, rfl, rfl, fun h _ => h⟩

/-- Two stretches that take a session no further make one. -/
theorem SameCourse.trans {first second third : Session} (h : first.SameCourse second)
    (h' : second.SameCourse third) : first.SameCourse third where
  id := h'.id.trans h.id
  topic := h'.topic.trans h.topic
  stage := h'.stage.trans h.stage
  reason := h'.reason.trans h.reason
  failure := h'.failure.trans h.failure
  cancelled := h'.cancelled.trans h.cancelled
  released := h'.released.trans h.released
  emptied hitems hreleased := h'.emptied (h.emptied hitems hreleased) (h.released.trans hreleased)

/-- A session takes an event if it is open and its outbox is neither released nor full. -/
theorem offer_eq (session : Session) (event : CounterEvent) :
    session.offer event =
      if session.stage = .open ∧ session.outbox.released = false then
        if session.outbox.capacity ≤ session.outbox.length then
          ({ session with
              dropped := session.dropped + 1
              consecutiveDrops := session.consecutiveDrops + 1 },
            .dropped (session.consecutiveDrops + 1))
        else
          ({ session with
              outbox := { session.outbox with items := session.outbox.items ++ [event] }
              consecutiveDrops := 0 },
            .queued)
      else (session, .inactive) := by
  by_cases hopen : session.stage = .open
  · cases hreleased : session.outbox.released
    · by_cases hfull : session.outbox.capacity ≤ session.outbox.length <;>
        simp [offer, isOpen, hopen, Outbox.push, hreleased, hfull]
    · simp [offer, isOpen, hopen, Outbox.push, hreleased]
  · simp [offer, isOpen, hopen]

/-- An offered event takes a session no further. -/
theorem sameCourse_offer (session : Session) (event : CounterEvent) :
    session.SameCourse (session.offer event).1 := by
  rw [offer_eq]
  split
  · next h =>
    split
    · exact ⟨rfl, rfl, rfl, rfl, rfl, rfl, rfl, fun h _ => h⟩
    · refine ⟨rfl, rfl, rfl, rfl, rfl, rfl, rfl, fun _ hreleased => ?_⟩
      simp [h.2] at hreleased
  · exact .refl _

/-- Taking an event out takes a session no further. -/
theorem sameCourse_pop (session : Session) :
    session.SameCourse { session with outbox := session.outbox.pop.2 } := by
  have hreleased : session.outbox.pop.2.released = session.outbox.released := by
    unfold Outbox.pop
    split
    · rfl
    · split <;> rfl
  refine ⟨rfl, rfl, rfl, rfl, rfl, rfl, hreleased, fun h _ => ?_⟩
  simp only [Outbox.pop]
  split
  · exact h
  · simp only [h]

/-- A sign of life takes a session no further. -/
theorem sameCourse_refresh (session : Session) (now : Nat) :
    session.SameCourse (session.refresh now) :=
  ⟨rfl, rfl, rfl, rfl, rfl, rfl, rfl, fun h _ => h⟩

/-- Noting a write takes a session no further. -/
theorem sameCourse_noteWrite (session : Session) (now : Nat) :
    session.SameCourse (session.noteWrite now) :=
  ⟨rfl, rfl, rfl, rfl, rfl, rfl, rfl, fun h _ => h⟩

end Session

namespace Writer

/-- Setting the keepalive timer does not touch the session. -/
theorem session_armKeepalive (policy : StreamPolicy) (desk : Desk) :
    (armKeepalive policy desk).2.session = desk.session := by
  unfold armKeepalive
  split <;> rfl

/-- Choosing what to do next takes the session no further. -/
theorem sameCourse_choose (keepalive : Option Timer) (desk : Desk) :
    desk.session.SameCourse (choose keepalive desk).2.session := by
  have hpop := desk.session.sameCourse_pop
  unfold choose
  split
  · exact .refl _
  · split
    · exact .refl _
    · split
      · exact .refl _
      · next heq => rwa [heq] at hpop
      · split
        · split <;> exact .refl _
        · exact .refl _

/-- The beginning of a write takes the session no further. -/
theorem sameCourse_beginWrite (policy : StreamPolicy) (frame : Frame) (desk : Desk) :
    desk.session.SameCourse (beginWrite policy frame desk).2.session := by
  unfold beginWrite
  simp only
  split
  · exact desk.session.sameCourse_noteWrite _
  all_goals exact .refl _

/-- Going on with a write takes the session no further. -/
theorem sameCourse_resumeWrite (policy : StreamPolicy) (write : Write) (desk : Desk) :
    desk.session.SameCourse (resumeWrite policy write desk).2.session := by
  unfold resumeWrite
  simp only
  split
  · exact desk.session.sameCourse_noteWrite _
  · exact .refl _
  · exact .refl _
  · split <;> exact .refl _
  · split <;> exact .refl _

/-! ## What each step of the work keeps -/

/-- A relation between two moments of a writer that each step of its work stays within. -/
structure Stepwise (policy : StreamPolicy) (R : Desk → Desk → Prop) : Prop where
  refl (desk : Desk) : R desk desk
  trans {first second third : Desk} : R first second → R second third → R first third
  chosen (keepalive : Option Timer) (desk : Desk) : R desk (choose keepalive desk).2
  armed (desk : Desk) : R desk (armKeepalive policy desk).2
  begun (frame : Frame) (desk : Desk) : R desk (beginWrite policy frame desk).2
  resumed (write : Write) (desk : Desk) : R desk (resumeWrite policy write desk).2

/-- What every step of a writer stays within, its loop stays within. -/
theorem Stepwise.serve {policy : StreamPolicy} {R : Desk → Desk → Prop} (h : Stepwise policy R)
    (steps : Nat) (keepalive : Option Timer) (desk : Desk) :
    R desk (serve policy steps keepalive desk).2 := by
  induction steps generalizing keepalive desk with
  | zero => exact h.refl desk
  | succ steps ih =>
    have hchosen := h.chosen keepalive desk
    rw [Writer.serve]
    split
    · next heq => rwa [heq] at hchosen
    · next heq => rwa [heq] at hchosen
    · next frame chosen heq =>
      rw [heq] at hchosen
      have hbegun := h.begun frame chosen
      split
      · next heq' =>
        rw [heq'] at hbegun
        exact h.trans hchosen hbegun
      · next written heq' =>
        rw [heq'] at hbegun
        exact h.trans (h.trans hchosen hbegun) (h.trans (h.armed written) (ih _ _))

/-- The first run of a writer sets the keepalive timer, unless the period is beyond every clock, and
then serves. -/
theorem run_spawned (policy : StreamPolicy) (desk : Desk) :
    policy.keepaliveInterval.any Clock.overflows = true ∧
        run policy .spawned desk = (.exited .panicked, desk) ∨
      policy.keepaliveInterval.any Clock.overflows = false ∧ run policy .spawned desk =
        serve policy (enough (armKeepalive policy desk).2) (armKeepalive policy desk).1
          (armKeepalive policy desk).2 := by
  unfold run armKeepalive
  cases policy.keepaliveInterval with
  | none => exact Or.inr ⟨rfl, rfl⟩
  | some period =>
    simp only
    split
    · next hoverflows => exact Or.inl ⟨hoverflows, rfl⟩
    · next hreach => exact Or.inr ⟨by simpa using hreach, rfl⟩

/-- What each step of the work stays within, a run of the writer stays within. -/
theorem Stepwise.run {policy : StreamPolicy} {R : Desk → Desk → Prop} (h : Stepwise policy R)
    (phase : Phase) (desk : Desk) : R desk (run policy phase desk).2 := by
  cases phase with
  | ended => exact h.refl desk
  | spawned =>
    rcases run_spawned policy desk with ⟨-, hpanicked⟩ | ⟨-, hserved⟩
    · rw [hpanicked]
      exact h.refl desk
    · rw [hserved]
      exact h.trans (h.armed desk) (h.serve _ _ _)
  | waiting keepalive => exact h.serve _ keepalive desk
  | writing write =>
    simp only [Writer.run]
    split
    · exact h.refl desk
    · have hresumed := h.resumed write desk
      split
      · next heq => rwa [heq] at hresumed
      · next written heq =>
        rw [heq] at hresumed
        exact h.trans hresumed (h.trans (h.armed written) (h.serve _ _ _))

/-- No step of a writer takes its session further. -/
theorem stepwise_sameCourse (policy : StreamPolicy) :
    Stepwise policy fun before after => before.session.SameCourse after.session where
  refl desk := .refl desk.session
  trans := .trans
  chosen := sameCourse_choose
  armed desk := session_armKeepalive policy desk ▸ .refl desk.session
  begun := sameCourse_beginWrite policy
  resumed := sameCourse_resumeWrite policy

/-- A writer changes nothing in the course of its session. -/
theorem sameCourse_run (policy : StreamPolicy) (phase : Phase) (desk : Desk) :
    desk.session.SameCourse (run policy phase desk).2.session :=
  (stepwise_sameCourse policy).run phase desk

end Writer

end LiveCounter
