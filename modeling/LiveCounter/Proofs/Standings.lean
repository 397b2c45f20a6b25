import LiveCounter.Proofs.Calls
import LiveCounter.Proofs.Handles

/-!
# Where sessions stand between the steps of calls

In the midst of several calls the records of live sessions need not agree. How they may differ for a
session depends on what is still to be done for it: by the one call that opens it, and by the one
call that tears it down. Every step of a call takes a session from one such standing to another.
-/

namespace LiveCounter

namespace Letdown

/-- The session has not been taken off its topic yet. -/
def onTopic : Letdown → Bool
  | .keepFault | .leaveTopic => true
  | _ => false

/-- The session has not been taken off the table yet. -/
def inTable : Letdown → Bool
  | .keepFault | .leaveTopic | .releaseOutbox | .leaveTable => true
  | _ => false

/-- The outbox of the session has been released. -/
def afterRelease : Letdown → Bool
  | .leaveTable | .giveSlot | .terminate | .countClosed => true
  | _ => false

/-- The session and the table are as the teardown has left them so far. -/
structure Fits (next : Letdown) (session : Session) (listed : Bool) : Prop where
  stage : session.stage = if next = .countClosed then .terminated else .draining
  listed : listed = next.inTable
  released : next.afterRelease = true →
    session.outbox.released = true ∧ session.outbox.items = []

/-- A session whose teardown goes on has been claimed. -/
theorem Fits.isClaimed {next : Letdown} {session : Session} {listed : Bool}
    (h : next.Fits session listed) : session.isClaimed = true := by
  rw [Session.isClaimed, h.stage]
  by_cases hlast : next = .countClosed <;> simp [hlast]

end Letdown

/-- The session has been open; the rest of its admission does not touch its records. -/
def Opening.isMarked : Opening → Bool
  | .countOpened | .lookAgain | .startWatch => true
  | _ => false

/-- A session stands well: it may be in the table or not, subscribed or not, and its admission and
its teardown may have something left to do, but these fit together. The stage that a teardown found
is given along with what it does next. -/
inductive Standing (session : Session) (listed subscribed : Bool) :
    Option Opening → Option (SessionStage × Letdown) → Prop
  | arriving (stage : session.stage = .opening) (inTable : listed = true)
      (offTopic : subscribed = false) :
    Standing session listed subscribed (some .subscribe) none
  | enrolled (stage : session.stage = .opening) (inTable : listed = true)
      (onTopic : subscribed = true) :
    Standing session listed subscribed (some .markOpen) none
  | live {opening : Option Opening} (stage : session.stage = .open) (inTable : listed = true)
      (onTopic : subscribed = true) (marked : ∀ next ∈ opening, next.isMarked = true) :
    Standing session listed subscribed opening none
  /-- It is torn down and was never open; if it is subscribed, then its admission will see to it. -/
  | unopened {opening : Option Opening} {letdown : Letdown} (fits : letdown.Fits session listed)
      (unmarked : ∀ next ∈ opening, next.isMarked = false)
      (withdrawn : subscribed = true → opening = some .markOpen ∨ opening = some .withdraw) :
    Standing session listed subscribed opening (some (.opening, letdown))
  | opened {opening : Option Opening} {letdown : Letdown} (fits : letdown.Fits session listed)
      (marked : ∀ next ∈ opening, next.isMarked = true)
      (onTopic : subscribed = letdown.onTopic) :
    Standing session listed subscribed opening (some (.open, letdown))
  | gone {opening : Option Opening} (stage : session.stage = .terminated)
      (offTable : listed = false) (released : session.outbox.released = true)
      (emptied : session.outbox.items = [])
      (withdrawn : subscribed = true → opening = some .markOpen ∨ opening = some .withdraw) :
    Standing session listed subscribed opening none

namespace Standing

variable {session : Session} {listed subscribed : Bool} {opening : Option Opening}
  {letdown : Option (SessionStage × Letdown)}

/-! ## The steps of an admission -/

/-- After it is subscribed, a session that is being admitted stands well. -/
theorem subscribe (h : Standing session listed subscribed (some .subscribe) letdown) :
    Standing session listed true (some .markOpen) letdown := by
  cases h with
  | arriving stage inTable => exact .enrolled stage inTable rfl
  | live _ _ _ marked => exact absurd (marked _ rfl) (by decide)
  | unopened fits => exact .unopened fits (by simp [Opening.isMarked]) fun _ => .inl rfl
  | opened _ marked => exact absurd (marked _ rfl) (by decide)
  | gone stage offTable released emptied =>
    exact .gone stage offTable released emptied fun _ => .inl rfl

/-- So it does after it has opened. -/
theorem markOpen (h : Standing session listed subscribed (some .markOpen) letdown)
    (hstage : session.stage = .opening) :
    Standing { session with stage := .open } listed subscribed (some .countOpened) letdown := by
  cases h with
  | enrolled _ inTable onTopic => exact .live rfl inTable onTopic (by simp [Opening.isMarked])
  | live _ _ _ marked => exact absurd (marked _ rfl) (by decide)
  | unopened fits =>
    have hclaimed := fits.isClaimed
    simp [Session.isClaimed, hstage] at hclaimed
  | opened _ marked => exact absurd (marked _ rfl) (by decide)
  | gone stage => simp [hstage] at stage

/-- An admission that cannot open its session finds it claimed by somebody else. -/
theorem failToOpen (h : Standing session listed subscribed (some .markOpen) letdown)
    (hstage : session.stage ≠ .opening) :
    session.isClaimed = true ∧ Standing session listed subscribed (some .withdraw) letdown := by
  cases h with
  | enrolled stage => exact absurd stage hstage
  | live _ _ _ marked => exact absurd (marked _ rfl) (by decide)
  | unopened fits =>
    exact ⟨fits.isClaimed, .unopened fits (by simp [Opening.isMarked]) fun _ => .inr rfl⟩
  | opened _ marked => exact absurd (marked _ rfl) (by decide)
  | gone stage offTable released emptied =>
    exact ⟨by simp [Session.isClaimed, stage],
      .gone stage offTable released emptied fun _ => .inr rfl⟩

/-- A session that could not open stands well without its subscription. -/
theorem withdraw (h : Standing session listed subscribed (some .withdraw) letdown) :
    Standing session listed false none letdown := by
  cases h with
  | live _ _ _ marked => exact absurd (marked _ rfl) (by decide)
  | unopened fits => exact .unopened fits (by simp) (by simp)
  | opened _ marked => exact absurd (marked _ rfl) (by decide)
  | gone stage offTable released emptied => exact .gone stage offTable released emptied (by simp)

/-- Once the session has been open, its admission does nothing that touches its records. -/
theorem advance {next : Opening} (h : Standing session listed subscribed (some next) letdown)
    (hnext : next.isMarked = true) (hopening : ∀ next ∈ opening, next.isMarked = true) :
    Standing session listed subscribed opening letdown := by
  cases h with
  | arriving | enrolled => simp [Opening.isMarked] at hnext
  | live stage inTable onTopic => exact .live stage inTable onTopic hopening
  | unopened _ unmarked => simp [unmarked _ rfl] at hnext
  | opened fits _ onTopic => exact .opened fits hopening onTopic
  | gone stage offTable released emptied withdrawn =>
    refine .gone stage offTable released emptied fun hsub => ?_
    rcases withdrawn hsub with h | h <;> obtain rfl := Option.some.inj h <;>
      simp [Opening.isMarked] at hnext

/-! ## The steps of a teardown -/

/-- A teardown begins with a session that is draining and in the table. -/
theorem fits_keepFault (hstage : session.stage = .draining) (hlisted : listed = true) :
    Letdown.keepFault.Fits session listed :=
  ⟨hstage, hlisted, by simp [Letdown.afterRelease]⟩

/-- Who claims a session that nobody has claimed is the only one to tear it down. -/
theorem claim (h : Standing session listed subscribed opening letdown)
    (hu : session.isClaimed = false) (reason : CloseReason) :
    letdown = none ∧ Standing (session.claimedFor reason) listed subscribed opening
      (some (session.stage, .keepFault)) := by
  cases h with
  | arriving stage inTable offTopic =>
    rw [stage]
    exact ⟨rfl, .unopened (fits_keepFault rfl inTable) (by simp [Opening.isMarked])
      (by simp [offTopic])⟩
  | enrolled stage inTable onTopic =>
    rw [stage]
    exact ⟨rfl, .unopened (fits_keepFault rfl inTable) (by simp [Opening.isMarked])
      fun _ => .inl rfl⟩
  | live stage inTable onTopic marked =>
    rw [stage]
    exact ⟨rfl, .opened (fits_keepFault rfl inTable) marked onTopic⟩
  | unopened fits => simp [fits.isClaimed] at hu
  | opened fits => simp [fits.isClaimed] at hu
  | gone stage => simp [Session.isClaimed, stage] at hu

/-- What a teardown does not find changed between two of its steps. -/
theorem proceed {previous : SessionStage} {next next' : Letdown} {later : Session} {listed' : Bool}
    (h : Standing session listed subscribed opening (some (previous, next)))
    (hfits : next.Fits session listed → next'.Fits later listed')
    (honTopic : next'.onTopic = next.onTopic) :
    Standing later listed' subscribed opening (some (previous, next')) := by
  cases h with
  | unopened fits unmarked withdrawn => exact .unopened (hfits fits) unmarked withdrawn
  | opened fits marked onTopic => exact .opened (hfits fits) marked (onTopic.trans honTopic.symm)

/-- Where a teardown stands, its session and the table fit it. -/
theorem fits {previous : SessionStage} {next : Letdown}
    (h : Standing session listed subscribed opening (some (previous, next))) :
    next.Fits session listed := by
  cases h with
  | unopened fits => exact fits
  | opened fits => exact fits

/-- Keeping the error leaves the session standing well. -/
theorem keepFault {previous : SessionStage} (fault : Option StreamFault)
    (h : Standing session listed subscribed opening (some (previous, .keepFault))) :
    Standing { session with failure := session.failure <|> fault } listed subscribed opening
      (some (previous, .leaveTopic)) :=
  h.proceed (fun fits => ⟨fits.stage, fits.listed, by simp [Letdown.afterRelease]⟩) rfl

/-- A session that was open is still on its topic when it is to be taken off. -/
theorem leaveTopic {previous : SessionStage}
    (h : Standing session listed subscribed opening (some (previous, .leaveTopic))) :
    (previous = .open → subscribed = true) ∧
      Standing session listed false opening (some (previous, .releaseOutbox)) := by
  have hfits (fits : Letdown.leaveTopic.Fits session listed) :
      Letdown.releaseOutbox.Fits session listed :=
    ⟨fits.stage, fits.listed, by simp [Letdown.afterRelease]⟩
  cases h with
  | unopened fits unmarked => exact ⟨by simp, .unopened (hfits fits) unmarked (by simp)⟩
  | opened fits marked onTopic => exact ⟨fun _ => onTopic, .opened (hfits fits) marked rfl⟩

/-- So does releasing its outbox. -/
theorem releaseOutbox {previous : SessionStage}
    (h : Standing session listed subscribed opening (some (previous, .releaseOutbox))) :
    Standing { session with outbox := session.outbox.release.2 } listed subscribed opening
      (some (previous, .leaveTable)) :=
  h.proceed (fun fits => ⟨fits.stage, fits.listed, fun _ => ⟨rfl, rfl⟩⟩) rfl

/-- The session is in the table when its teardown takes it out, and stands well then. -/
theorem leaveTable {previous : SessionStage}
    (h : Standing session listed subscribed opening (some (previous, .leaveTable))) :
    listed = true ∧ Standing session false subscribed opening (some (previous, .giveSlot)) :=
  ⟨h.fits.listed, h.proceed (fun fits => ⟨fits.stage, rfl, fits.released⟩) rfl⟩

/-- Giving the slot back changes nothing about the session. -/
theorem giveSlot {previous : SessionStage}
    (h : Standing session listed subscribed opening (some (previous, .giveSlot))) :
    Standing session listed subscribed opening (some (previous, .terminate)) :=
  h.proceed (fun fits => ⟨fits.stage, fits.listed, fits.released⟩) rfl

/-- The session is draining when its teardown ends it, and stands well then. -/
theorem terminate {previous : SessionStage}
    (h : Standing session listed subscribed opening (some (previous, .terminate))) :
    session.stage = .draining ∧
      Standing session.terminate listed subscribed opening (some (previous, .countClosed)) :=
  ⟨h.fits.stage, h.proceed (fun fits => ⟨rfl, fits.listed, fits.released⟩) rfl⟩

/-- Counting the end changes nothing about the session. -/
theorem countClosed {previous : SessionStage}
    (h : Standing session listed subscribed opening (some (previous, .countClosed))) :
    Standing session listed subscribed opening none := by
  have hfits := h.fits
  obtain ⟨hreleased, hemptied⟩ := hfits.released rfl
  cases h with
  | unopened _ _ withdrawn => exact .gone hfits.stage hfits.listed hreleased hemptied withdrawn
  | opened _ _ onTopic =>
    exact .gone hfits.stage hfits.listed hreleased hemptied (by simp [onTopic, Letdown.onTopic])

/-! ## What standings say -/

/-- A session that nobody has claimed is in the table. -/
theorem listed_of_unclaimed (h : Standing session listed subscribed opening letdown)
    (hu : session.isClaimed = false) : listed = true := by
  cases h with
  | arriving _ inTable => exact inTable
  | enrolled _ inTable => exact inTable
  | live _ inTable => exact inTable
  | unopened fits => simp [fits.isClaimed] at hu
  | opened fits => simp [fits.isClaimed] at hu
  | gone stage => simp [Session.isClaimed, stage] at hu

/-- A claimed session for which nothing is left to do has ended and left nothing behind. -/
theorem ended_of_claimed (h : Standing session listed subscribed none none)
    (hclaimed : session.isClaimed = true) :
    session.stage = .terminated ∧ session.outbox.released = true ∧ session.outbox.items = [] ∧
      listed = false ∧ subscribed = false := by
  cases h with
  | live stage => simp [Session.isClaimed, stage] at hclaimed
  | gone stage offTable released emptied withdrawn =>
    refine ⟨stage, released, emptied, offTable, ?_⟩
    simpa using mt withdrawn

end Standing

end LiveCounter
