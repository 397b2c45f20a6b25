import LiveCounter.Stream.Outbox
import Mathlib.Data.List.Induction

/-!
# What becomes of the events in an outbox

An outbox is used in three ways: an event is put in, the next one is taken out, or the outbox is
released. Whatever is done with it and in whatever order, it is a queue with room for a fixed number
of events until its first release, and empty and closed from then on. One relation between an outbox
and the log of its uses says so; every use keeps it.
-/

namespace LiveCounter.Outbox

/-- What is done with an outbox. -/
inductive Use where
  | push (event : CounterEvent)
  | pop
  | release
  deriving DecidableEq

/-- What an outbox answers. -/
inductive Reply where
  | queued
  | refused (fault : PushFault)
  | popped (popped : Popped)
  | released (first : Bool)
  deriving DecidableEq

/-- The answer of an outbox to a use, and what the outbox is afterwards. -/
def step (outbox : Outbox) : Use → Reply × Outbox
  | .push event =>
    match outbox.push event with
    | .ok later => (.queued, later)
    | .error fault => (.refused fault, outbox)
  | .pop => (.popped outbox.pop.1, outbox.pop.2)
  | .release => (.released outbox.release.1, outbox.release.2)

/-- The outbox after several uses. -/
def run (outbox : Outbox) (uses : List Use) : Outbox :=
  uses.foldl (fun outbox use => (outbox.step use).2) outbox

/-- The uses of an outbox, each with its answer. -/
def log (outbox : Outbox) : List Use → List (Use × Reply)
  | [] => []
  | use :: uses => (use, (outbox.step use).1) :: (outbox.step use).2.log uses

/-- The event that an entry of a log says was put in. -/
def accepted? : Use × Reply → Option CounterEvent
  | (.push event, .queued) => some event
  | _ => none

/-- The event that an entry of a log says was taken out. -/
def taken? : Use × Reply → Option CounterEvent
  | (.pop, .popped (.event event)) => some event
  | _ => none

/-- The entry of a log is a release that was the first. -/
def isFirstRelease (entry : Use × Reply) : Bool := entry.2 = .released true

/-- The events that a log says were put in, in order. -/
def accepted (log : List (Use × Reply)) : List CounterEvent := log.filterMap accepted?

/-- The events that a log says were taken out, in order. -/
def taken (log : List (Use × Reply)) : List CounterEvent := log.filterMap taken?

/-- Uses can be made in two parts. -/
theorem run_append (outbox : Outbox) (uses more : List Use) :
    outbox.run (uses ++ more) = (outbox.run uses).run more := by
  rw [run, run, run, List.foldl_append]

/-- The log of a use in two parts is in two parts. -/
theorem log_append (outbox : Outbox) (uses more : List Use) :
    outbox.log (uses ++ more) = outbox.log uses ++ (outbox.run uses).log more := by
  induction uses generalizing outbox with
  | nil => rfl
  | cons use uses ih => exact congrArg ((use, (outbox.step use).1) :: ·) (ih (outbox.step use).2)

/-- What was put in according to two logs adds up. -/
theorem accepted_append (log more : List (Use × Reply)) :
    accepted (log ++ more) = accepted log ++ accepted more :=
  List.filterMap_append

/-- What was taken out according to two logs adds up. -/
theorem taken_append (log more : List (Use × Reply)) :
    taken (log ++ more) = taken log ++ taken more :=
  List.filterMap_append

/-- An entry that is no acceptance adds nothing to what was put in. -/
theorem accepted_concat_none {entry : Use × Reply} (h : accepted? entry = none)
    (log : List (Use × Reply)) : accepted (log ++ [entry]) = accepted log := by
  simp [accepted, h]

/-- An entry that gives nothing out adds nothing to what was taken out. -/
theorem taken_concat_none {entry : Use × Reply} (h : taken? entry = none)
    (log : List (Use × Reply)) : taken (log ++ [entry]) = taken log := by
  simp [taken, h]

/-- An acceptance adds its event to what was put in. -/
theorem accepted_concat_some {entry : Use × Reply} {event : CounterEvent}
    (h : accepted? entry = some event) (log : List (Use × Reply)) :
    accepted (log ++ [entry]) = accepted log ++ [event] := by
  simp [accepted, h]

/-- An event that is given out is the last one taken. -/
theorem taken_concat_some {entry : Use × Reply} {event : CounterEvent}
    (h : taken? entry = some event) (log : List (Use × Reply)) :
    taken (log ++ [entry]) = taken log ++ [event] := by
  simp [taken, h]

/-- Only a release of an outbox that has not been released before is the first. -/
theorem isFirstRelease_step (outbox : Outbox) (use : Use) :
    isFirstRelease (use, (outbox.step use).1) = (use = .release && !outbox.released) := by
  cases use with
  | push event =>
    cases hpush : outbox.push event <;> simp [isFirstRelease, step, hpush]
  | pop => simp [isFirstRelease, step]
  | release => simp [isFirstRelease, step, release]

/-- What an outbox with room for `room` events is after the uses in its log. Until its first release
it holds what was put in and not yet taken out; from then on it is empty. -/
inductive Represents (room : Nat) (uses : List Use) (log : List (Use × Reply)) : Outbox → Prop
  | serving (items : List CounterEvent) (fits : items.length ≤ room) (hnever : .release ∉ uses)
      (order : taken log ++ items = accepted log) (hcount : log.countP isFirstRelease = 0) :
      Represents room uses log { capacity := room, items, released := false }
  | spent (honce : .release ∈ uses) (hcount : log.countP isFirstRelease = 1) :
      Represents room uses log { capacity := room, items := [], released := true }

/-- Each use of an outbox keeps the relation to the log, in which it is the next entry. -/
theorem Represents.step {room : Nat} {uses : List Use} {log : List (Use × Reply)} {outbox : Outbox}
    (h : Represents room uses log outbox) (use : Use) :
    Represents room (uses ++ [use]) (log ++ [(use, (outbox.step use).1)]) (outbox.step use).2 := by
  cases h with
  | serving items fits hnever order hcount =>
    have hfirst : use ≠ .release → (log ++ [(use, (Outbox.step { capacity := room, items } use).1)]
        ).countP isFirstRelease = 0 := by
      intro huse
      rw [List.countP_append, hcount, List.countP_singleton, isFirstRelease_step]
      simp [huse]
    cases use with
    | push event =>
      by_cases hfull : room ≤ items.length
      · have hstep : Outbox.step { capacity := room, items } (.push event) =
            (.refused .full, { capacity := room, items }) := by
          simp [Outbox.step, push, length, hfull]
        rw [hstep] at hfirst ⊢
        refine .serving items fits (by simp [hnever]) ?_ (hfirst nofun)
        rw [accepted_concat_none rfl, taken_concat_none rfl, order]
      · have hstep : Outbox.step { capacity := room, items } (.push event) =
            (.queued, { capacity := room, items := items ++ [event] }) := by
          simp [Outbox.step, push, length, hfull]
        rw [hstep] at hfirst ⊢
        refine .serving (items ++ [event]) ?_ (by simp [hnever]) ?_ (hfirst nofun)
        · rw [List.length_append, List.length_singleton]
          omega
        · rw [accepted_concat_some rfl, taken_concat_none rfl, ← order, List.append_assoc]
    | pop =>
      cases items with
      | nil =>
        refine .serving [] fits (by simp [hnever]) ?_ (hfirst nofun)
        rw [accepted_concat_none rfl, taken_concat_none rfl, order]
      | cons event items =>
        refine .serving items (Nat.le_of_succ_le fits) (by simp [hnever]) ?_ (hfirst nofun)
        rw [accepted_concat_none rfl, taken_concat_some rfl, ← order, List.append_assoc,
          List.singleton_append]
    | release =>
      refine .spent (by simp) ?_
      rw [List.countP_append, hcount, List.countP_singleton, isFirstRelease_step]
      rfl
  | spent honce hcount =>
    have hlast : (log ++ [(use, (Outbox.step { capacity := room, released := true } use).1)]
        ).countP isFirstRelease = 1 := by
      rw [List.countP_append, hcount, List.countP_singleton, isFirstRelease_step]
      simp
    -- Whatever the use, the outbox is as it was.
    cases use with
    | push event => exact .spent (List.mem_append_left _ honce) hlast
    | pop => exact .spent (List.mem_append_left _ honce) hlast
    | release => exact .spent (List.mem_append_left _ honce) hlast

/-- An outbox is what its log says, whatever its uses. -/
theorem represents_run (capacity : Nat) (uses : List Use) :
    Represents (max capacity 1) uses ((ofCapacity capacity).log uses)
      ((ofCapacity capacity).run uses) := by
  induction uses using List.reverseRecOn with
  | nil => exact .serving [] (Nat.zero_le _) List.not_mem_nil rfl rfl
  | append_singleton uses use ih =>
    rw [run_append, log_append]
    exact ih.step use

/-- Nothing is put in or taken out once an outbox has been released. -/
theorem idle_of_released {outbox : Outbox} (hreleased : outbox.released = true) (uses : List Use) :
    accepted (outbox.log uses) = [] ∧ taken (outbox.log uses) = [] := by
  induction uses generalizing outbox with
  | nil => exact ⟨rfl, rfl⟩
  | cons use uses ih =>
    have hlater : (outbox.step use).2.released = true := by
      cases use <;> simp [step, push, pop, release, hreleased]
    obtain ⟨haccepted, htaken⟩ := ih hlater
    constructor
    · cases use <;> simp_all [accepted, log, accepted?, step, push]
    · cases use <;> simp_all [taken, log, taken?, step, pop]

/-- The log of an outbox records nothing put in or taken out from any release on. -/
theorem log_until_release (outbox : Outbox) (before after : List Use) :
    accepted (outbox.log (before ++ .release :: after)) = accepted (outbox.log before) ∧
      taken (outbox.log (before ++ .release :: after)) = taken (outbox.log before) := by
  have hreleased : (outbox.run before).release.2.released = true := rfl
  obtain ⟨haccepted, htaken⟩ := idle_of_released hreleased after
  rw [log_append, accepted_append, taken_append]
  exact ⟨(congrArg (accepted (outbox.log before) ++ ·) haccepted).trans (List.append_nil _),
    (congrArg (taken (outbox.log before) ++ ·) htaken).trans (List.append_nil _)⟩

/-- An outbox is made exactly if there is room for it, and begins empty. -/
theorem ofCapacity?_eq_some_iff {capacity : Nat} {fresh : Outbox} :
    ofCapacity? capacity = some fresh ↔
      capacity ≤ maxCapacity ∧ fresh = { capacity := max capacity 1 } := by
  have hroom : max capacity 1 ≤ maxCapacity ↔ capacity ≤ maxCapacity :=
    Nat.max_le.trans (and_iff_left (by decide))
  unfold ofCapacity? ofCapacity
  simp only [hroom]
  split
  · next hfits => simp [hfits, eq_comm]
  · next hlarge => simp [hlarge]

/-- Whoever takes from an outbox that has not been released gets the event at its front, and the
others wait; if none waits, nothing changes. -/
theorem pop_of_not_released {outbox : Outbox} (hreleased : outbox.released = false) :
    outbox.pop = match outbox.items with
      | [] => (.pending, outbox)
      | event :: rest => (.event event, { outbox with items := rest }) := by
  cases hitems : outbox.items <;> simp [pop, hreleased, hitems]

/-- After any uses an outbox made for `capacity` events holds no more than that, or one if that is
none. It refuses an event as released if and only if it has been released, and as full if and only
if it has not been and holds as many as there is room for; an event that is refused changes nothing.
While it is not released, the events taken out and then those that wait are the ones put in, in
order; and whoever takes out gets the first one that waits, and is told if there is none. Once it is
released, nothing waits, whoever takes out is told so, nothing more is put in or taken out, and of
all releases exactly one is told that it was the first. -/
theorem first_in_first_out_until_released {capacity : Nat} {fresh : Outbox}
    (hmade : ofCapacity? capacity = some fresh) (uses : List Use) :
    let room := max capacity 1
    let outbox := fresh.run uses
    let log := fresh.log uses
    outbox.length ≤ room ∧
      (∀ event, outbox.push event = .error .released ↔ .release ∈ uses) ∧
      (∀ event, outbox.push event = .error .full ↔ .release ∉ uses ∧ outbox.length = room) ∧
      (∀ event fault, outbox.push event = .error fault →
        outbox.step (.push event) = (.refused fault, outbox)) ∧
      (.release ∉ uses → taken log ++ outbox.items = accepted log ∧
        outbox.pop = match outbox.items with
          | [] => (.pending, outbox)
          | event :: rest => (.event event, { outbox with items := rest })) ∧
      (.release ∈ uses → outbox.items = [] ∧ outbox.pop = (.released, outbox)) ∧
      (∀ before after, uses = before ++ .release :: after →
        accepted log = accepted (fresh.log before) ∧ taken log = taken (fresh.log before)) ∧
      log.countP isFirstRelease = if .release ∈ uses then 1 else 0 := by
  intro room outbox log
  have hfresh : fresh = ofCapacity capacity := (ofCapacity?_eq_some_iff.mp hmade).2
  have hrepresents : Represents room uses log outbox := by
    have hrun := represents_run capacity uses
    rwa [← hfresh] at hrun
  have hrefused : ∀ event fault, outbox.push event = .error fault →
      outbox.step (.push event) = (.refused fault, outbox) := by
    intro event fault hpush
    rw [step, hpush]
  have hended : ∀ before after, uses = before ++ .release :: after →
      accepted log = accepted (fresh.log before) ∧ taken log = taken (fresh.log before) := by
    rintro before after rfl
    exact log_until_release fresh before after
  generalize outbox = outbox at hrepresents hrefused ⊢
  cases hrepresents with
  | serving items fits hnever order hcount =>
    refine ⟨fits, fun event => ?_, fun event => ?_, hrefused,
      fun _ => ⟨order, pop_of_not_released rfl⟩, fun honce => absurd honce hnever, hended,
      by rw [hcount, if_neg hnever]⟩
    · by_cases hfull : room ≤ items.length <;> simp [push, length, hfull, hnever]
    · by_cases hfull : room ≤ items.length
      · simp [push, length, hnever, Nat.le_antisymm fits hfull]
      · simp [push, length, hfull, hnever, Nat.ne_of_lt (Nat.lt_of_not_le hfull)]
  | spent honce hcount =>
    exact ⟨Nat.zero_le _, fun event => by simp [push, honce], fun event => by simp [push, honce],
      hrefused, fun hnever => absurd honce hnever, fun _ => ⟨rfl, rfl⟩, hended,
      by rw [hcount, if_pos honce]⟩

/-- Of three events the second one finds the outbox full; the first one comes out, and then the
third. -/
theorem first_in_first_out_until_released_of_one :
    let event (value : Int64) : CounterEvent := ⟨.random 0, value⟩
    let uses : List Use := [.push (event 1), .push (event 2), .pop, .push (event 3)]
    ∃ fresh, ofCapacity? 1 = some fresh ∧ taken (fresh.log uses) = [event 1] ∧
      taken (fresh.log uses) ++ (fresh.run uses).items = accepted (fresh.log uses) ∧
      (fresh.run uses).pop.1 = .event (event 3) := by
  intro event uses
  have hmade : ofCapacity? 1 = some { capacity := 1 } := by decide
  obtain ⟨-, -, -, -, hserves, -⟩ := first_in_first_out_until_released hmade uses
  obtain ⟨horder, hpop⟩ := hserves (by simp [uses])
  exact ⟨_, hmade, by decide +kernel, horder, by rw [hpop]; decide +kernel⟩

end LiveCounter.Outbox
