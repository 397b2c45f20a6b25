import LiveCounter.Time.Duration

/-!
# Timers

Instants are counted from the start of the clock. The clock itself moves in whole milliseconds, so a
timer that is set to an instant between two of them is due at the later one. Timers are numbered in
the order in which they are set; of two that are due at once the lower number goes first.
-/

namespace LiveCounter

/-- An instant at which a task wants to go on. -/
structure Timer where
  instant : Duration
  number : Nat
  deriving DecidableEq, Repr

namespace Timer

/-- The millisecond at which a timer is due. -/
def due (timer : Timer) : Nat := timer.instant.ceilMillis

/-- Whether a timer is due at the given millisecond. -/
def isDue (timer : Timer) (now : Nat) : Bool := timer.due ≤ now

end Timer

/-- The present millisecond, with the number of the next timer. -/
structure Clock where
  now : Nat
  next : Nat
  deriving DecidableEq, Repr

namespace Clock

/-- The present instant. -/
def instant (clock : Clock) : Duration := .ofMillis clock.now

/-- The length of time, in seconds, that no clock can add to an instant. -/
def unreachable : Nat := 1 <<< 63

/-- Whether an instant so long after another one lies beyond every clock. -/
def overflows (period : Duration) : Bool := Duration.ofSecs unreachable ≤ period

/-- What stands in for instants beyond every clock: thirty years. -/
def farFuture : Duration := .ofSecs (86400 * 365 * 30)

/-- Sets a timer to an instant. -/
def setAt (clock : Clock) (instant : Duration) : Timer × Clock :=
  (⟨instant, clock.next⟩, { clock with next := clock.next + 1 })

/-- The instant that lies the given time after another one. -/
def after (clock : Clock) (start period : Duration) : Duration :=
  if overflows period then clock.instant + farFuture else start + period

/-- Sets a timer to run out after a period. -/
def set (clock : Clock) (period : Duration) : Timer × Clock :=
  clock.setAt (clock.after clock.instant period)

end Clock

end LiveCounter
