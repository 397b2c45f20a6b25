import LiveCounter.Stream.Fault

/-!
# Metrics

Running totals for operators. A series comes into being when it is first used. Counters only grow,
the gauge of active sessions also falls, and of the histogram of session lengths only the number of
observations is kept.
-/

namespace LiveCounter

/-- Why a stream was not admitted. -/
inductive Rejection where
  | stopping
  | capacity
  deriving DecidableEq, Repr

/-- The label of a rejection. -/
def Rejection.label : Rejection → String
  | .stopping => "shutting_down"
  | .capacity => "capacity"

/-- A series that only grows. -/
inductive Metric where
  | hits
  | sessionsOpened
  | sessionsClosed (reason : CloseReason)
  | sessionsRejected (cause : Rejection)
  | sessionDurations
  | eventsPublished
  | broadcastDrops
  | forcedClosures (reason : CloseReason)
  | disagreements
  deriving DecidableEq, Repr

/-- A series of the given name with one label. -/
def Metric.labelled (name label value : String) : String :=
  name ++ "\x7b" ++ label ++ "=\"" ++ value ++ "\"\x7d"

/-- The written form of a series. -/
def Metric.series : Metric → String
  | .hits => "counter_hits_total"
  | .sessionsOpened => "stream_sessions_opened_total"
  | .sessionsClosed reason => labelled "stream_sessions_closed_total" "reason" reason.label
  | .sessionsRejected cause => labelled "stream_sessions_rejected_total" "cause" cause.label
  | .sessionDurations => "stream_session_duration_seconds_count"
  | .eventsPublished => "stream_events_published_total"
  | .broadcastDrops => "stream_broadcast_drops_total"
  | .forcedClosures reason => labelled "stream_forced_closures_total" "reason" reason.label
  | .disagreements => "stream_registry_inconsistencies_total"

/-- The values of all series that have been used. -/
structure Metrics where
  counts : List (Metric × Nat) := []
  /-- The gauge of active sessions. -/
  active : Option Int := none
  deriving DecidableEq, Repr

namespace Metrics

/-- The value of a series, zero before its first use. -/
def count (metrics : Metrics) (metric : Metric) : Nat :=
  match metrics.counts.find? fun entry => entry.1 = metric with
  | some (_, n) => n
  | none => 0

/-- Adds one to a series in a list of series. -/
def bump (metric : Metric) : List (Metric × Nat) → List (Metric × Nat)
  | [] => [(metric, 1)]
  | (other, n) :: rest =>
    if other = metric then (other, n + 1) :: rest else (other, n) :: bump metric rest

/-- Adds one to a series. -/
def increment (metrics : Metrics) (metric : Metric) : Metrics :=
  { metrics with counts := bump metric metrics.counts }

/-- Moves the gauge of active sessions. -/
def moveActive (metrics : Metrics) (change : Int) : Metrics :=
  { metrics with active := some (metrics.active.getD 0 + change) }

/-- The name of the gauge. -/
def activeSeries : String := "stream_sessions_active"

/-- The sample lines of all series. -/
def samples (metrics : Metrics) : List String :=
  let line (series value : String) : String := series ++ " " ++ value
  metrics.counts.map (fun (metric, n) => line metric.series (toString n)) ++
    match metrics.active with
    | some value => [line activeSeries (toString value)]
    | none => []

/-- The text that is served to operators. -/
def text (metrics : Metrics) : String :=
  String.join (metrics.samples.map (· ++ "\n"))

end Metrics

end LiveCounter
