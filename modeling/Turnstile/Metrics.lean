import Turnstile.Binary64.Shortest
import Turnstile.Rejection
import Turnstile.Table

/-!
# Metrics

Counters and gauges of the service, and their exposition as text: the families in
the order of their names, the series of a family in the order of their labels,
and no family without a series.

Main definitions:

- `Metrics.recordApproved`, `Metrics.recordRejection`.
- `Metrics.render`: the exposition.
-/

namespace Turnstile

/-- Counters by label and the two gauges. -/
structure Metrics where
  eventsProcessed : Table Nat
  droppedEvents : Table Nat
  anomalyFlags : Table Nat
  trackedPlayers : Nat
  liveLeases : Nat

namespace Metrics

/-- Nothing counted yet. -/
def initial : Metrics where
  eventsProcessed := Table.empty
  droppedEvents := Table.empty
  anomalyFlags := Table.empty
  trackedPlayers := 0
  liveLeases := 0

/-! ## Counting -/

/-- The value of a counter. -/
def count (counter : Table Nat) (label : String) : Nat :=
  (counter.get? label).getD 0

/-- One more under a label. -/
def increment (counter : Table Nat) (label : String) : Table Nat :=
  counter.insert label (count counter label + 1)

/-- Counts an event that was approved. -/
def recordApproved (metrics : Metrics) : Metrics :=
  { metrics with eventsProcessed := increment metrics.eventsProcessed "approved" }

/-- The label of the detector that a rejection tripped. -/
def flag? : Rejection → Option String
  | .fairness (.eventFlood _) => some BlockReason.eventFlood.name
  | .fairness (.scoreAnomaly _) => some BlockReason.scoreAnomaly.name
  | _ => none

/-- Counts a rejection: under its code, and under the detector that it tripped.
An unknown player is no rejected event. -/
def recordRejection (metrics : Metrics) (rejection : Rejection) : Metrics :=
  if rejection = .playerNotFound then metrics
  else
    { metrics with
      eventsProcessed := increment metrics.eventsProcessed "rejected"
      droppedEvents := increment metrics.droppedEvents rejection.code
      anomalyFlags :=
        match flag? rejection with
        | some label => increment metrics.anomalyFlags label
        | none => metrics.anomalyFlags }

/-- The greatest value of a gauge. -/
def maxGauge : Nat := 0x7FFFFFFFFFFFFFFF

/-- Sets the number of players with a record. -/
def setTrackedPlayers (metrics : Metrics) (n : Nat) : Metrics :=
  { metrics with trackedPlayers := min n maxGauge }

/-- Sets the number of leases. -/
def setLiveLeases (metrics : Metrics) (n : Nat) : Metrics :=
  { metrics with liveLeases := min n maxGauge }

/-! ## Exposition -/

/-- A value as the exposition shows it: a binary64 number without a power of ten. -/
def valueText (n : Nat) : String :=
  String.ofList (Binary64.ofNat n).toPlainText

/-- The two lines in front of a family. -/
def header (name kind help : String) : String :=
  "# HELP " ++ name ++ " " ++ help ++ "\n# TYPE " ++ name ++ " " ++ kind ++ "\n"

/-- A gauge. -/
def gaugeText (name help : String) (n : Nat) : String :=
  header name "gauge" help ++ name ++ " " ++ valueText n ++ "\n"

/-- One series of a counter. -/
def seriesText (name label : String) (entry : String × Nat) : String :=
  name ++ "\x7b" ++ label ++ "=\"" ++ entry.1 ++ "\"\x7d " ++ valueText entry.2 ++ "\n"

/-- A counter with its series in the order of their labels, or nothing when there
are none. -/
def counterText (name help label : String) (counter : Table Nat) : String :=
  match counter.entries.mergeSort fun a b => decide (a.1 ≤ b.1) with
  | [] => ""
  | series => header name "counter" help ++ String.join (series.map (seriesText name label))

/-- The exposition. -/
def render (metrics : Metrics) : String :=
  counterText "anomaly_flags_total" "Fairness detector trips, by detector" "type"
      metrics.anomalyFlags ++
    counterText "dropped_events_total" "Rejected events, by rejection reason" "reason"
      metrics.droppedEvents ++
    counterText "events_processed_total"
      "Events that reached the admission pipeline, by outcome" "status"
      metrics.eventsProcessed ++
    gaugeText "live_leases" "Idempotency keys currently leased" metrics.liveLeases ++
    gaugeText "tracked_players" "Players with an activity record" metrics.trackedPlayers

end Metrics

end Turnstile
