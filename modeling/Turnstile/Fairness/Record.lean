import Turnstile.Event.Payload
import Turnstile.Fairness.Block

/-!
# Activity records

What is remembered of a player: the events counted in the current window, the
score, and whether there is a block.  A record is only ever changed by judging an
event or by an operator who lifts the block.

Main definitions:

- `Policy`: the limits.
- `Activity.judge`: admits or refuses an event.
- `Activity.snapshot`: what a reader sees at some time.
-/

namespace Turnstile

open Json (Value)

/-! ## Limits -/

/-- The limits of the fairness rules. -/
structure Policy where
  /-- Events allowed inside one window. -/
  anomalyThreshold : Nat
  /-- The largest gain of a single progression. -/
  scoreThreshold : Int
  /-- How long a flood blocks. -/
  floodBlock : Span
  /-- How long an anomalous gain blocks. -/
  scoreBlock : Span
  /-- The length of a window. -/
  window : Span
deriving DecidableEq, Repr

/-- The limits that hold unless others are set. -/
def Policy.standard : Policy where
  anomalyThreshold := 10
  scoreThreshold := 1000
  floodBlock := 300 * nanosPerSecond
  scoreBlock := 600 * nanosPerSecond
  window := nanosPerSecond

/-! ## Bounded numbers -/

/-- The greatest count of events. -/
def maxCount : Nat := 0xFFFFFFFF

/-- The next count; the greatest stays. -/
def nextCount (count : Nat) : Nat :=
  min (count + 1) maxCount

/-- The greatest score. -/
def maxScore : Int := 0x7FFFFFFFFFFFFFFF

/-- The least score. -/
def minScore : Int := -0x8000000000000000

/-- A score after a gain, which stays inside the bounds. -/
def addScore (score delta : Int) : Int :=
  max minScore (min maxScore (score + delta))

/-! ## Records -/

/-- What is remembered of a player. -/
structure Activity where
  windowStart : WallTime
  count : Nat
  score : Int
  /-- The latest block; it may be over. -/
  block : Option Block
  lastSeen : WallTime
deriving DecidableEq, Repr

/-- An event that was admitted: when, and the score after it. -/
structure Admission where
  acceptedAt : WallTime
  cumulativeScore : Int
deriving DecidableEq, Repr

/-- What becomes of an event. -/
inductive Verdict
  | admitted (admission : Admission)
  | refused (violation : Violation)
  /-- A block would end outside the calendar. -/
  | stuck (fault : ClockFault)
deriving DecidableEq, Repr

namespace Activity

/-- The record of a player seen for the first time. -/
def fresh (now : WallTime) : Activity where
  windowStart := now
  count := 0
  score := 0
  block := none
  lastSeen := now

/-- The block that is in force at a time. -/
def blockAt? (activity : Activity) (now : WallTime) : Option Block :=
  activity.block.filter fun block => now < block.endsAt

/-- A record without its block; the counters start again. -/
def clear (activity : Activity) : Activity :=
  { activity with block := none, count := 0, score := 0 }

/-- A record in front of a new event: a block that is over is cleared, and the
player has been seen. -/
def arrive (activity : Activity) (now : WallTime) : Activity :=
  { (if activity.block.isSome then activity.clear else activity) with lastSeen := now }

/-- Counts an event.  Inside the window it is one more; a clock that was set back
moves the start of the window with it; behind the window a new one starts. -/
def tally (policy : Policy) (now : WallTime) (activity : Activity) : Activity :=
  let elapsed := now - activity.windowStart
  if elapsed < policy.window then
    { activity with
      windowStart := if elapsed < 0 then now else activity.windowStart
      count := nextCount activity.count }
  else { activity with windowStart := now, count := 1 }

/-- Whether an event is one too many: only inside a window can it be. -/
def floods (policy : Policy) (now : WallTime) (activity : Activity) : Bool :=
  now - activity.windowStart < policy.window &&
    policy.anomalyThreshold < nextCount activity.count

/-- Whether an event gains too much at once. -/
def anomalous (policy : Policy) (event : Event) : Bool :=
  match event.payload with
  | .progression p => policy.scoreThreshold < p.deltaXp
  | _ => false

/-- Puts a block on a record. -/
def impose (activity : Activity) (now : WallTime) (length : Span) (reason : BlockReason)
    (violation : WallTime → Violation) : Verdict × Activity :=
  match now.shift? length with
  | some endsAt => (.refused (violation endsAt), { activity with block := some ⟨reason, endsAt⟩ })
  | none => (.stuck .calendar, activity)

/-- Judges an event of the player at some time. -/
def judge (policy : Policy) (event : Event) (now : WallTime) (activity : Activity) :
    Verdict × Activity :=
  match activity.blockAt? now with
  | some block => (.refused (.blocked block), activity)
  | none =>
      let arrived := activity.arrive now
      let counted := arrived.tally policy now
      if arrived.floods policy now then
        counted.impose now policy.floodBlock .eventFlood .eventFlood
      else if anomalous policy event then
        counted.impose now policy.scoreBlock .scoreAnomaly .scoreAnomaly
      else
        let score := addScore counted.score event.scoreDelta
        (.admitted ⟨now, score⟩, { counted with score := score })

end Activity

/-! ## Snapshots -/

/-- What a reader sees of a player at some time. -/
structure Snapshot where
  playerId : String
  block : Option Block
  windowStart : WallTime
  eventCountInWindow : Nat
  cumulativeScore : Int
  lastSeen : WallTime
deriving DecidableEq, Repr

/-- Active or blocked. -/
def Snapshot.state (snapshot : Snapshot) : BlockState :=
  if snapshot.block.isSome then .blocked else .active

/-- The JSON form of a snapshot, times in whole seconds. -/
def Snapshot.toJson (snapshot : Snapshot) : Value :=
  .object [("playerId", .text snapshot.playerId),
    ("blockState", .text snapshot.state.name),
    ("blockReason", .ofOption (fun block => .text block.reason.name) snapshot.block),
    ("blockedUntil", .ofOption (fun block => .ofInt block.endsAt.seconds) snapshot.block),
    ("windowStart", .ofInt snapshot.windowStart.seconds),
    ("eventCountInWindow", .ofInt snapshot.eventCountInWindow),
    ("cumulativeScore", .ofInt snapshot.cumulativeScore),
    ("lastSeen", .ofInt snapshot.lastSeen.seconds)]

/-- What a reader sees of a record: a block that is over no longer shows, nor do
the counters under it, and events of an old window do not count. -/
def Activity.snapshot (activity : Activity) (playerId : String) (policy : Policy)
    (now : WallTime) : Snapshot :=
  let view :=
    if activity.block.isSome && (activity.blockAt? now).isNone then activity.clear else activity
  { playerId := playerId
    block := view.block
    windowStart := view.windowStart
    eventCountInWindow := if policy.window ≤ now - view.windowStart then 0 else view.count
    cumulativeScore := view.score
    lastSeen := view.lastSeen }

end Turnstile
