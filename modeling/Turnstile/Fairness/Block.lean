import Turnstile.Json.Value
import Turnstile.Time

/-!
# Blocks

A player is active, or blocked for a reason until some time.

Main definitions:

- `BlockReason`, `BlockState`: the two notions and their names.
- `Violation`: an event that the fairness rules refuse.
-/

namespace Turnstile

/-- Why a player is blocked. -/
inductive BlockReason
  /-- Too many events in one window. -/
  | eventFlood
  /-- Too large a gain at once. -/
  | scoreAnomaly
deriving DecidableEq, Repr

namespace BlockReason

/-- The name of a reason in a text. -/
def name : BlockReason → String
  | eventFlood => "event_flood"
  | scoreAnomaly => "score_anomaly"

/-- Every reason. -/
def all : List BlockReason := [eventFlood, scoreAnomaly]

/-- The reason of a name. -/
def ofName? (name : String) : Option BlockReason :=
  all.find? fun reason => reason.name == name

end BlockReason

/-- Whether a player may act. -/
inductive BlockState
  | active
  | blocked
deriving DecidableEq, Repr

namespace BlockState

/-- The name of a state in a text. -/
def name : BlockState → String
  | active => "Active"
  | blocked => "Blocked"

/-- Every state. -/
def all : List BlockState := [active, blocked]

end BlockState

/-- A block that is in force: its reason, and the time from which it is not. -/
structure Block where
  reason : BlockReason
  endsAt : WallTime
deriving DecidableEq, Repr

/-- Why the fairness rules refuse an event, with the end of the block. -/
inductive Violation
  /-- The event was one too many in its window. -/
  | eventFlood (endsAt : WallTime)
  /-- The event gained too much at once. -/
  | scoreAnomaly (endsAt : WallTime)
  /-- The player was blocked already. -/
  | blocked (block : Block)
deriving DecidableEq, Repr

namespace Violation

/-- The end of the block. -/
def endsAt : Violation → WallTime
  | eventFlood t => t
  | scoreAnomaly t => t
  | blocked block => block.endsAt

/-- The reason of a block that was there before the event. -/
def reason? : Violation → Option BlockReason
  | blocked block => some block.reason
  | _ => none

end Violation

end Turnstile
