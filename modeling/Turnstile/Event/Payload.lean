import Turnstile.Json.Value

/-!
# Gameplay events

What a player did, who did it and when, as far as the score and the fairness
rules need to know.

Main definitions:

- `Event`: a gameplay event, and `Event.scoreDelta`.
- `Event.toJson`: its JSON form, with the members in a fixed order.
-/

namespace Turnstile

open Json (Value)

/-! ## Kinds -/

/-- The kinds of events. -/
inductive EventKind
  | progression
  | bossKill
  | dropClaimed
deriving DecidableEq, Repr

namespace EventKind

/-- The name of a kind in a text. -/
def name : EventKind → String
  | progression => "progression"
  | bossKill => "boss_kill"
  | dropClaimed => "drop_claimed"

/-- Every kind. -/
def all : List EventKind := [progression, bossKill, dropClaimed]

/-- The kind of a name. -/
def ofName? (name : String) : Option EventKind :=
  all.find? fun kind => kind.name == name

end EventKind

/-! ## Payloads -/

/-- A player gained experience. -/
structure Progression where
  deltaXp : Int
  activity : Option String
deriving DecidableEq, Repr

/-- A player took part in killing a boss. -/
structure BossKill where
  bossId : String
  tier : Option Nat
  points : Int
deriving DecidableEq, Repr

/-- A player claimed a drop. -/
structure DropClaim where
  dropId : String
  weight : Option Binary64
  source : Option String
deriving DecidableEq, Repr

/-- What an event says beyond player and time. -/
inductive Payload
  | progression (p : Progression)
  | bossKill (p : BossKill)
  | dropClaim (p : DropClaim)
deriving DecidableEq, Repr

/-- The kind of event that carries a payload. -/
def Payload.kind : Payload → EventKind
  | .progression _ => .progression
  | .bossKill _ => .bossKill
  | .dropClaim _ => .dropClaimed

/-- What an accepted event adds to the score of its player. -/
def Payload.scoreDelta : Payload → Int
  | .progression p => p.deltaXp
  | .bossKill p => p.points
  | .dropClaim _ => 0

/-- A gameplay event. -/
structure Event where
  playerId : String
  timestamp : Int
  payload : Payload
deriving DecidableEq, Repr

/-- The kind of an event. -/
def Event.kind (event : Event) : EventKind :=
  event.payload.kind

/-- What an accepted event adds to the score of its player. -/
def Event.scoreDelta (event : Event) : Int :=
  event.payload.scoreDelta

/-! ## JSON form -/

/-- The JSON form of a progression. -/
def Progression.toJson (p : Progression) : Value :=
  .object [("deltaXp", .ofInt p.deltaXp), ("activity", .ofOption .text p.activity)]

/-- The JSON form of a boss kill. -/
def BossKill.toJson (p : BossKill) : Value :=
  .object [("bossId", .text p.bossId), ("tier", .ofOption (fun n : Nat => .ofInt n) p.tier),
    ("points", .ofInt p.points)]

/-- The JSON form of a drop claim. -/
def DropClaim.toJson (p : DropClaim) : Value :=
  .object [("dropId", .text p.dropId),
    ("weight", .ofOption (fun x => .number (.real x)) p.weight),
    ("source", .ofOption .text p.source)]

/-- The JSON form of a payload. -/
def Payload.toJson : Payload → Value
  | .progression p => p.toJson
  | .bossKill p => p.toJson
  | .dropClaim p => p.toJson

/-- The JSON form of an event. -/
def Event.toJson (event : Event) : Value :=
  .object [("type", .text event.kind.name), ("playerId", .text event.playerId),
    ("ts", .ofInt event.timestamp), ("payload", event.payload.toJson)]

/-- An event that was accepted, with the time of acceptance in seconds and the
score of its player after it. -/
structure AcceptedEvent where
  event : Event
  acceptedAt : Int
  cumulativeScore : Int
deriving DecidableEq, Repr

/-- The JSON form of an accepted event. -/
def AcceptedEvent.toJson (accepted : AcceptedEvent) : Value :=
  .object [("event", accepted.event.toJson), ("acceptedAt", .ofInt accepted.acceptedAt),
    ("cumulativeScore", .ofInt accepted.cumulativeScore)]

end Turnstile
