import Turnstile.Fairness.Record
import Turnstile.Table

/-!
# The player tracker

The records of all players, spread over shards: a route tells the shard of each
player.  Operations on one player go to its shard, the others visit all shards.

Main definitions:

- `Tracker.check`, `unblock`, `snapshot?`, `blockedPlayers`, `evictIdle`, `size`.
- `Tracker.Op`, `Tracker.step`, `Tracker.run`: the operations as data.
-/

namespace Turnstile

/-- The records of all players. -/
structure Tracker where
  policy : Policy
  /-- A number for each player, which tells the shard. -/
  route : String → Nat
  shards : List (Table Activity)

namespace Tracker

/-- A tracker without records; it has one shard at least.  Memory is taken as unbounded, and so
is the number of shards that can be asked for. -/
def new (policy : Policy) (route : String → Nat) (shardCount : Nat) : Tracker where
  policy := policy
  route := route
  shards := List.replicate (max shardCount 1) Table.empty

/-! ## Records -/

/-- The place of a player's shard. -/
def slot (tracker : Tracker) (playerId : String) : Nat :=
  tracker.route playerId % tracker.shards.length

/-- The record of a player. -/
def record? (tracker : Tracker) (playerId : String) : Option Activity :=
  (tracker.shards.getD (tracker.slot playerId) Table.empty).get? playerId

/-- Files the record of a player. -/
def store (tracker : Tracker) (playerId : String) (activity : Activity) : Tracker :=
  { tracker with
    shards := tracker.shards.modify (tracker.slot playerId) fun shard =>
      shard.insert playerId activity }

/-- The number of records. -/
def size (tracker : Tracker) : Nat :=
  tracker.shards.foldl (fun count shard => count + shard.size) 0

/-! ## Operations -/

/-- Judges an event and keeps the record that it leaves. -/
def check (tracker : Tracker) (event : Event) (now : WallTime) : Verdict × Tracker :=
  let activity := (tracker.record? event.playerId).getD (Activity.fresh now)
  let (verdict, activity) := activity.judge tracker.policy event now
  (verdict, tracker.store event.playerId activity)

/-- Lifts the block of a player, whatever it is; `none` for a stranger. -/
def unblock (tracker : Tracker) (playerId : String) (now : WallTime) :
    Option Snapshot × Tracker :=
  match tracker.record? playerId with
  | none => (none, tracker)
  | some activity =>
      let cleared := activity.clear
      (some (cleared.snapshot playerId tracker.policy now), tracker.store playerId cleared)

/-- What a reader sees of a player. -/
def snapshot? (tracker : Tracker) (playerId : String) (now : WallTime) : Option Snapshot :=
  (tracker.record? playerId).map fun activity => activity.snapshot playerId tracker.policy now

/-- The players of a shard whose block is in force. -/
def blockedIn (policy : Policy) (now : WallTime) (shard : Table Activity) : List Snapshot :=
  (shard.entries.filter fun (_, activity) => (activity.blockAt? now).isSome).map
    fun (playerId, activity) => activity.snapshot playerId policy now

/-- The players whose block is in force, in the order of their ids. -/
def blockedPlayers (tracker : Tracker) (now : WallTime) : List Snapshot :=
  (tracker.shards.flatMap (blockedIn tracker.policy now)).mergeSort
    fun a b => decide (a.playerId ≤ b.playerId)

/-- Whether a record is kept at a time when players silent for `idle` are dropped:
while its block is in force, or its player is not silent for so long. -/
def outlives (now : WallTime) (idle : Span) (activity : Activity) : Bool :=
  (activity.blockAt? now).isSome || now - activity.lastSeen < idle

/-- Drops the records of players that have been silent for `idle` and are not
blocked, and tells how many there were. -/
def evictIdle (tracker : Tracker) (now : WallTime) (idle : Span) : Nat × Tracker :=
  let kept :=
    { tracker with
      shards := tracker.shards.map fun shard => shard.filter fun _ => outlives now idle }
  (tracker.size - kept.size, kept)

/-! ## Operations as data -/

/-- An operation on a tracker. -/
inductive Op
  | check (event : Event) (now : WallTime)
  | unblock (playerId : String) (now : WallTime)
  | snapshot (playerId : String) (now : WallTime)
  | blockedPlayers (now : WallTime)
  | evictIdle (now : WallTime) (idle : Span)
  | size
deriving DecidableEq, Repr

/-- What an operation answers. -/
inductive Answer
  | verdict (verdict : Verdict)
  | unblocked (snapshot : Option Snapshot)
  | snapshot (snapshot : Option Snapshot)
  | blockedPlayers (snapshots : List Snapshot)
  | evicted (count : Nat)
  | size (count : Nat)
deriving DecidableEq, Repr

/-- Carries out an operation. -/
def step (tracker : Tracker) : Op → Answer × Tracker
  | .check event now =>
      let (verdict, tracker) := tracker.check event now
      (.verdict verdict, tracker)
  | .unblock playerId now =>
      let (snapshot, tracker) := tracker.unblock playerId now
      (.unblocked snapshot, tracker)
  | .snapshot playerId now => (.snapshot (tracker.snapshot? playerId now), tracker)
  | .blockedPlayers now => (.blockedPlayers (tracker.blockedPlayers now), tracker)
  | .evictIdle now idle =>
      let (count, tracker) := tracker.evictIdle now idle
      (.evicted count, tracker)
  | .size => (.size tracker.size, tracker)

/-- Carries out operations one after the other. -/
def run (tracker : Tracker) : List Op → List Answer × Tracker
  | [] => ([], tracker)
  | op :: ops =>
      let (answer, tracker) := tracker.step op
      let (answers, tracker) := tracker.run ops
      (answer :: answers, tracker)

end Tracker

end Turnstile
