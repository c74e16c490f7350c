import Turnstile.Gateway.State

/-!
# Housekeeping

From time to time the service drops leases that ran out and forgets players that
have been silent for long.

Main definitions:

- `Gateway.tidy`: one round.
- `Housekeeper`: when the next round is due, and `Housekeeper.poll`.
-/

namespace Turnstile

/-- One round of housekeeping.  Players are forgotten only when a time for it is
set. -/
def Gateway.tidy (gateway : Gateway) (idleTtl : Option Span) (now : Instant) (wall : WallTime) :
    Gateway :=
  let (_, leases) := gateway.leases.purge now
  let gateway := { gateway with leases := leases }
  match idleTtl with
  | none => gateway
  | some idle =>
      let (_, tracker) := gateway.tracker.evictIdle wall idle
      { gateway with tracker := tracker }

/-- A task that does a round each interval. -/
structure Housekeeper where
  /-- The time between two rounds in nanoseconds. -/
  interval : Nat
  idleTtl : Option Span
  /-- When the next round is due. -/
  due : Instant
deriving DecidableEq, Repr

namespace Housekeeper

/-- A task whose first round is due at once. -/
def start (settings : Settings) (now : Instant) : Housekeeper where
  interval := settings.housekeepingInterval
  idleTtl := settings.playerIdleTtl
  due := now

/-- How late a round may be and still count as on time, in nanoseconds. -/
def tolerance : Nat := 5 * nanosPerMilli

/-- The time of the round after one that was due and is done now.  It is an
interval after the time it was due or, when it came late, after now. -/
def nextDue (housekeeper : Housekeeper) (now : Instant) : Instant :=
  if housekeeper.due + tolerance < now then now + housekeeper.interval
  else housekeeper.due + housekeeper.interval

/-- Does a round when one is due. -/
def poll (housekeeper : Housekeeper) (gateway : Gateway) (now : Instant) (wall : WallTime) :
    Housekeeper × Gateway :=
  if housekeeper.due ≤ now then
    ({ housekeeper with due := housekeeper.nextDue now },
      gateway.tidy housekeeper.idleTtl now wall)
  else (housekeeper, gateway)

end Housekeeper

end Turnstile
