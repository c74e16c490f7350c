import Turnstile.Channel
import Turnstile.Fairness.Tracker
import Turnstile.Lease
import Turnstile.Limiter
import Turnstile.Metrics
import Turnstile.Settings

/-!
# The state of the service

Everything that the service remembers between requests: who may sign, which keys
are leased, how many tokens are left, what is known of the players, what was
counted, and the events on their way to the consumer.

Main definitions:

- `Gateway`: the state.
- `Gateway.start`: the state at the start, unless the settings ask for too much.
-/

namespace Turnstile

/-- The state of the service. -/
structure Gateway where
  verifier : Verifier
  leases : LeaseStore
  limiter : TokenBucket Binary64
  tracker : Tracker
  metrics : Metrics
  /-- Accepted events that were handed over but have not reached the channel. -/
  outbox : List AcceptedEvent
  channel : Channel
  maxBodyBytes : Nat

/-- The state at the start.  `route` tells the tracker's shard of each player, and
the token bucket is full at the time `now`. -/
def Gateway.start (settings : Settings) (route : String → Nat) (now : Instant) :
    Except StartFault Gateway := do
  let channel ← Channel.create settings.consumerCapacity
  if maxPermits < settings.maxConcurrentForwards then .error .tooManyPermits
  else
    return {
      verifier := settings.verifier
      leases := LeaseStore.new settings.leaseTtl
      limiter := TokenBucket.new settings.rateLimitRps settings.rateLimitBurst now
      tracker := Tracker.new settings.policy route settings.playerShards
      metrics := Metrics.initial
      outbox := []
      channel := channel
      maxBodyBytes := settings.maxBodyBytes }

/-- Hands an accepted event over, to be sent when there is time for it. -/
def Gateway.forward (gateway : Gateway) (accepted : AcceptedEvent) : Gateway :=
  { gateway with outbox := gateway.outbox ++ [accepted] }

/-- Sends every event that was handed over, in order. -/
def Gateway.deliver (gateway : Gateway) : Gateway :=
  { gateway with outbox := [], channel := gateway.outbox.foldl Channel.offer gateway.channel }

end Turnstile
