import Turnstile.Proofs.Gateway.Steps

/-!
# What a passage has done

A passage that runs alone has come to a stage through the stages before it.  What
these did to the service is said here stage by stage, as effects on the state that
the passage began with, and shown to be kept by every step.

Main definitions and results:

- `LeaseStore.Leased`: what leasing the key of a submission leaves.
- `Gateway.Leasing`, `Gateway.Metering`: the passages that come so far.
- `Gateway.Decided`: the ways in which the outcome can be found, each with the state
  that it leaves.
- `Gateway.Reached`, `Gateway.Reached.stepped`: what was done before a stage, and that
  a step keeps to it.
- `Gateway.process_decided`: how a whole passage ends.
-/

namespace Turnstile

/-- A token that was granted is taken after the refill. -/
theorem TokenBucket.tryAcquire_of_granted {α : Type} [TokenArithmetic α] {bucket : TokenBucket α}
    {now : Instant} (h : (bucket.tryAcquire now).1 = true) :
    bucket.tryAcquire now = (true, (bucket.refill now).deduct) := by
  unfold tryAcquire at h ⊢
  dsimp only at h ⊢
  split
  · rfl
  · rename_i hnone
    simp [hnone] at h

/-- Where there is no token, the refill is all that happens. -/
theorem TokenBucket.tryAcquire_of_refused {α : Type} [TokenArithmetic α] {bucket : TokenBucket α}
    {now : Instant} (h : (bucket.tryAcquire now).1 = false) :
    bucket.tryAcquire now = (false, bucket.refill now) := by
  unfold tryAcquire at h ⊢
  dsimp only at h ⊢
  split
  · rename_i htoken
    simp [htoken] at h
  · rfl

/-- Leasing the key of a submission leaves a guard, if there is a key, and a store. -/
inductive LeaseStore.Leased (before : LeaseStore) (now : Instant) :
    Option String → Option Guard → LeaseStore → Prop
  /-- There is no key, and nothing is leased. -/
  | unkeyed : Leased before now none none before
  /-- Nobody held the key. -/
  | keyed {key : String} {expiry : Instant} (hfree : before.isHeld key now = false)
      (hend : now.later? before.ttl = some expiry) :
      Leased before now (some key) (some ⟨key, before.lastId + 1⟩)
        { before with
          lastId := before.lastId + 1
          live := before.live.insert key ⟨before.lastId + 1, expiry⟩ }

namespace Gateway

section Passage

variable (before : Gateway) (submission : Submission) (readings : Readings)

/-- The token bucket after a request for a token that was granted. -/
def metered : TokenBucket Binary64 :=
  (before.limiter.refill readings.limiterAt).deduct

/-- A passage that passed the checks and leased its key. -/
structure Leasing (guard : Option Guard) (leases : LeaseStore) : Prop where
  genuine : before.authenticate submission = .authenticated
  leased : before.leases.Leased readings.leaseAt submission.idempotencyKey guard leases

/-- A passage that took a token as well. -/
structure Metering (guard : Option Guard) (leases : LeaseStore) : Prop
    extends before.Leasing submission readings guard leases where
  allowed : (before.limiter.tryAcquire readings.limiterAt).1 = true

/-- The ways in which the outcome of a passage can be found: the guard that is still to
be given back, the outcome, and the state at that point. -/
inductive Decided : Option Guard → Outcome → Gateway → Prop
  /-- The body is not declared as JSON. -/
  | unsupported (hjson : submission.isJson = false) :
      Decided none (.rejected .unsupportedMediaType) before
  /-- The signature is missing or wrong. -/
  | unsigned {error : SignatureError}
      (hverify : before.verifier.verify submission.signature submission.method submission.path
        submission.body = .error error) :
      Decided none (.rejected (.signature error)) before
  /-- Somebody holds the key. -/
  | duplicate {key : String} (hgenuine : before.authenticate submission = .authenticated)
      (hkey : submission.idempotencyKey = some key)
      (hheld : before.leases.isHeld key readings.leaseAt = true) :
      Decided none (.rejected .duplicateRequest) before
  /-- The lease would end beyond the clock. -/
  | unleased {key : String} (hgenuine : before.authenticate submission = .authenticated)
      (hkey : submission.idempotencyKey = some key)
      (hend : readings.leaseAt.later? before.leases.ttl = none) :
      Decided none (.crashed .monotonic)
        { before with leases := { before.leases with lastId := before.leases.lastId + 1 } }
  /-- There is no token. -/
  | limited {guard : Option Guard} {leases : LeaseStore}
      (hleasing : before.Leasing submission readings guard leases)
      (hnone : (before.limiter.tryAcquire readings.limiterAt).1 = false) :
      Decided guard (.rejected .rateLimited)
        { before with leases := leases, limiter := before.limiter.refill readings.limiterAt }
  /-- The body is no event. -/
  | unread {guard : Option Guard} {leases : LeaseStore} {error : EventError}
      (hmetering : before.Metering submission readings guard leases)
      (hparse : Event.parse submission.body = .error error) :
      Decided guard (.rejected (.invalidEvent error.message))
        { before with leases := leases, limiter := before.metered readings }
  /-- The event is against the rules. -/
  | refused {guard : Option Guard} {leases : LeaseStore} {event : Event} {violation : Violation}
      (hmetering : before.Metering submission readings guard leases)
      (hparse : Event.parse submission.body = .ok event)
      (hverdict : (before.tracker.check event readings.wallAt).1 = .refused violation) :
      Decided guard (.rejected (.fairness violation))
        { before with
          leases := leases
          limiter := before.metered readings
          tracker := (before.tracker.check event readings.wallAt).2 }
  /-- The event is admitted and forwarded. -/
  | admitted {guard : Option Guard} {leases : LeaseStore} {event : Event} {admission : Admission}
      (hmetering : before.Metering submission readings guard leases)
      (hparse : Event.parse submission.body = .ok event)
      (hverdict : (before.tracker.check event readings.wallAt).1 = .admitted admission) :
      Decided guard
        (.approved ⟨event.playerId, event.kind, admission.acceptedAt.seconds⟩)
        { before with
          leases := leases
          limiter := before.metered readings
          tracker := (before.tracker.check event readings.wallAt).2
          outbox := before.outbox ++
            [⟨event, admission.acceptedAt.seconds, admission.cumulativeScore⟩] }
  /-- A block would end beyond the calendar. -/
  | unended {guard : Option Guard} {leases : LeaseStore} {event : Event} {fault : ClockFault}
      (hmetering : before.Metering submission readings guard leases)
      (hparse : Event.parse submission.body = .ok event)
      (hverdict : (before.tracker.check event readings.wallAt).1 = .stuck fault) :
      Decided guard (.crashed fault)
        { before with
          leases := leases
          limiter := before.metered readings
          tracker := (before.tracker.check event readings.wallAt).2 }

/-- What a passage has done when it comes to a stage. -/
inductive Reached : Stage → Gateway → Prop
  | received : Reached .received before
  | authenticated (hgenuine : before.authenticate submission = .authenticated) :
      Reached .authenticated before
  | leased {guard : Option Guard} {leases : LeaseStore}
      (hleasing : before.Leasing submission readings guard leases) :
      Reached (.leased guard) { before with leases := leases }
  | metered {guard : Option Guard} {leases : LeaseStore}
      (hmetering : before.Metering submission readings guard leases) :
      Reached (.metered guard) { before with leases := leases, limiter := before.metered readings }
  | parsed {guard : Option Guard} {leases : LeaseStore} {event : Event}
      (hmetering : before.Metering submission readings guard leases)
      (hparse : Event.parse submission.body = .ok event) :
      Reached (.parsed guard event)
        { before with leases := leases, limiter := before.metered readings }
  | decided {guard : Option Guard} {outcome : Outcome} {gateway : Gateway}
      (hdecided : before.Decided submission readings guard outcome gateway) :
      Reached (.decided guard outcome) gateway
  | finished {guard : Option Guard} {outcome : Outcome} {gateway : Gateway}
      (hdecided : before.Decided submission readings guard outcome gateway) :
      Reached (.finished outcome) (gateway.giveBack guard)

end Passage

namespace Reached

variable {before gateway : Gateway} {submission : Submission} {readings : Readings}

/-- What a passage has done at a stage, and a step from there, are what it has done at the
next stage. -/
theorem stepped {stage next : Stage} {after : Gateway}
    (h : before.Reached submission readings stage gateway)
    (hstep : gateway.Stepped submission readings stage next after) :
    before.Reached submission readings next after := by
  cases h with
  | received =>
      cases hstep with
      | unsupported hjson => exact .decided (.unsupported hjson)
      | unsigned hverify => exact .decided (.unsigned hverify)
      | genuine hjson hverify =>
          exact .authenticated (by simp [Gateway.authenticate, hjson, hverify])
  | authenticated hgenuine =>
      cases hstep with
      | unkeyed hkey => exact .leased ⟨hgenuine, hkey ▸ .unkeyed⟩
      | duplicate hkey hheld => exact .decided (.duplicate hgenuine hkey hheld)
      | keyed hkey hfree hend => exact .leased ⟨hgenuine, hkey ▸ .keyed hfree hend⟩
      | unleased hkey _ hend => exact .decided (.unleased hgenuine hkey hend)
  | leased hleasing =>
      cases hstep with
      | metered hallowed =>
          have hgranted := congrArg Prod.fst hallowed
          obtain rfl := congrArg Prod.snd
            (hallowed.symm.trans (TokenBucket.tryAcquire_of_granted hgranted))
          exact .metered { hleasing with allowed := hgranted }
      | limited hnone =>
          have hrefused := congrArg Prod.fst hnone
          obtain rfl := congrArg Prod.snd
            (hnone.symm.trans (TokenBucket.tryAcquire_of_refused hrefused))
          exact .decided (.limited hleasing hrefused)
  | metered hmetering =>
      cases hstep with
      | parsed hparse => exact .parsed hmetering hparse
      | unread hparse => exact .decided (.unread hmetering hparse)
  | parsed hmetering hparse =>
      cases hstep with
      | admitted hverdict =>
          obtain rfl := congrArg Prod.snd hverdict
          exact .decided (.admitted hmetering hparse (congrArg Prod.fst hverdict))
      | refused hverdict =>
          obtain rfl := congrArg Prod.snd hverdict
          exact .decided (.refused hmetering hparse (congrArg Prod.fst hverdict))
      | unended hverdict =>
          obtain rfl := congrArg Prod.snd hverdict
          exact .decided (.unended hmetering hparse (congrArg Prod.fst hverdict))
  | decided hdecided =>
      cases hstep with
      | returned | unguarded => exact .finished hdecided
  | finished hdecided =>
      cases hstep with
      | ended => exact .finished hdecided

/-- What a passage has done at a stage, and its next step, are what it has done at the stage
to which that leads. -/
theorem advance {stage : Stage} (h : before.Reached submission readings stage gateway) :
    before.Reached submission readings (gateway.advance submission readings stage).1
      (gateway.advance submission readings stage).2 :=
  h.stepped (gateway.stepped submission readings stage)

/-- What a passage has done at a stage, and all steps from there, are what it has done at the
end. -/
theorem complete {stage : Stage} (h : before.Reached submission readings stage gateway)
    {steps : Nat} (hsteps : stage.remaining ≤ steps) :
    before.Reached submission readings
      (.finished (complete submission readings steps stage hsteps gateway).1)
      (complete submission readings steps stage hsteps gateway).2 := by
  induction steps generalizing stage gateway with
  | zero =>
      cases stage with
      | finished outcome => exact h
      | _ => simp [Stage.remaining] at hsteps
  | succ steps ih =>
      cases stage with
      | finished outcome => exact h
      | _ => exact ih h.advance _

end Reached

/-- A whole passage finds its outcome in one of these ways and gives its guard back. -/
theorem process_decided (gateway : Gateway) (submission : Submission) (readings : Readings) :
    ∃ guard after,
      gateway.Decided submission readings guard (gateway.process submission readings).1 after ∧
        (gateway.process submission readings).2 = after.giveBack guard := by
  have hend : gateway.Reached submission readings
      (.finished (gateway.process submission readings).1)
      (gateway.process submission readings).2 := Reached.received.complete (Nat.le_refl 6)
  generalize (gateway.process submission readings).1 = outcome at hend ⊢
  generalize (gateway.process submission readings).2 = last at hend ⊢
  cases hend with
  | finished hdecided => exact ⟨_, _, hdecided, rfl⟩

end Gateway

end Turnstile
