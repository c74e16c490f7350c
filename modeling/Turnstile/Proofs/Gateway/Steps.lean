import Turnstile.Gateway.Admission
import Turnstile.Proofs.Fairness.Records
import Turnstile.Proofs.Lease.Renumbering

/-!
# Steps of passages

What a single step of a passage can do, from any state of the service and whatever other
passages have done before.  What is said of steps elsewhere follows from here: what becomes
of the guard and of the leases, and that lifetimes and limits stay.

Main definitions:

- `Gateway.Stepped`: the ends of a step.
- `Gateway.Turn`: what a step does to the guard and to the leases.

Main results:

- `Gateway.stepped`, `Gateway.Stepped.turn`: every step has one of these ends.
- `Gateway.Turn.faithful`: a step keeps the leases in agreement with what was granted.
- `Gateway.Stepped.policy_eq`: a step leaves the limits as they are.
-/

namespace Turnstile

/-! ## Stages -/

/-- The guard that a passage holds. -/
def Stage.guard? : Stage → Option Guard
  | .leased guard | .metered guard | .parsed guard _ | .decided guard _ => guard
  | .received | .authenticated | .finished _ => none

/-- Whether a passage is past the lease and its outcome is not known. -/
def Stage.isUnderWay : Stage → Bool
  | .leased _ | .metered _ | .parsed _ _ => true
  | .received | .authenticated | .decided _ _ | .finished _ => false

namespace Gateway

/-! ## The ends of a step -/

/-- The ways in which a step of a passage can end: the stages before and after it, and the
state after it. -/
inductive Stepped (gateway : Gateway) (submission : Submission) (readings : Readings) :
    Stage → Stage → Gateway → Prop
  /-- The body is not declared as JSON. -/
  | unsupported (hjson : submission.isJson = false) :
      Stepped gateway submission readings .received
        (.decided none (.rejected .unsupportedMediaType)) gateway
  /-- The signature is missing or wrong. -/
  | unsigned {error : SignatureError}
      (hverify : gateway.verifier.verify submission.signature submission.method submission.path
        submission.body = .error error) :
      Stepped gateway submission readings .received
        (.decided none (.rejected (.signature error))) gateway
  /-- Content type and signature are good. -/
  | genuine (hjson : submission.isJson = true)
      (hverify : gateway.verifier.verify submission.signature submission.method submission.path
        submission.body = .ok ()) :
      Stepped gateway submission readings .received .authenticated gateway
  /-- There is no key, and nothing is leased. -/
  | unkeyed (hkey : submission.idempotencyKey = none) :
      Stepped gateway submission readings .authenticated (.leased none) gateway
  /-- Somebody holds the key. -/
  | duplicate {key : String} (hkey : submission.idempotencyKey = some key)
      (hheld : gateway.leases.isHeld key readings.leaseAt = true) :
      Stepped gateway submission readings .authenticated
        (.decided none (.rejected .duplicateRequest)) gateway
  /-- The key is leased. -/
  | keyed {key : String} {expiry : Instant} (hkey : submission.idempotencyKey = some key)
      (hfree : gateway.leases.isHeld key readings.leaseAt = false)
      (hend : readings.leaseAt.later? gateway.leases.ttl = some expiry) :
      Stepped gateway submission readings .authenticated
        (.leased (some ⟨key, gateway.leases.lastId + 1⟩))
        { gateway with
          leases := { gateway.leases with
            lastId := gateway.leases.lastId + 1
            live := gateway.leases.live.insert key ⟨gateway.leases.lastId + 1, expiry⟩ } }
  /-- The lease would end beyond the clock. -/
  | unleased {key : String} (hkey : submission.idempotencyKey = some key)
      (hfree : gateway.leases.isHeld key readings.leaseAt = false)
      (hend : readings.leaseAt.later? gateway.leases.ttl = none) :
      Stepped gateway submission readings .authenticated (.decided none (.crashed .monotonic))
        { gateway with leases := { gateway.leases with lastId := gateway.leases.lastId + 1 } }
  /-- A token is taken. -/
  | metered {guard : Option Guard} {limiter : TokenBucket Binary64}
      (hallowed : gateway.limiter.tryAcquire readings.limiterAt = (true, limiter)) :
      Stepped gateway submission readings (.leased guard) (.metered guard)
        { gateway with limiter := limiter }
  /-- There is no token. -/
  | limited {guard : Option Guard} {limiter : TokenBucket Binary64}
      (hnone : gateway.limiter.tryAcquire readings.limiterAt = (false, limiter)) :
      Stepped gateway submission readings (.leased guard)
        (.decided guard (.rejected .rateLimited)) { gateway with limiter := limiter }
  /-- The body is an event. -/
  | parsed {guard : Option Guard} {event : Event}
      (hparse : Event.parse submission.body = .ok event) :
      Stepped gateway submission readings (.metered guard) (.parsed guard event) gateway
  /-- The body is no event. -/
  | unread {guard : Option Guard} {error : EventError}
      (hparse : Event.parse submission.body = .error error) :
      Stepped gateway submission readings (.metered guard)
        (.decided guard (.rejected (.invalidEvent error.message))) gateway
  /-- The event is admitted and forwarded. -/
  | admitted {guard : Option Guard} {event : Event} {admission : Admission} {tracker : Tracker}
      (hverdict : gateway.tracker.check event readings.wallAt = (.admitted admission, tracker)) :
      Stepped gateway submission readings (.parsed guard event)
        (.decided guard (.approved ⟨event.playerId, event.kind, admission.acceptedAt.seconds⟩))
        ({ gateway with tracker := tracker }.forward
          ⟨event, admission.acceptedAt.seconds, admission.cumulativeScore⟩)
  /-- The event is against the rules. -/
  | refused {guard : Option Guard} {event : Event} {violation : Violation} {tracker : Tracker}
      (hverdict : gateway.tracker.check event readings.wallAt = (.refused violation, tracker)) :
      Stepped gateway submission readings (.parsed guard event)
        (.decided guard (.rejected (.fairness violation))) { gateway with tracker := tracker }
  /-- A block would end beyond the calendar. -/
  | unended {guard : Option Guard} {event : Event} {fault : ClockFault} {tracker : Tracker}
      (hverdict : gateway.tracker.check event readings.wallAt = (.stuck fault, tracker)) :
      Stepped gateway submission readings (.parsed guard event)
        (.decided guard (.crashed fault)) { gateway with tracker := tracker }
  /-- The guard is given back. -/
  | returned {guard : Guard} {outcome : Outcome} :
      Stepped gateway submission readings (.decided (some guard) outcome) (.finished outcome)
        { gateway with leases := gateway.leases.release guard }
  /-- There is no guard to give back. -/
  | unguarded {outcome : Outcome} :
      Stepped gateway submission readings (.decided none outcome) (.finished outcome) gateway
  /-- The passage is over. -/
  | ended {outcome : Outcome} :
      Stepped gateway submission readings (.finished outcome) (.finished outcome) gateway

/-- Every step has one of these ends. -/
theorem stepped (gateway : Gateway) (submission : Submission) (readings : Readings)
    (stage : Stage) :
    gateway.Stepped submission readings stage (gateway.advance submission readings stage).1
      (gateway.advance submission readings stage).2 := by
  cases stage with
  | received =>
      simp only [advance, authenticate]
      split
      · rename_i hjson
        exact .unsupported (by simpa using hjson)
      · rename_i hjson
        split
        · rename_i hverify
          exact .genuine (by simpa using hjson) hverify
        · rename_i hverify
          exact .unsigned hverify
  | authenticated =>
      simp only [advance, reserve]
      split
      · rename_i hkey
        exact .unkeyed hkey
      · rename_i key hkey
        have hends := gateway.leases.acquired key readings.leaseAt
        generalize gateway.leases.acquire key readings.leaseAt = result at hends ⊢
        obtain ⟨acquisition, leases⟩ := result
        cases hends with
        | duplicate hheld => exact .duplicate hkey hheld
        | granted hfree hend => exact .keyed hkey hfree hend
        | stuck hfree hend => exact .unleased hkey hfree hend
  | leased guard =>
      simp only [advance, meter]
      cases htaken : gateway.limiter.tryAcquire readings.limiterAt with
      | mk allowed limiter =>
          cases allowed with
          | true => exact .metered htaken
          | false => exact .limited htaken
  | metered guard =>
      simp only [advance, validate]
      split
      · rename_i hparse
        exact .parsed hparse
      · rename_i hparse
        exact .unread hparse
  | parsed guard event =>
      simp only [advance, consider]
      cases hverdict : gateway.tracker.check event readings.wallAt with
      | mk verdict tracker =>
          cases verdict with
          | admitted admission => exact .admitted hverdict
          | refused violation => exact .refused hverdict
          | stuck fault => exact .unended hverdict
  | decided guard outcome =>
      cases guard with
      | none => exact .unguarded
      | some guard => exact .returned
  | finished outcome => exact .ended

/-- A step does not change the limits. -/
theorem Stepped.policy_eq {gateway after : Gateway} {submission : Submission}
    {readings : Readings} {stage next : Stage}
    (h : gateway.Stepped submission readings stage next after) :
    after.tracker.policy = gateway.tracker.policy := by
  have hcheck (event : Event) {verdict : Verdict} {tracker : Tracker}
      (hverdict : gateway.tracker.check event readings.wallAt = (verdict, tracker)) :
      tracker.policy = gateway.tracker.policy := by
    have hpolicy := Tracker.policy_step gateway.tracker (.check event readings.wallAt)
    simpa [Tracker.step, hverdict] using hpolicy
  cases h with
  | admitted hverdict | refused hverdict | unended hverdict => exact hcheck _ hverdict
  | _ => rfl

/-! ## Guards and leases -/

/-- What a step of a passage does to its guard and to the leases. -/
inductive Turn (leases : LeaseStore) (key : Option String) (now : Instant) :
    Stage → Stage → LeaseStore → Prop
  /-- The guard is held on to, and the leases stay as they are. -/
  | kept {stage next : Stage} (hguard : next.guard? = stage.guard?)
      (hway : next.isUnderWay = true → stage.isUnderWay = true) :
      Turn leases key now stage next leases
  /-- There is no key, and nothing is leased. -/
  | unkeyed (hkey : key = none) : Turn leases key now .authenticated (.leased none) leases
  /-- The key is leased. -/
  | granted {own : String} {expiry : Instant} (hkey : key = some own)
      (hfree : leases.isHeld own now = false) (hend : now.later? leases.ttl = some expiry) :
      Turn leases key now .authenticated (.leased (some ⟨own, leases.lastId + 1⟩))
        { leases with
          lastId := leases.lastId + 1
          live := leases.live.insert own ⟨leases.lastId + 1, expiry⟩ }
  /-- The lease would end beyond the clock. -/
  | stuck {own : String} (hkey : key = some own) (hend : now.later? leases.ttl = none) :
      Turn leases key now .authenticated (.decided none (.crashed .monotonic))
        { leases with lastId := leases.lastId + 1 }
  /-- The guard is given back. -/
  | returned {guard : Guard} {outcome : Outcome} :
      Turn leases key now (.decided (some guard) outcome) (.finished outcome)
        (leases.release guard)

/-- Every step is a turn. -/
theorem Stepped.turn {gateway after : Gateway} {submission : Submission} {readings : Readings}
    {stage next : Stage} (h : gateway.Stepped submission readings stage next after) :
    Turn gateway.leases submission.idempotencyKey readings.leaseAt stage next after.leases := by
  cases h with
  | unkeyed hkey => exact .unkeyed hkey
  | keyed hkey hfree hend => exact .granted hkey hfree hend
  | unleased hkey _ hend => exact .stuck hkey hend
  | returned => exact .returned
  | _ => exact .kept rfl (by simp [Stage.isUnderWay])

namespace Turn

variable {before after : LeaseStore} {key : Option String} {now : Instant} {stage next : Stage}

/-- A step does not change how long leases last. -/
theorem ttl_eq (h : Turn before key now stage next after) : after.ttl = before.ttl := by
  cases h with
  | returned => exact LeaseStore.ttl_release _ _
  | _ => rfl

/-- A step uses up one id at most. -/
theorem lastId_eq (h : Turn before key now stage next after) :
    after.lastId = before.lastId ∨ after.lastId = before.lastId + 1 := by
  cases h with
  | granted | stuck => exact Or.inr rfl
  | returned => exact Or.inl (LeaseStore.lastId_release _ _)
  | _ => exact Or.inl rfl

/-- A passage under way has the guard of its key, and goes on to have it. -/
theorem keyed (h : Turn before key now stage next after)
    (hkeyed : stage.isUnderWay = true → stage.guard?.map Guard.key = key)
    (hway : next.isUnderWay = true) : next.guard?.map Guard.key = key := by
  cases h with
  | kept hguard hearlier =>
      rw [hguard]
      exact hkeyed (hearlier hway)
  | unkeyed hkey => exact hkey.symm
  | granted hkey => exact hkey.symm
  | stuck => simp [Stage.isUnderWay] at hway
  | returned => simp [Stage.isUnderWay] at hway

open LeaseDesk in
/-- A step keeps the leases in agreement with what was granted, where the guard of the passage
has a number of the desk and the reading of the step is not past the clock. -/
theorem faithful {ledger : Ledger} {desk : LeaseDesk} {clock since : Instant} {number : Nat}
    (h : Turn desk.store key now stage next after) (hfaithful : Faithful ledger desk clock)
    (hids : 0 < desk.idsLeft) (hnow : now ≤ clock) (hin : number < desk.guards.length)
    (hout : desk.held? number = stage.guard?)
    (hnoted : ledger.getD number none = stage.guard?.map fun guard => ⟨guard.key, since⟩) :
    Faithful
      (ledger.set number (next.guard?.map fun guard =>
        ⟨guard.key, if stage = .authenticated then now else since⟩))
      ⟨after, desk.guards.set number next.guard?⟩ clock := by
  -- Where the guard stays, neither the guards nor the ledger change.
  have hstay (hguard : next.guard? = stage.guard?) :
      Faithful
        (ledger.set number (next.guard?.map fun guard =>
          ⟨guard.key, if stage = .authenticated then now else since⟩))
        ⟨desk.store, desk.guards.set number next.guard?⟩ clock := by
    have hguards : desk.guards.set number stage.guard? = desk.guards := by
      rw [← hout]
      exact set_getD_self desk.guards number
    have hledger : ledger.set number (stage.guard?.map fun guard => ⟨guard.key, since⟩) =
        ledger := by
      rw [← hnoted]
      exact set_getD_self ledger number
    have hsame : (next.guard?.map fun guard : Guard =>
        (⟨guard.key, if stage = .authenticated then now else since⟩ : Holding)) =
        stage.guard?.map fun guard => ⟨guard.key, since⟩ := by
      rw [hguard]
      by_cases hstage : stage = .authenticated
      · simp [hstage, Stage.guard?]
      · simp [hstage]
    rw [hsame, hledger, hguard, hguards]
    exact hfaithful
  cases h with
  | kept hguard => exact hstay hguard
  | unkeyed => exact hstay rfl
  | granted hkey hfree hend => exact hfaithful.seat hids hin hout hnow hfree hend
  | stuck => exact (hstay rfl).stuck hids
  | returned => exact hfaithful.release hout

end Turn

end Gateway

end Turnstile
