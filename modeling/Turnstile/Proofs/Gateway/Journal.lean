import Turnstile.Proofs.Gateway.Answers
import Turnstile.Proofs.Gateway.Isolation

/-!
# What a submission leaves in the journal

A submission that is heard comes to an end with one entry in the journal, and all that the
service keeps of it goes by that entry: the answer, the counters, the events handed on, and
the verdicts of the tracker, if the passage has brought an event there.

Main definitions and results:

- `Gateway.progress`, `Gateway.brought?`, `Gateway.checks`: the event that a passage brings
  to the tracker.
- `Gateway.metering_of_brought?`, `Gateway.brought?_of_metering`: which passages bring one.
- `Gateway.Settled`: an entry that says what a passage has done.
- `Gateway.settled_of_turned_away`, `Gateway.settled_of_verdict`: passages that end before
  the tracker, and those that end with its verdict.
- `Gateway.Decided.settled`: every passage that does not crash has an entry.
-/

namespace Turnstile

namespace Tracker

/-- The event that is handed on when it was admitted. -/
def Hearing.accepted? (hearing : Hearing) : Option AcceptedEvent :=
  match hearing.verdict with
  | .admitted admission =>
      some ⟨hearing.event, admission.acceptedAt.seconds, admission.cumulativeScore⟩
  | .refused _ | .stuck _ => none

/-- An event is handed on when it was admitted, and only then. -/
theorem Hearing.admits_eq (hearing : Hearing) :
    hearing.admits = hearing.accepted?.isSome := by
  unfold admits accepted?
  cases hearing.verdict <;> rfl

end Tracker

namespace JournalEntry

/-- What the passage came to. -/
def outcome : JournalEntry → Outcome
  | approved accepted =>
      .approved ⟨accepted.event.playerId, accepted.event.kind, accepted.acceptedAt⟩
  | rejected rejection => .rejected rejection

/-- What the client was answered. -/
def response : JournalEntry → Response
  | approved accepted =>
      .json 200
        (Acceptance.toJson ⟨accepted.event.playerId, accepted.event.kind, accepted.acceptedAt⟩)
  | rejected rejection => .ofRejection rejection

end JournalEntry

namespace Gateway

/-! ## What a passage brings to the tracker -/

section Brought

variable {gateway before : Gateway} {submission : Submission} {readings : Readings}
  {guard : Option Guard} {leases : LeaseStore} {event : Event}

/-- Where a passage that runs alone is after a number of steps. -/
def progress (gateway : Gateway) (submission : Submission) (readings : Readings) :
    Nat → Stage × Gateway
  | 0 => (.received, gateway)
  | steps + 1 =>
      let (stage, gateway) := gateway.progress submission readings steps
      gateway.advance submission readings stage

/-- The event that a passage brings to the tracker: four stages come before. -/
def brought? (gateway : Gateway) (submission : Submission) (readings : Readings) : Option Event :=
  match (gateway.progress submission readings 4).1 with
  | .parsed _ event => some event
  | _ => none

/-- The operations of a passage on the tracker. -/
def checks (gateway : Gateway) (submission : Submission) (readings : Readings) :
    List Tracker.Op :=
  ((gateway.brought? submission readings).map (.check · readings.wallAt)).toList

/-- A passage that runs alone has done, after any number of steps, what belongs to the stage
at which it is. -/
theorem reached_progress (gateway : Gateway) (submission : Submission) (readings : Readings)
    (steps : Nat) :
    gateway.Reached submission readings (gateway.progress submission readings steps).1
      (gateway.progress submission readings steps).2 := by
  induction steps with
  | zero => exact .received
  | succ steps ih => exact ih.advance

/-- Whoever brings an event to the tracker has taken a token and has a body to show. -/
theorem metering_of_brought? (h : before.brought? submission readings = some event) :
    ∃ guard leases,
      before.Metering submission readings guard leases ∧
        Event.parse submission.body = .ok event := by
  have hreached := before.reached_progress submission readings 4
  unfold brought? at h
  generalize (before.progress submission readings 4).1 = stage at h hreached
  generalize (before.progress submission readings 4).2 = gateway at hreached
  cases hreached with
  | parsed hmetering hparse =>
      obtain rfl := Option.some.inj h
      exact ⟨_, _, hmetering, hparse⟩
  | _ => contradiction

/-- Leasing a key that can be leased leaves the guard and the store. -/
theorem reserve_of_leased {now : Instant} {key : Option String}
    (h : gateway.leases.Leased now key guard leases) :
    gateway.reserve key now = (.leased guard, { gateway with leases := leases }) := by
  cases h with
  | unkeyed => rfl
  | keyed hfree hend => simp [reserve, LeaseStore.acquire, hfree, hend]

/-- A passage that took a token is at the body after three steps. -/
theorem Metering.progress (h : before.Metering submission readings guard leases) :
    before.progress submission readings 3 =
      (.metered guard, { before with leases := leases, limiter := before.metered readings }) := by
  have htaken : before.limiter.tryAcquire readings.limiterAt = (true, before.metered readings) :=
    TokenBucket.tryAcquire_of_granted h.allowed
  simp only [Gateway.progress, advance, h.genuine, reserve_of_leased h.leased, meter, htaken,
    if_true]

/-- Whoever has taken a token and has a body to show brings its event to the tracker. -/
theorem brought?_of_metering (h : before.Metering submission readings guard leases)
    (hparse : Event.parse submission.body = .ok event) :
    before.brought? submission readings = some event := by
  rw [brought?, Gateway.progress, h.progress]
  simp [advance, validate, hparse]

/-- A passage that has taken a token and has a body to show checks the event of the body, and
does nothing else to the tracker. -/
theorem checks_of_metering (h : before.Metering submission readings guard leases)
    (hparse : Event.parse submission.body = .ok event) :
    before.checks submission readings = [.check event readings.wallAt] := by
  rw [checks, brought?_of_metering h hparse]
  rfl

end Brought

/-! ## One entry for each passage -/

/-- An entry says what a passage has done: its outcome, the body that was read, the verdict
of the tracker, and the event that was handed on.  Metrics are not yet counted. -/
structure Settled (before after : Gateway) (submission : Submission) (readings : Readings)
    (outcome : Outcome) (entry : JournalEntry) : Prop where
  outcome_eq : outcome = entry.outcome
  found : entry ≠ .rejected .playerNotFound
  parsed (accepted : AcceptedEvent) :
    entry.accepted? = some accepted → Event.parse submission.body = .ok accepted.event
  tracked : after.tracker = (before.tracker.run (before.checks submission readings)).2
  accepted :
    (before.tracker.docket (before.checks submission readings)).filterMap
      Tracker.Hearing.accepted? = entry.accepted?.toList
  imposed :
    (before.tracker.docket (before.checks submission readings)).filterMap
      Tracker.Hearing.imposed? = entry.imposed?.toList
  forwarded : after.outbox = before.outbox ++ entry.accepted?.toList
  metrics : after.metrics = before.metrics
  limit : after.maxBodyBytes = before.maxBodyBytes

section Settled

variable {before last : Gateway} {submission : Submission} {readings : Readings}
  {guard : Option Guard} {outcome : Outcome}

/-- A passage that was refused, and not by the rules, has brought no event to the tracker. -/
theorem Decided.brought?_eq_none {rejection : Rejection}
    (h : before.Decided submission readings guard (.rejected rejection) last)
    (hearly : ∀ violation, rejection ≠ .fairness violation) :
    before.brought? submission readings = none := by
  rw [Option.eq_none_iff_forall_ne_some]
  intro event hbrought
  obtain ⟨_, _, hmetering, hread⟩ := metering_of_brought? hbrought
  have hgenuine := hmetering.genuine
  cases h with
  | unsupported hjson => simp [authenticate, hjson] at hgenuine
  | unsigned hverify =>
      simp only [authenticate, hverify] at hgenuine
      split at hgenuine <;> contradiction
  | duplicate _ hkey hheld =>
      have hleased := hmetering.leased
      rw [hkey] at hleased
      cases hleased with
      | keyed hfree =>
          rw [hfree] at hheld
          contradiction
  | limited _ hnone =>
      rw [hmetering.allowed] at hnone
      contradiction
  | unread _ hparse =>
      rw [hread] at hparse
      contradiction
  | refused => exact hearly _ rfl

/-- A passage that ends before the tracker leaves tracker and outbox alone. -/
theorem settled_of_turned_away {leases : LeaseStore} {limiter : TokenBucket Binary64}
    {rejection : Rejection} (hfound : rejection ≠ .playerNotFound)
    (hcalm : (JournalEntry.rejected rejection).imposed? = none)
    (hquiet : before.brought? submission readings = none) :
    before.Settled { before with leases := leases, limiter := limiter } submission readings
      (.rejected rejection) (.rejected rejection) := by
  have hnone : before.checks submission readings = [] := by
    rw [checks, hquiet]
    rfl
  constructor
  case outcome_eq => rfl
  case found => simpa using hfound
  case parsed => simp [JournalEntry.accepted?]
  case tracked => rw [hnone]; rfl
  case accepted => rw [hnone]; rfl
  case imposed => rw [hnone, hcalm]; rfl
  case forwarded => simp [JournalEntry.accepted?]
  case metrics => rfl
  case limit => rfl

/-- A passage that has brought its event to the tracker ends as the verdict says. -/
theorem settled_of_verdict {leases last : LeaseStore} {limiter : TokenBucket Binary64}
    {event : Event} {verdict : Verdict} {outbox : List AcceptedEvent} {entry : JournalEntry}
    (hmetering : before.Metering submission readings guard leases)
    (hparse : Event.parse submission.body = .ok event)
    (hverdict : (before.tracker.check event readings.wallAt).1 = verdict)
    (hfound : entry ≠ .rejected .playerNotFound)
    (haccepted : entry.accepted? = Tracker.Hearing.accepted? ⟨event, readings.wallAt, verdict⟩)
    (himposed : entry.imposed? = verdict.imposed?)
    (houtbox : outbox = before.outbox ++ entry.accepted?.toList) :
    before.Settled
      { before with
        leases := last
        limiter := limiter
        tracker := (before.tracker.check event readings.wallAt).2
        outbox := outbox }
      submission readings entry.outcome entry := by
  have hheard := checks_of_metering hmetering hparse
  have hdocket := before.tracker.docket_check event readings.wallAt
  rw [hverdict] at hdocket
  constructor
  case outcome_eq => rfl
  case found => exact hfound
  case parsed =>
    intro accepted hsome
    rw [haccepted] at hsome
    have hevent : accepted.event = event := by
      unfold Tracker.Hearing.accepted? at hsome
      cases verdict with
      | admitted admission => exact congrArg AcceptedEvent.event (Option.some.inj hsome).symm
      | refused _ | stuck _ => contradiction
    rw [hevent]
    exact hparse
  case tracked => rw [hheard]; rfl
  case accepted =>
    rw [hheard, hdocket, haccepted, List.filterMap_cons]
    cases Tracker.Hearing.accepted? ⟨event, readings.wallAt, verdict⟩ <;> rfl
  case imposed =>
    rw [hheard, hdocket, himposed, List.filterMap_cons, Tracker.Hearing.imposed?]
    cases verdict.imposed? <;> rfl
  case forwarded => exact houtbox
  case metrics => rfl
  case limit => rfl

/-- However the outcome was found, there is an entry for it, unless a clock ran out. -/
theorem Decided.settled (h : before.Decided submission readings guard outcome last)
    (hanswer : ∀ fault, outcome ≠ .crashed fault) :
    ∃ entry, before.Settled (last.giveBack guard) submission readings outcome entry := by
  have hquiet (rejection : Rejection) (hsame : outcome = .rejected rejection) :
      (∀ violation, rejection ≠ .fairness violation) →
        before.brought? submission readings = none := by
    subst hsame
    exact h.brought?_eq_none
  rw [giveBack_eq]
  cases h with
  | unsupported | unsigned | duplicate | limited | unread =>
      exact ⟨_, settled_of_turned_away (by simp) rfl (hquiet _ rfl (by simp))⟩
  | @refused _ _ event violation hmetering hparse hverdict =>
      have hfound : JournalEntry.rejected (.fairness violation) ≠ .rejected .playerNotFound := by
        simp
      have himposed : (JournalEntry.rejected (.fairness violation)).imposed? =
          (Verdict.refused violation).imposed? := rfl
      exact ⟨_, settled_of_verdict hmetering hparse hverdict hfound rfl himposed
        (List.append_nil _).symm⟩
  | @admitted _ _ event admission hmetering hparse hverdict =>
      let entry : JournalEntry :=
        .approved ⟨event, admission.acceptedAt.seconds, admission.cumulativeScore⟩
      have hfound : entry ≠ .rejected .playerNotFound := by
        simp [entry]
      exact ⟨entry, settled_of_verdict hmetering hparse hverdict hfound rfl rfl rfl⟩
  | unleased | unended => exact absurd rfl (hanswer _)

end Settled

end Gateway

end Turnstile
