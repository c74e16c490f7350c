import Turnstile.Proofs.Fairness.Records
import Turnstile.Proofs.Gateway.Passage

/-!
# What a passage leaves behind

A stage that refuses a submission keeps the stages after it as they were, and the lease
that the passage took is gone when it ends.  So submissions that fail the checks of
content type and signature leave nothing at all: with or without them, the others get
the same answers and the service ends in the same state.

Main definitions and results:

- `LeaseStore.Returned`, `LeaseStore.Leased.returned`: leases after a passage.
- `Gateway.Footprint`, `Gateway.Decided.footprint`: what a passage changes, by its
  outcome.
- `Gateway.processAll`, `Gateway.processAll_filter`: submissions one after the other,
  and the same without those that fail the checks.
- `Gateway.process_footprint`: what passages leave behind, and that those which fail the checks
  leave nothing.
-/

namespace Turnstile

/-! ## Leases -/

namespace LeaseStore

/-- No lease was added, and none is missing but one on the given key that had run out. -/
def Returned (before after : LeaseStore) (key : Option String) (now : Instant) : Prop :=
  after.live = before.live ∨
    ∃ own lease, key = some own ∧ before.live.get? own = some lease ∧ lease.expiry ≤ now ∧
      after.live = before.live.erase own

/-- A lease that was just granted takes nothing with it but what it replaced. -/
theorem live_release_granted (before : LeaseStore) (key : String) (id : UInt64)
    (expiry : Instant) :
    (release { before with lastId := id, live := before.live.insert key ⟨id, expiry⟩ }
      ⟨key, id⟩).live = before.live.erase key := by
  unfold release
  rw [if_pos (by rw [Table.get?_insert, if_pos rfl, Option.map_some])]
  exact Table.erase_insert before.live key _

/-- Freeing a key that nobody held takes away a lease that had run out, if anything. -/
theorem Returned.of_erase {before after : LeaseStore} {key : String} {now : Instant}
    (hfree : before.isHeld key now = false) (hlive : after.live = before.live.erase key) :
    before.Returned after (some key) now := by
  cases hlease : before.live.get? key with
  | none =>
      left
      rw [hlive, Table.erase_of_get?_eq_none hlease]
  | some lease =>
      right
      refine ⟨key, lease, rfl, hlease, ?_, hlive⟩
      unfold isHeld at hfree
      rw [hlease] at hfree
      exact Int.not_lt.mp (of_decide_eq_false hfree)

end LeaseStore

namespace Gateway

/-- A passage gives back what it leased. -/
theorem returned_giveBack {gateway : Gateway} {before leases : LeaseStore} {now : Instant}
    {key : Option String} {guard : Option Guard} (h : before.Leased now key guard leases)
    (hleases : gateway.leases = leases) :
    before.Returned (gateway.giveBack guard).leases key now := by
  cases h with
  | unkeyed => exact Or.inl (congrArg LeaseStore.live hleases)
  | keyed hfree =>
      refine .of_erase hfree ?_
      change (gateway.leases.release _).live = _
      rw [hleases]
      exact before.live_release_granted _ _ _

/-! ## Footprints -/

/-- What a passage changes, by its outcome.  The stages that it did not come to are left
as they were. -/
def Footprint (before : Gateway) (submission : Submission) (readings : Readings) :
    Outcome → Gateway → Prop
  | .rejected .unsupportedMediaType, after
  | .rejected (.signature _), after
  | .rejected .duplicateRequest, after => after = before
  | .rejected .rateLimited, after =>
      after =
        { before with
          leases := after.leases
          limiter := before.limiter.refill readings.limiterAt }
  | .rejected (.invalidEvent _), after =>
      after =
        { before with
          leases := after.leases
          limiter := (before.limiter.refill readings.limiterAt).deduct }
  | .rejected (.fairness _), after =>
      ∃ event, Event.parse submission.body = .ok event ∧
        (∀ other, other ≠ event.playerId →
          after.tracker.record? other = before.tracker.record? other) ∧
        after =
          { before with
            leases := after.leases
            limiter := (before.limiter.refill readings.limiterAt).deduct
            tracker := (before.tracker.check event readings.wallAt).2 }
  | .approved _, after =>
      ∃ accepted, Event.parse submission.body = .ok accepted.event ∧
        (∀ other, other ≠ accepted.event.playerId →
          after.tracker.record? other = before.tracker.record? other) ∧
        after =
          { before with
            leases := after.leases
            limiter := (before.limiter.refill readings.limiterAt).deduct
            tracker := (before.tracker.check accepted.event readings.wallAt).2
            outbox := before.outbox ++ [accepted] }
  | .crashed _, after =>
      after =
        { before with
          leases := after.leases
          limiter := after.limiter
          tracker := after.tracker }
  | .rejected .playerNotFound, _ => False

/-- Whether a submission passes the checks of content type and signature. -/
def isGenuine (gateway : Gateway) (submission : Submission) : Bool :=
  gateway.authenticate submission = .authenticated

/-- Giving a lease back changes the leases alone. -/
theorem giveBack_eq (gateway : Gateway) (guard : Option Guard) :
    gateway.giveBack guard = { gateway with leases := (gateway.giveBack guard).leases } := by
  cases guard <;> rfl

namespace Decided

variable {before after : Gateway} {submission : Submission} {readings : Readings}
  {guard : Option Guard} {outcome : Outcome}

/-- However the outcome of a passage was found, its lease is gone once the guard is given
back, and no lease is missing but one on its key that had run out. -/
theorem returned (h : before.Decided submission readings guard outcome after) :
    before.leases.Returned (after.giveBack guard).leases submission.idempotencyKey
      readings.leaseAt := by
  cases h with
  | unsupported | unsigned | duplicate | unleased => exact Or.inl rfl
  | limited hleasing => exact returned_giveBack hleasing.leased rfl
  | unread hmetering | refused hmetering | admitted hmetering | unended hmetering =>
      exact returned_giveBack hmetering.leased rfl

/-- However the outcome of a passage was found, the outcome tells what the passage has
changed. -/
theorem footprint (h : before.Decided submission readings guard outcome after) :
    before.Footprint submission readings outcome (after.giveBack guard) := by
  cases h with
  | unsupported | unsigned | duplicate => rfl
  | unleased => rfl
  | limited | unread => exact giveBack_eq _ guard
  | unended =>
      rw [giveBack_eq]
      rfl
  | refused _ hparse =>
      rw [giveBack_eq]
      exact ⟨_, hparse, fun other hother => Tracker.record?_check_of_ne _ _ _ hother, rfl⟩
  | admitted _ hparse =>
      rw [giveBack_eq]
      exact ⟨⟨_, _, _⟩, hparse, fun other hother => Tracker.record?_check_of_ne _ _ _ hother, rfl⟩

/-- A submission that fails the checks leaves nothing. -/
theorem giveBack_of_not_genuine (h : before.Decided submission readings guard outcome after)
    (hfail : before.isGenuine submission = false) : after.giveBack guard = before := by
  have hstage : before.authenticate submission ≠ .authenticated := of_decide_eq_false hfail
  cases h with
  | unsupported | unsigned => rfl
  | duplicate hgenuine | unleased hgenuine => exact absurd hgenuine hstage
  | limited hleasing => exact absurd hleasing.genuine hstage
  | unread hmetering | refused hmetering | admitted hmetering | unended hmetering =>
      exact absurd hmetering.genuine hstage

/-- The outcome tells whether a submission failed the checks. -/
theorem not_genuine_iff (h : before.Decided submission readings guard outcome after) :
    before.isGenuine submission = false ↔
      outcome = .rejected .unsupportedMediaType ∨
        ∃ error, outcome = .rejected (.signature error) := by
  unfold isGenuine
  rw [decide_eq_false_iff_not]
  cases h with
  | unsupported hjson => simp [authenticate, hjson]
  | unsigned hverify =>
      simp only [authenticate, hverify]
      split <;> simp
  | duplicate hgenuine | unleased hgenuine => simp [hgenuine]
  | limited hleasing => simp [hleasing.genuine]
  | unread hmetering | refused hmetering | admitted hmetering | unended hmetering =>
      simp [hmetering.genuine]

/-- No passage changes who may sign. -/
theorem verifier_giveBack (h : before.Decided submission readings guard outcome after) :
    (after.giveBack guard).verifier = before.verifier := by
  rw [giveBack_eq]
  cases h <;> rfl

end Decided

/-! ## Submissions one after the other -/

/-- The passages of submissions, one after the other. -/
def processAll (gateway : Gateway) : List (Submission × Readings) → List Outcome × Gateway
  | [] => ([], gateway)
  | (submission, readings) :: rest =>
      let (outcome, gateway) := gateway.process submission readings
      let (outcomes, gateway) := gateway.processAll rest
      (outcome :: outcomes, gateway)

/-- No passage changes which submissions pass the checks. -/
theorem isGenuine_process (gateway : Gateway) (submission : Submission) (readings : Readings) :
    (gateway.process submission readings).2.isGenuine = gateway.isGenuine := by
  obtain ⟨guard, after, hdecided, hafter⟩ := gateway.process_decided submission readings
  have hverifier : (gateway.process submission readings).2.verifier = gateway.verifier := by
    rw [hafter, hdecided.verifier_giveBack]
  funext other
  have hstage : (gateway.process submission readings).2.authenticate other =
      gateway.authenticate other := by
    simp only [authenticate, hverifier]
  rw [isGenuine, isGenuine, hstage]

/-- Submissions that fail the checks can be left out: the others get the same answers,
and the service ends in the same state. -/
theorem processAll_filter (gateway : Gateway) (arrivals : List (Submission × Readings)) :
    gateway.processAll (arrivals.filter fun arrival => gateway.isGenuine arrival.1) =
      (((arrivals.zip (gateway.processAll arrivals).1).filter
          fun (arrival, _) => gateway.isGenuine arrival.1).map Prod.snd,
        (gateway.processAll arrivals).2) := by
  induction arrivals generalizing gateway with
  | nil => rfl
  | cons arrival rest ih =>
      obtain ⟨submission, readings⟩ := arrival
      have hrest := ih (gateway.process submission readings).2
      rw [isGenuine_process] at hrest
      cases hgenuine : gateway.isGenuine submission with
      | true =>
          simp only [processAll, List.filter_cons, List.zip_cons_cons, hgenuine, if_true, hrest,
            List.map_cons]
      | false =>
          obtain ⟨guard, after, hdecided, hafter⟩ := gateway.process_decided submission readings
          have hsame : (gateway.process submission readings).2 = gateway :=
            hafter.trans (hdecided.giveBack_of_not_genuine hgenuine)
          rw [hsame] at hrest
          simp only [processAll, List.filter_cons, List.zip_cons_cons, hgenuine, hsame,
            Bool.false_eq_true, if_false, hrest]

/-- A passage returns its lease, leaves the stages that it did not come to as they were,
and changes what its outcome tells.  Submissions that fail the checks of content type and
signature, which their outcomes tell, make no difference to the answers of others, nor to
the service.

This says what a passage changes once its outcome is given, and not when an outcome arises: the
ways in which each of them can be found are those of `Gateway.Decided`, and by
`Gateway.process_decided` every passage ends in one of them. -/
theorem process_footprint (gateway : Gateway) :
    (∀ submission readings,
      let (outcome, after) := gateway.process submission readings
      gateway.leases.Returned after.leases submission.idempotencyKey readings.leaseAt ∧
        gateway.Footprint submission readings outcome after ∧
        (gateway.isGenuine submission = false ↔
          outcome = .rejected .unsupportedMediaType ∨
            ∃ error, outcome = .rejected (.signature error))) ∧
    ∀ arrivals,
      let (outcomes, after) := gateway.processAll arrivals
      gateway.processAll (arrivals.filter fun arrival => gateway.isGenuine arrival.1) =
        (((arrivals.zip outcomes).filter
            fun (arrival, _) => gateway.isGenuine arrival.1).map Prod.snd, after) := by
  constructor
  · intro submission readings
    obtain ⟨guard, after, hdecided, hafter⟩ := gateway.process_decided submission readings
    dsimp only
    rw [hafter]
    exact ⟨hdecided.returned, hdecided.footprint, hdecided.not_genuine_iff⟩
  · intro arrivals
    exact gateway.processAll_filter arrivals

end Gateway

end Turnstile
