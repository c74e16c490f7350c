import Turnstile.Proofs.Fairness.Foresight
import Turnstile.Proofs.Gateway.Crowd
import Turnstile.Proofs.Settings

/-!
# Starting, and going on

With settings that are accepted the service starts exactly when it has permits enough for
its channel and for the events that it forwards at once.  Settings are accepted that ask for
more, and then it does not start.  Memory is taken as unbounded, so nothing else keeps it from
starting.  Once it runs it goes on: at readings of the clocks that leave room for the longest
lifetime and the longest block, no clock runs out.

Main definitions:

- `Readings.InRange`: readings that leave room.
- `Gateway.Configured`: the lifetimes and limits that the service goes by.
- `Gateway.Roomy`: at these readings no clock runs out.

Main results:

- `Gateway.start_ok_iff`: when the service starts.
- `Gateway.Roomy.stepped`, `Gateway.Roomy.answered`: no step and no request fails there.
- `Gateway.Configured.stepped`, `Crowd.Steady.step`, `Crowd.Steady.run`: the service goes by
  its settings after a step, after whatever comes next, and after a whole run, and no clock
  has run out.
- `Settings.starts_and_goes_on`: when the service starts, and that it goes on.
- `Settings.accepted_not_started`: settings that are accepted, but do not start.
-/

namespace Turnstile

/-! ## Room on the clocks -/

/-- Readings that leave room for the longest lifetime and for a block up to its bound. -/
structure Readings.InRange (readings : Readings) : Prop where
  lease : readings.leaseAt / nanosPerSecond + maxTtlSecs ≤ Instant.maxSeconds
  earliest_le : WallTime.earliest ≤ readings.wallAt
  le_latest : readings.wallAt + blockBoundSecs * nanosPerSecond ≤ WallTime.latest

/-- A lifetime of a day at most has room. -/
theorem Instant.isSome_later? {now : Instant} {secs : Nat}
    (hroom : now / nanosPerSecond + maxTtlSecs ≤ maxSeconds) (hsecs : secs ≤ maxTtlSecs) :
    (now.later? (secs * nanosPerSecond)).isSome = true := by
  have hmoved : (now + (secs * nanosPerSecond : Nat)) / nanosPerSecond =
      now / nanosPerSecond + secs := by
    rw [Int.natCast_mul]
    exact Int.add_mul_ediv_right _ _ (by decide)
  have hfits : now / nanosPerSecond + secs ≤ maxSeconds :=
    Int.le_trans (Int.add_le_add_left (Int.ofNat_le.mpr hsecs) _) hroom
  simp only [later?, hmoved, if_pos hfits, Option.isSome_some]

/-- A block below its bound has room. -/
theorem WallTime.isSome_shift? {now : WallTime} {secs : Nat} (hearly : earliest ≤ now)
    (hroom : now + blockBoundSecs * nanosPerSecond ≤ latest) (hsecs : secs < blockBoundSecs) :
    (now.shift? (secs * nanosPerSecond)).isSome = true := by
  have hpositive : (0 : Int) ≤ secs * nanosPerSecond :=
    Int.mul_nonneg (Int.natCast_nonneg _) (Int.natCast_nonneg _)
  have hlength : (secs * nanosPerSecond : Int) ≤ blockBoundSecs * nanosPerSecond :=
    Int.mul_le_mul_of_nonneg_right (by omega) (Int.natCast_nonneg _)
  have hbegin : earliest ≤ now + secs * nanosPerSecond :=
    Int.le_trans hearly (Int.le_add_of_nonneg_right hpositive)
  have hend : now + secs * nanosPerSecond ≤ latest :=
    Int.le_trans (Int.add_le_add_left hlength now) hroom
  simp only [shift?, if_pos (And.intro hbegin hend), Option.isSome_some]

/-- Whether a clock ran out under a passage. -/
def Stage.isCrashed : Stage → Bool
  | .decided _ (.crashed _) | .finished (.crashed _) => true
  | _ => false

/-! ## The start -/

namespace Gateway

variable {settings : Settings} {route : String → Nat} {now : Instant}

/-- The lifetimes and limits of the service are those of the settings. -/
structure Configured (settings : Settings) (gateway : Gateway) : Prop where
  lifetime : gateway.leases.ttl = settings.leaseTtl
  policy : gateway.tracker.policy = settings.policy

/-- The service starts when there are permits enough, and does not start otherwise. -/
theorem start_ok_iff :
    (∃ gateway, Gateway.start settings route now = .ok gateway) ↔
      settings.consumerCapacity ≤ maxPermits ∧ settings.maxConcurrentForwards ≤ maxPermits := by
  unfold Gateway.start Channel.create
  by_cases hcapacity : maxPermits < settings.consumerCapacity
  · simp [hcapacity, bind, Except.bind]
  · by_cases hforwards : maxPermits < settings.maxConcurrentForwards
    · simp [hcapacity, hforwards, bind, Except.bind]
    · simp [hcapacity, hforwards, bind, Except.bind, pure, Except.pure, Nat.le_of_not_lt]

/-- A service that starts has the lifetimes and limits of its settings. -/
theorem configured_start {gateway : Gateway}
    (h : Gateway.start settings route now = .ok gateway) : gateway.Configured settings where
  lifetime := congrArg LeaseStore.ttl (started h).leases
  policy := congrArg Tracker.policy (started h).tracker

/-! ## Steps at which no clock runs out -/

/-- Readings leave room for the lifetime of a lease and for a block of either kind. -/
structure Roomy (gateway : Gateway) (readings : Readings) : Prop where
  lease : (readings.leaseAt.later? gateway.leases.ttl).isSome = true
  floodBlock : (readings.wallAt.shift? gateway.tracker.policy.floodBlock).isSome = true
  scoreBlock : (readings.wallAt.shift? gateway.tracker.policy.scoreBlock).isSome = true

variable {gateway : Gateway} {submission : Submission} {readings : Readings} {stage : Stage}

/-- Under settings that are accepted, readings in range leave room. -/
theorem Configured.roomy (h : gateway.Configured settings) (hbounded : settings.Bounded)
    (hrange : readings.InRange) : gateway.Roomy readings where
  lease := by
    rw [h.lifetime]
    exact Instant.isSome_later? hrange.lease hbounded.lease.2
  floodBlock := by
    rw [h.policy]
    exact WallTime.isSome_shift? hrange.earliest_le hrange.le_latest hbounded.floodBlock.2
  scoreBlock := by
    rw [h.policy]
    exact WallTime.isSome_shift? hrange.earliest_le hrange.le_latest hbounded.scoreBlock.2

/-- Where there is room for a lease, its end is on the clock. -/
theorem Roomy.later?_ne_none (h : gateway.Roomy readings) :
    readings.leaseAt.later? gateway.leases.ttl ≠ none :=
  Option.isSome_iff_ne_none.mp h.lease

/-- Where there is room for a block, every event gets a verdict. -/
theorem Roomy.check_ne_stuck (h : gateway.Roomy readings) (event : Event) (fault : ClockFault) :
    (gateway.tracker.check event readings.wallAt).1 ≠ .stuck fault := by
  intro hstuck
  have hjudged := Activity.judged gateway.tracker.policy event readings.wallAt
    (gateway.tracker.met event.playerId readings.wallAt)
  rw [← Tracker.check_fst, hstuck] at hjudged
  exact Activity.not_judged_stuck h.floodBlock h.scoreBlock hjudged

/-- Where there is room, no clock runs out under a step of a passage. -/
theorem Roomy.stepped (h : gateway.Roomy readings) {next : Stage} {after : Gateway}
    (hstep : gateway.Stepped submission readings stage next after)
    (hcalm : stage.isCrashed = false) : next.isCrashed = false := by
  cases hstep with
  | unleased _ _ hend => exact absurd hend h.later?_ne_none
  | unended hverdict => exact absurd (congrArg Prod.fst hverdict) (h.check_ne_stuck _ _)
  | @returned _ outcome | @unguarded outcome => cases outcome <;> first | rfl | contradiction
  | ended => exact hcalm
  | _ => rfl

/-- A step changes neither lifetimes nor limits. -/
theorem Configured.stepped (h : gateway.Configured settings) {next : Stage} {after : Gateway}
    (hstep : gateway.Stepped submission readings stage next after) :
    after.Configured settings where
  lifetime := hstep.turn.ttl_eq.trans h.lifetime
  policy := hstep.policy_eq.trans h.policy

/-- Where there is room, every request is answered. -/
theorem Roomy.answered (h : gateway.Roomy readings) (request : Request) :
    ∃ response, (gateway.respond request readings).1 = .ok response := by
  cases hheard : request.isHeard gateway.maxBodyBytes with
  | false =>
      obtain ⟨response, metrics, hrespond, -⟩ := respond_of_unheard hheard readings
      exact ⟨response, by rw [hrespond]⟩
  | true =>
      rw [respond_of_heard hheard, checkEvent]
      obtain ⟨guard, after, hdecided, -⟩ := gateway.process_decided request.submission readings
      generalize gateway.process request.submission readings = result at hdecided ⊢
      obtain ⟨outcome, last⟩ := result
      cases outcome with
      | approved | rejected => exact ⟨_, rfl⟩
      | crashed fault =>
          cases hdecided with
          | unleased _ _ hend => exact absurd hend h.later?_ne_none
          | unended _ _ hverdict => exact absurd hverdict (h.check_ne_stuck _ _)

end Gateway

/-! ## Runs -/

namespace Crowd

variable {settings : Settings} {crowd : Crowd}

/-- The readings of a step are in range.  Nothing else reads a clock that could run out. -/
def Op.InRange : Op → Prop
  | .advance _ readings => readings.InRange
  | .receive _ _ | .tidy _ _ _ | .deliver => True

/-- The service goes by its settings, and no clock has run out under a submission. -/
structure Steady (settings : Settings) (crowd : Crowd) : Prop where
  configured : crowd.gateway.Configured settings
  calm : ∀ visit ∈ crowd.visits, visit.stage.isCrashed = false

/-- Whatever comes next, at readings in range, leaves the service going by its settings, and
no clock runs out under a submission. -/
theorem Steady.step (h : Steady settings crowd) (hbounded : settings.Bounded) {op : Op}
    (hrange : op.InRange) : Steady settings (crowd.step op) := by
  have hends := crowd.stepped op
  generalize crowd.step op = after at hends ⊢
  cases hends with
  | heard =>
      refine ⟨h.configured, List.forall_mem_append.mpr ⟨h.calm, ?_⟩⟩
      simp [Visit.opened, Stage.isCrashed]
  | answered =>
      refine ⟨⟨h.configured.lifetime, ?_⟩, h.calm⟩
      exact (Tracker.policy_run _ _).trans h.configured.policy
  | absent => exact h
  | advanced hvisit hstep =>
      have hroom := h.configured.roomy hbounded hrange
      have hnext := hroom.stepped hstep (h.calm _ (List.mem_of_getElem? hvisit))
      exact ⟨h.configured.stepped hstep, forall_mem_set h.calm hnext _⟩
  | @tidied idleTtl =>
      refine ⟨?_, h.calm⟩
      cases idleTtl with
      | none => exact ⟨h.configured.lifetime, h.configured.policy⟩
      | some idle => exact ⟨h.configured.lifetime, h.configured.policy⟩
  | delivered => exact ⟨⟨h.configured.lifetime, h.configured.policy⟩, h.calm⟩

/-- A whole run at readings in range leaves the service going by its settings, and no clock
runs out under a submission. -/
theorem Steady.run (h : Steady settings crowd) (hbounded : settings.Bounded) {ops : List Op}
    (hrange : ∀ op ∈ ops, op.InRange) : Steady settings (crowd.run ops) := by
  induction ops generalizing crowd with
  | nil => exact h
  | cons op ops ih =>
      have hnext := h.step hbounded (hrange op List.mem_cons_self)
      exact ih hnext fun later hlater => hrange later (List.mem_cons_of_mem op hlater)

end Crowd

/-- With settings that are accepted the service starts exactly when there are permits enough
for its channel and for the events that are forwarded at once.  Rounds of housekeeping do not
follow one another at once.  Whatever comes once it runs, at readings in range no clock runs
out under a submission, and every request can be answered.

Memory is taken as unbounded, and with it the size of the table of shards: the service starts
here with as many shards as its settings ask for, however many these are. -/
theorem Settings.starts_and_goes_on {lookup : String → Option String} {settings : Settings}
    (h : Settings.ofLookup lookup = .ok settings) (route : String → Nat) (now : Instant) :
    ((∃ gateway, Gateway.start settings route now = .ok gateway) ↔
      settings.consumerCapacity ≤ maxPermits ∧ settings.maxConcurrentForwards ≤ maxPermits) ∧
    0 < settings.housekeepingInterval ∧
    ∀ gateway, Gateway.start settings route now = .ok gateway →
      ∀ ops : List Crowd.Op, (∀ op ∈ ops, op.InRange) →
        let crowd := (Crowd.opened gateway).run ops
        (∀ visit ∈ crowd.visits, visit.stage.isCrashed = false) ∧
        ∀ request readings, readings.InRange →
          ∃ response, (crowd.gateway.respond request readings).1 = .ok response := by
  have hbounded := Settings.bounded h
  refine ⟨Gateway.start_ok_iff, Nat.mul_pos hbounded.housekeeping.1 (by decide), ?_⟩
  intro gateway hstart ops hrange crowd
  have hopened : Crowd.Steady settings (Crowd.opened gateway) :=
    ⟨Gateway.configured_start hstart, fun _ hvisit => nomatch hvisit⟩
  have hsteady : Crowd.Steady settings crowd := hopened.run hbounded hrange
  refine ⟨hsteady.calm, fun request readings hreadings => ?_⟩
  exact (hsteady.configured.roomy hbounded hreadings).answered request

/-- What is told of a result that is there belongs to a result. -/
theorem exists_ok_of_map_toOption {ε α β : Type} {result : Except ε α} {f : α → β} {b : β}
    (h : result.toOption.map f = some b) : ∃ a, result = .ok a ∧ f a = b := by
  cases result with
  | error e => simp [Except.toOption] at h
  | ok a => exact ⟨a, rfl, Option.some.inj h⟩

/-- What an operator sets who wants long leases and a channel for so many events. -/
def chosen (capacity : String) (name : String) : Option String :=
  if name = Setting.hmacSecret.name then some "********************************"
  else if name = Setting.idempotencyTtlSecs.name then some "86400"
  else if name = Setting.consumerCapacity.name then some capacity
  else none

/-- The last readings in range. -/
def lastReadings : Readings where
  leaseAt := (Instant.maxSeconds - maxTtlSecs) * nanosPerSecond
  limiterAt := 0
  wallAt := WallTime.latest - blockBoundSecs * nanosPerSecond

/-- A channel for as many events as there are permits, and a submission at the last readings. -/
theorem Settings.starts_and_goes_on_lastReadings :
    let ops : List Crowd.Op :=
      .receive Gateway.signedRequest lastReadings :: List.replicate 6 (.advance 0 lastReadings)
    ∃ settings, Settings.ofLookup (chosen "2305843009213693951") = .ok settings ∧
      settings.consumerCapacity = maxPermits ∧
      ∃ gateway, Gateway.start settings String.length 0 = .ok gateway ∧
        (∀ op ∈ ops, op.InRange) ∧
        ∀ visit ∈ ((Crowd.opened gateway).run ops).visits, visit.stage.isCrashed = false := by
  intro ops
  have hrange : ∀ op ∈ ops, op.InRange := by
    intro op hop
    rcases List.mem_cons.mp hop with rfl | hstep
    · trivial
    · rw [List.eq_of_mem_replicate hstep]
      exact ⟨by decide, by decide, by decide⟩
  have hpermits : (Settings.ofLookup (chosen "2305843009213693951")).toOption.map
      (fun settings => (settings.consumerCapacity, settings.maxConcurrentForwards)) =
        some (maxPermits, 8) := by
    decide +kernel
  obtain ⟨settings, hsettings, hboth⟩ := exists_ok_of_map_toOption hpermits
  obtain ⟨hcapacity, hforwards⟩ := Prod.mk.inj hboth
  have hfew : settings.maxConcurrentForwards ≤ maxPermits := by
    rw [hforwards]
    decide
  obtain ⟨hstarts, -, hgoes⟩ := Settings.starts_and_goes_on hsettings String.length 0
  obtain ⟨gateway, hstart⟩ := hstarts.mpr ⟨Nat.le_of_eq hcapacity, hfew⟩
  exact ⟨settings, hsettings, hcapacity, gateway, hstart, hrange,
    (hgoes gateway hstart ops hrange).1⟩

/-- One event more is accepted as a setting, and the service does not start. -/
theorem Settings.accepted_not_started :
    ∃ settings, Settings.ofLookup (chosen "2305843009213693952") = .ok settings ∧
      Gateway.start settings String.length 0 = .error .tooManyPermits := by
  have hcapacity : (Settings.ofLookup (chosen "2305843009213693952")).toOption.map
      Settings.consumerCapacity = some (maxPermits + 1) := by
    decide +kernel
  obtain ⟨settings, hsettings, hroomy⟩ := exists_ok_of_map_toOption hcapacity
  refine ⟨settings, hsettings, ?_⟩
  simp [Gateway.start, Channel.create, hroomy, bind, Except.bind]

end Turnstile
