import Turnstile.Proofs.Fairness.Invariants
import Turnstile.Proofs.Fairness.Scores
import Turnstile.Proofs.Fairness.Transitions

/-!
# The parts of a record fit each other

A record keeps a count, a score, a block and two times, and they are written at different
places of a judgement.  Still each tells something about the others.  An active player is
within the threshold, whoever is blocked for a flood is one event beyond it, and whoever is
blocked for a gain is not beyond it.  A block was put on when the player was last seen, and
ends as much later as its reason says.

All of that is said of records as they are stored, also of those whose block is over by now.
Only an event whose block would end outside the calendar leaves a record with parts that do
not fit: it is counted, and the block that is due is missing.

Main definitions and results:

- `Activity.Tallied`, `Activity.Coherent`: count and block fit, and all parts do.
- `Activity.Tallied.judged`: a judgement that comes to an end leaves count and block that fit.
- `Tracker.Timely`: an operation that no block keeps from coming to an end.
- `Tracker.tallied_step`, `Tracker.tallied_run`: operations and runs that come to an end leave
  counts and blocks that fit.
- `Tracker.coherent_run`: the parts of every record that can arise fit each other.
-/

namespace Turnstile

namespace Activity

variable {policy : Policy} {event : Event} {now : WallTime} {activity after : Activity}
  {verdict : Verdict}

/-! ## Counting up to the threshold -/

/-- An event floods exactly when the tally with it is above the threshold. -/
theorem floods_arrive_iff (hthreshold : 1 ≤ policy.anomalyThreshold) :
    (activity.arrive now).floods policy now = true ↔
      policy.anomalyThreshold < (activity.counted policy now).count := by
  rw [floods_iff hthreshold, counted, tally_count]

/-- A tally counts the event at hand. -/
theorem one_le_counted_count : 1 ≤ (activity.counted policy now).count := by
  rw [counted, tally_count]
  unfold nextCount maxCount
  omega

/-- A tally holds no block. -/
theorem counted_block (policy : Policy) (now : WallTime) (activity : Activity) :
    (activity.counted policy now).block = none := by
  rw [counted, tally_block, arrive_block]

/-- A tally is the last that was seen of the player. -/
theorem counted_lastSeen (policy : Policy) (now : WallTime) (activity : Activity) :
    (activity.counted policy now).lastSeen = now := by
  rw [counted, tally_lastSeen]
  rfl

/-! ## Count and block -/

/-- The count of a record and its block fit each other. -/
structure Tallied (policy : Policy) (activity : Activity) : Prop where
  active : activity.block = none → activity.count ≤ policy.anomalyThreshold
  flooded : ∀ endsAt, activity.block = some ⟨.eventFlood, endsAt⟩ →
    activity.count = policy.anomalyThreshold + 1 ∧
      endsAt = activity.lastSeen + policy.floodBlock
  excessive : ∀ endsAt, activity.block = some ⟨.scoreAnomaly, endsAt⟩ →
    (1 ≤ activity.count ∧ activity.count ≤ policy.anomalyThreshold) ∧
      endsAt = activity.lastSeen + policy.scoreBlock

/-- Without a block it is enough that the count is within the threshold. -/
theorem tallied_of_active (hblock : activity.block = none)
    (hcount : activity.count ≤ policy.anomalyThreshold) : activity.Tallied policy where
  active _ := hcount
  flooded := by simp [hblock]
  excessive := by simp [hblock]

/-- A new record counts nothing. -/
theorem tallied_fresh (policy : Policy) (now : WallTime) : (fresh now).Tallied policy :=
  tallied_of_active rfl (Nat.zero_le _)

/-- A record whose block was lifted counts nothing. -/
theorem tallied_clear (policy : Policy) (activity : Activity) : activity.clear.Tallied policy :=
  tallied_of_active rfl (Nat.zero_le _)

namespace Tallied

/-- While no block is in force, what counts of a record is within the threshold: a block that
is over has taken the count with it. -/
theorem effective_count_le (h : activity.Tallied policy) (hfree : activity.blockAt? now = none) :
    (activity.effective now).count ≤ policy.anomalyThreshold := by
  unfold effective
  cases hblock : activity.block with
  | none => simpa using h.active hblock
  | some block => simp [hfree, clear]

/-- While no block is in force, a tally is one above the threshold at most. -/
theorem counted_count_le (h : activity.Tallied policy) (hfree : activity.blockAt? now = none) :
    (activity.counted policy now).count ≤ policy.anomalyThreshold + 1 := by
  have hcount : ({ activity.effective now with lastSeen := now } : Activity).count ≤
      policy.anomalyThreshold := h.effective_count_le hfree
  rw [counted, tally_count, arrive_of_free hfree]
  unfold nextCount windowCount
  split <;> omega

/-- A judgement that comes to an end leaves a count and a block that fit each other. -/
theorem judged (h : activity.Tallied policy) (hthreshold : 1 ≤ policy.anomalyThreshold)
    (hjudged : Judged policy event now activity verdict after)
    (hverdict : ∀ fault, verdict ≠ .stuck fault) : after.Tallied policy := by
  have hseen := counted_lastSeen policy now activity
  cases hjudged with
  | held => exact h
  | flooded hfree hflood hend =>
      have habove := (floods_arrive_iff hthreshold).mp hflood
      have hbelow := h.counted_count_le hfree
      refine ⟨by simp, fun endsAt hblock => ?_, by simp⟩
      obtain ⟨-, rfl⟩ := by simpa using hblock
      change (activity.counted policy now).count = _ ∧
        _ = (activity.counted policy now).lastSeen + policy.floodBlock
      rw [hseen]
      exact ⟨by omega, WallTime.eq_add_of_shift? hend⟩
  | excessive hfree hcalm hgain hend =>
      have hbelow := mt (floods_arrive_iff hthreshold).mpr (Bool.eq_false_iff.mp hcalm)
      refine ⟨by simp, by simp, fun endsAt hblock => ?_⟩
      obtain ⟨-, rfl⟩ := by simpa using hblock
      change (1 ≤ (activity.counted policy now).count ∧ _) ∧
        _ = (activity.counted policy now).lastSeen + policy.scoreBlock
      rw [hseen]
      exact ⟨⟨one_le_counted_count, Nat.le_of_not_lt hbelow⟩, WallTime.eq_add_of_shift? hend⟩
  | admitted hfree hcalm =>
      have hbelow := mt (floods_arrive_iff hthreshold).mpr (Bool.eq_false_iff.mp hcalm)
      exact tallied_of_active (counted_block policy now activity) (Nat.le_of_not_lt hbelow)
  | stuck => exact absurd rfl (hverdict _)

end Tallied

/-! ## All parts -/

/-- The parts of a record fit each other. -/
structure Coherent (policy : Policy) (activity : Activity) : Prop extends
    activity.Tallied policy where
  ordered : activity.windowStart ≤ activity.lastSeen
  score_nonneg : 0 ≤ activity.score

end Activity

namespace Tracker

variable {policy : Policy} {tracker : Tracker} {op : Op} {ops : List Op}

/-- No event of a run is left without an end because its block would end outside the
calendar. -/
def Timely (tracker : Tracker) (ops : List Op) : Prop :=
  ∀ hearing ∈ tracker.docket ops, ∀ fault, hearing.verdict ≠ .stuck fault

/-- A run comes to an end when its first operation and the rest of it do. -/
theorem timely_cons_iff :
    tracker.Timely (op :: ops) ↔ tracker.Timely [op] ∧ (tracker.step op).2.Timely ops := by
  unfold Timely
  rw [docket_cons, List.forall_mem_append]

/-- An operation that comes to an end leaves counts and blocks that fit each other. -/
theorem tallied_step (hthreshold : 1 ≤ policy.anomalyThreshold) (hunder : tracker.Under policy)
    (hall : tracker.All (Activity.Tallied policy)) (htimely : tracker.Timely [op]) :
    (tracker.step op).2.All (Activity.Tallied policy) := by
  refine hall.step hunder op ?_ fun _ => Activity.tallied_clear policy _
  intro event now hop
  subst hop
  have hmet := hall.met (Activity.tallied_fresh policy) event.playerId now
  refine hmet.judged hthreshold (Activity.judged policy event now _) ?_
  have hverdict := htimely ⟨event, now, (tracker.check event now).1⟩ (List.mem_singleton.mpr rfl)
  rwa [check_fst, hunder.policy_eq] at hverdict

/-- A run that comes to an end leaves counts and blocks that fit each other. -/
theorem tallied_run (hthreshold : 1 ≤ policy.anomalyThreshold) (hunder : tracker.Under policy)
    (hall : tracker.All (Activity.Tallied policy)) (htimely : tracker.Timely ops) :
    (tracker.run ops).2.All (Activity.Tallied policy) := by
  induction ops generalizing tracker with
  | nil => exact hall
  | cons op ops ih =>
      obtain ⟨hfirst, hrest⟩ := timely_cons_iff.mp htimely
      exact ih (hunder.step op) (tallied_step hthreshold hunder hall hfirst) hrest

/-- Take limits that make sense, and events that were read from bodies.  After every run of
operations, at times in any order, in which no block would end outside the calendar, the parts
of each record fit each other. -/
theorem coherent_run (hvalid : policy.Valid) (route : String → Nat) (shardCount : Nat)
    (hops : ∀ op ∈ ops, op.IsInbound) (htimely : (new policy route shardCount).Timely ops)
    {playerId : String} {activity : Activity}
    (hrecord : ((new policy route shardCount).run ops).2.record? playerId = some activity) :
    activity.Coherent policy := by
  have hunder := under_new policy route shardCount
  have htallied :=
    tallied_run hvalid.threshold_pos hunder (all_new _ policy route shardCount) htimely
  have hordered := (Activity.kept_ordered policy).of_run_new route shardCount ops
  have hscore := (bounded_new policy route shardCount).run hunder.sharded hops playerId
  rw [score, hrecord] at hscore
  exact {
    toTallied := htallied playerId activity hrecord
    ordered := hordered playerId activity hrecord
    score_nonneg := hscore.1 }

/-- The clock is set back before a second event, which floods.  The block is lifted, and inside
the old window an event gains too much; so does another when its block is just over. -/
theorem coherent_run_blockedAgain :
    let policy := { Policy.standard with anomalyThreshold := 1 }
    let later : WallTime := 600 * nanosPerSecond + 60
    let ops : List Op :=
      [.check (progressionOf 7) 100, .check (progressionOf 1001) 40, .unblock "p" 50,
        .check (progressionOf 1001) 60, .check (progressionOf 1001) later]
    let activity : Activity :=
      ⟨later, 1, 0, some ⟨.scoreAnomaly, later + policy.scoreBlock⟩, later⟩
    policy.Valid ∧ (∀ op ∈ ops, op.IsInbound) ∧
      (new policy String.length 4).Timely ops ∧
      ((new policy String.length 4).run ops).2.record? "p" = some activity ∧
      activity.Coherent policy := by
  intro policy later ops activity
  have hvalid : policy.Valid := { Policy.valid_standard with threshold_pos := by decide }
  have hsmall : (progressionOf 7).IsInbound :=
    ⟨Text.Utf8.encodeString (progressionOf 7).toJson.toText, by decide +kernel⟩
  have hlarge : (progressionOf 1001).IsInbound :=
    ⟨Text.Utf8.encodeString (progressionOf 1001).toJson.toText, by decide +kernel⟩
  have hops : ∀ op ∈ ops, op.IsInbound := by
    simp only [ops, List.forall_mem_cons, List.not_mem_nil, false_implies, implies_true, and_true]
    exact ⟨Op.isInbound_check hsmall _, Op.isInbound_check hlarge _, by simp [Op.IsInbound],
      Op.isInbound_check hlarge _, Op.isInbound_check hlarge _⟩
  have htimely : (new policy String.length 4).Timely ops := by
    have hends : ∀ hearing ∈ (new policy String.length 4).docket ops,
        hearing.verdict ≠ .stuck .calendar ∧ hearing.verdict ≠ .stuck .monotonic := by
      decide +kernel
    intro hearing hhearing fault
    cases fault with
    | calendar => exact (hends hearing hhearing).1
    | monotonic => exact (hends hearing hhearing).2
  have hrecord : ((new policy String.length 4).run ops).2.record? "p" = some activity := by
    decide +kernel
  exact ⟨hvalid, hops, htimely, hrecord, coherent_run hvalid String.length 4 hops htimely hrecord⟩

end Tracker

end Turnstile
