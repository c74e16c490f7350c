import Turnstile.Proofs.Fairness.Docket
import Turnstile.Proofs.Fairness.Windows

/-!
# Who keeps to the limits is not refused

A player of whom no more events come in any window's length than one window allows, and
who never gains too much at once, is never refused.  A window begins with an event and
counts the events since, so no record counts more than came within a window's length.
Whether records are dropped or cleared in between makes no difference, for then less is
counted.

Main definitions and results:

- `Activity.Blameless`: no block, and nothing counted that did not come.
- `Tracker.step_of_modest`, `Tracker.docket_of_modest`: an operation and a run of such a
  player.
- `Tracker.modest_player_admitted`: whoever keeps to the limits is always admitted.
-/

namespace Turnstile

namespace Activity

variable {policy : Policy} {event : Event} {clock now : WallTime} {calls : List WallTime}
  {activity : Activity}

/-- A record is not blocked, and counts no more events than the calls that came within a
window's length from the start of its window. -/
structure Blameless (policy : Policy) (clock : WallTime) (calls : List WallTime)
    (activity : Activity) : Prop where
  block : activity.block = none
  started : activity.windowStart ≤ clock
  count_le : activity.count ≤ countWithin activity.windowStart policy.window calls

/-- As time goes on a record stays blameless. -/
theorem Blameless.wait (h : activity.Blameless policy clock calls) (hnow : clock ≤ now) :
    activity.Blameless policy now calls :=
  { h with started := Int.le_trans h.started hnow }

/-- Clearing a record leaves nothing counted. -/
theorem Blameless.clear (h : activity.Blameless policy clock calls) :
    activity.clear.Blameless policy clock calls where
  block := rfl
  started := h.started
  count_le := Nat.zero_le _

/-- A record on which a window has just begun counts the call that began it. -/
theorem blameless_first (hwindow : 0 < policy.window) (calls : List WallTime) (score : Int) :
    ({ fresh now with count := 1, score := score } : Activity).Blameless policy now
      (calls ++ [now]) where
  block := rfl
  started := Int.le_refl now
  count_le := by
    have hthis : countWithin now policy.window [now] = 1 :=
      countWithin_singleton_of_mem (Int.le_refl now) (Int.lt_add_of_pos_right now hwindow)
    change 1 ≤ countWithin now policy.window (calls ++ [now])
    rw [countWithin_append, hthis]
    exact Nat.le_add_left 1 _

/-- An event of a player who keeps to the limits does not flood, and is counted as the call
that it is. -/
theorem Blameless.counted (h : activity.Blameless policy clock calls) (hwindow : 0 < policy.window)
    (hnow : clock ≤ now)
    (hrate : ∀ origin, countWithin origin policy.window (calls ++ [now]) ≤
      policy.anomalyThreshold) :
    (activity.arrive now).floods policy now = false ∧
      (activity.counted policy now).Blameless policy now (calls ++ [now]) := by
  have hfree : activity.blockAt? now = none := by simp [blockAt?, h.block]
  have hstart := Int.le_trans h.started hnow
  by_cases hover : activity.windowStart + policy.window ≤ now
  · have hspent : activity.Spent policy now := ⟨hfree, hover⟩
    rw [hspent.counted]
    exact ⟨hspent.floods_eq, blameless_first hwindow calls _⟩
  · have hopen := Int.not_le.mp hover
    have hcalls : activity.count + 1 ≤
        countWithin activity.windowStart policy.window (calls ++ [now]) := by
      rw [countWithin_append, countWithin_singleton_of_mem hstart hopen]
      exact Nat.add_le_add_right h.count_le 1
    have hnext : nextCount activity.count ≤ activity.count + 1 := Nat.min_le_left _ _
    rw [floods_of_open h.block hopen, counted_of_open h.block hstart hopen]
    refine ⟨?_, h.block, hstart, Nat.le_trans hnext hcalls⟩
    have hallowed := Nat.le_trans (Nat.le_trans hnext hcalls) (hrate activity.windowStart)
    simpa using hallowed

/-- The first event of a stranger does not flood, and is counted as the call that it is. -/
theorem blameless_counted_fresh (hthreshold : 1 ≤ policy.anomalyThreshold)
    (hwindow : 0 < policy.window) (calls : List WallTime) :
    ((fresh now).arrive now).floods policy now = false ∧
      ((fresh now).counted policy now).Blameless policy now (calls ++ [now]) := by
  have hcounted : (fresh now).counted policy now = { fresh now with count := 1, score := 0 } :=
    counted_fresh policy now 0
  rw [hcounted]
  exact ⟨floods_fresh hthreshold now 0, blameless_first hwindow calls 0⟩

end Activity

namespace Tracker

variable {policy : Policy} {playerId : String} {tracker : Tracker} {clock : WallTime}
  {earlier : List WallTime}

/-- The record of a player, if there is one, is blameless. -/
def Blameless (policy : Policy) (clock : WallTime) (calls : List WallTime)
    (record : Option Activity) : Prop :=
  ∀ activity, record = some activity → activity.Blameless policy clock calls

/-- A modest event of a player who keeps to the limits is admitted, and the record stays
blameless. -/
theorem Blameless.judge (hthreshold : 1 ≤ policy.anomalyThreshold) (hwindow : 0 < policy.window)
    {record : Option Activity} (h : Blameless policy clock earlier record) {now : WallTime}
    (hnow : clock ≤ now)
    (hrate : ∀ origin, countWithin origin policy.window (earlier ++ [now]) ≤
      policy.anomalyThreshold)
    {event : Event} (hgain : ¬event.GainsAbove policy.scoreThreshold) :
    let judgement := (record.getD (Activity.fresh now)).judge policy event now
    (∃ admission, judgement.1 = .admitted admission) ∧
      judgement.2.Blameless policy now (earlier ++ [now]) := by
  have hfree : (record.getD (Activity.fresh now)).blockAt? now = none := by
    cases record with
    | none => rfl
    | some activity => simp [Activity.blockAt?, (h activity rfl).block]
  have hcounted : ((record.getD (Activity.fresh now)).arrive now).floods policy now = false ∧
      ((record.getD (Activity.fresh now)).counted policy now).Blameless policy now
        (earlier ++ [now]) := by
    cases record with
    | none => exact Activity.blameless_counted_fresh hthreshold hwindow earlier
    | some activity => exact (h activity rfl).counted hwindow hnow hrate
  have hmodest : Activity.anomalous policy event = false := by
    simpa using mt (Activity.anomalous_iff policy event).mp hgain
  rw [Activity.judge_of_calm hfree hcounted.1 hmodest]
  exact ⟨⟨_, rfl⟩, ⟨hcounted.2.block, hcounted.2.started, hcounted.2.count_le⟩⟩

/-- No operation puts blame on a player who keeps to the limits, and if it brings an event
of the player, that is admitted. -/
theorem step_of_modest (hthreshold : 1 ≤ policy.anomalyThreshold) (hwindow : 0 < policy.window)
    (hunder : tracker.Under policy) (h : Blameless policy clock earlier (tracker.record? playerId))
    {op : Op} (hnow : clock ≤ (Timed.time? op).getD clock)
    (hrate : ∀ origin, countWithin origin policy.window (earlier ++ calls playerId [op]) ≤
      policy.anomalyThreshold)
    (hgain : ∀ event now, op = .check event now → event.playerId = playerId →
      ¬event.GainsAbove policy.scoreThreshold) :
    (∀ hearing ∈ tracker.docket [op], hearing.event.playerId = playerId →
        ∃ admission, hearing.verdict = .admitted admission) ∧
      Blameless policy ((Timed.time? op).getD clock) (earlier ++ calls playerId [op])
        ((tracker.step op).2.record? playerId) := by
  have heffect := step_effect hunder op playerId
  generalize (tracker.step op).2.record? playerId = after at heffect ⊢
  cases heffect with
  | @judged event now hsame =>
      rw [calls_check_of_eq hsame] at hrate ⊢
      subst hsame
      obtain ⟨hadmitted, hafter⟩ :=
        h.judge hthreshold hwindow hnow hrate (hgain event now rfl rfl)
      constructor
      · intro hearing hheard _
        rw [docket_check, check_fst, hunder.policy_eq] at hheard
        obtain rfl := List.mem_singleton.mp hheard
        exact hadmitted
      · intro activity hactivity
        obtain rfl := Option.some.inj hactivity
        exact hafter
  | cleared now =>
      rw [calls_of_quiet (by simp), List.append_nil]
      refine ⟨by simp [docket_of_quiet], ?_⟩
      intro activity hactivity
      obtain ⟨before, hbefore, rfl⟩ := Option.map_eq_some_iff.mp hactivity
      exact ((h before hbefore).wait hnow).clear
  | swept now idle =>
      rw [calls_of_quiet (by simp), List.append_nil]
      refine ⟨by simp [docket_of_quiet], ?_⟩
      intro activity hactivity
      exact (h activity (Option.eq_some_of_filter_eq_some hactivity)).wait hnow
  | spared hquiet =>
      rw [calls_of_quiet hquiet, List.append_nil]
      refine ⟨?_, fun activity hactivity => (h activity hactivity).wait hnow⟩
      intro hearing hheard hsame
      exact absurd hsame (hquiet _ _ (mem_docket_singleton hheard).1)

/-- In a run in which a player keeps to the limits, every event of the player is admitted.
The limits are kept together with the calls that came before the run. -/
theorem docket_of_modest (hthreshold : 1 ≤ policy.anomalyThreshold) (hwindow : 0 < policy.window)
    (hunder : tracker.Under policy) (h : Blameless policy clock earlier (tracker.record? playerId))
    {ops : List Op} (hchron : Chronological clock ops)
    (hrate : ∀ origin, countWithin origin policy.window (earlier ++ calls playerId ops) ≤
      policy.anomalyThreshold)
    (hgain : ∀ event now, .check event now ∈ ops → event.playerId = playerId →
      ¬event.GainsAbove policy.scoreThreshold) :
    ∀ hearing ∈ tracker.docket ops, hearing.event.playerId = playerId →
      ∃ admission, hearing.verdict = .admitted admission := by
  induction ops generalizing tracker clock earlier with
  | nil => simp [docket]
  | cons op ops ih =>
      rw [calls_cons, ← List.append_assoc] at hrate
      have hfirst : ∀ origin, countWithin origin policy.window (earlier ++ calls playerId [op]) ≤
          policy.anomalyThreshold := by
        intro origin
        have hall := hrate origin
        rw [countWithin_append] at hall
        exact Nat.le_of_add_right_le hall
      obtain ⟨hheard, hafter⟩ := step_of_modest hthreshold hwindow hunder h
        hchron.start_le_head hfirst
        (fun event now hop => hgain event now (List.mem_cons.mpr (Or.inl hop.symm)))
      have hrest := ih (hunder.step op) hafter
        hchron.tail hrate (fun event now hop => hgain event now (List.mem_cons_of_mem op hop))
      intro hearing hmem
      rw [docket_cons] at hmem
      rcases List.mem_append.mp hmem with hthis | hlater
      · exact hheard hearing hthis
      · exact hrest hearing hlater

/-- Let the clock not go back, and let a player keep to the limits: in any window's length no
more events of the player come than the threshold, and none gains too much at once.  Then
every event of the player is admitted, whatever else happens in the run. -/
theorem modest_player_admitted (hthreshold : 1 ≤ policy.anomalyThreshold)
    (hwindow : 0 < policy.window) (route : String → Nat) (shardCount : Nat) (playerId : String)
    {start : WallTime} {ops : List Op} (hchron : Chronological start ops)
    (hrate : ∀ origin, countWithin origin policy.window (calls playerId ops) ≤
      policy.anomalyThreshold)
    (hgain : ∀ event now, .check event now ∈ ops → event.playerId = playerId →
      ¬event.GainsAbove policy.scoreThreshold) :
    ∀ hearing ∈ (new policy route shardCount).docket ops, hearing.event.playerId = playerId →
      ∃ admission, hearing.verdict = .admitted admission := by
  have hnew : Blameless policy start [] ((new policy route shardCount).record? playerId) := by
    intro activity hrecord
    rw [record?_new] at hrecord
    contradiction
  exact docket_of_modest hthreshold hwindow (under_new policy route shardCount) hnew hchron hrate
    hgain

/-- Where one event a window is allowed, a player whose events come a window's length apart is
admitted each time, while another floods, a block is lifted that is not there, and silent
players are dropped at once. -/
theorem modest_player_admitted_in_company :
    let policy := { Policy.standard with anomalyThreshold := 1 }
    let second : WallTime := nanosPerSecond
    let event : Event := ⟨"ann", 0, .progression ⟨1000, none⟩⟩
    let other : Event := ⟨"bob", 0, .progression ⟨5, none⟩⟩
    let ops : List Op := [.check event 0, .check other 0, .check other 1, .unblock "ann" 1,
      .evictIdle 2 0, .check event second]
    let docket := (new policy (fun _ => 0) 16).docket ops
    (∀ hearing ∈ docket, hearing.event.playerId = "ann" →
        ∃ admission, hearing.verdict = .admitted admission) ∧
      admissions "ann" docket = [0, second] ∧ admissions "bob" docket = [0] := by
  intro policy second event other ops docket
  have hchron : Chronological 0 ops := by
    unfold Chronological
    decide
  have hcalls : calls "ann" ops = [0, second] := by decide
  have hrate : ∀ origin, countWithin origin policy.window (calls "ann" ops) ≤
      policy.anomalyThreshold := by
    intro origin
    rw [hcalls]
    change countWithin origin second [0, second] ≤ 1
    simp only [countWithin, List.countP_cons, List.countP_nil, decide_eq_true_eq]
    split <;> split <;> omega
  have hgain : ∀ event now, .check event now ∈ ops → event.playerId = "ann" →
      ¬event.GainsAbove policy.scoreThreshold := by
    intro gainer now hmem _
    simp only [ops, List.mem_cons, List.not_mem_nil, or_false, Op.check.injEq, reduceCtorEq,
      false_or] at hmem
    rcases hmem with ⟨rfl, -⟩ | ⟨rfl, -⟩ | ⟨rfl, -⟩ | ⟨rfl, -⟩ <;> decide
  exact ⟨modest_player_admitted (by decide) (by decide) (fun _ => 0) 16 "ann" hchron hrate hgain,
    by decide, by decide⟩

end Tracker
end Turnstile
