import Turnstile.Proofs.Fairness.Docket
import Turnstile.Proofs.Fairness.Invariants

/-!
# How many events of a player can pass

A window admits so many events, but windows begin where events come, so a span of time
need not fall together with them.  Still, windows of a player begin at least a window's
length apart, whether the next one begins because the last is over, because a block is
over or because the record was dropped.  And of the window that is open when the span
begins, one event was counted before it.

Main definitions and results:

- `Activity.ceiling`: what a record says about the events admitted since an origin.
- `Tracker.Contained`: the account of a player keeps below that ceiling.
- `Tracker.Contained.judge`, `Tracker.Contained.step`, `Tracker.Contained.run`: events,
  operations and runs leave the account below the ceiling.
- `Tracker.admissions_within_le`: the bound for every span of time.
-/

namespace Turnstile

/-! ## What a record says -/

namespace Activity

variable {policy : Policy} {origin now : WallTime} {activity : Activity}

/-- More events than can have been admitted since an origin: the threshold for each window
that had begun when the present one began, and what is counted in that. -/
def ceiling (policy : Policy) (origin : WallTime) (activity : Activity) : Nat :=
  policy.anomalyThreshold * spansBegun policy.window origin activity.windowStart +
    min activity.count policy.anomalyThreshold

/-- An event that is counted into an open window raises the ceiling, unless it floods. -/
theorem ceiling_counted_of_open (origin : WallTime)
    (hthreshold : policy.anomalyThreshold < maxCount) (hblock : activity.block = none)
    (hstart : activity.windowStart ≤ now)
    (hopen : now < activity.windowStart + policy.window) :
    activity.ceiling policy origin ≤ (activity.counted policy now).ceiling policy origin ∧
      ((activity.arrive now).floods policy now = false →
        activity.ceiling policy origin + 1 ≤
          (activity.counted policy now).ceiling policy origin) := by
  rw [counted_of_open hblock hstart hopen, floods_of_open hblock hopen, decide_eq_false_iff_not]
  simp only [ceiling, nextCount]
  omega

/-- The ceiling where a window has just begun. -/
theorem ceiling_first (hthreshold : 1 ≤ policy.anomalyThreshold) (score : Int) :
    ({ fresh now with count := 1, score := score } : Activity).ceiling policy origin =
      policy.anomalyThreshold * spansBegun policy.window origin now + 1 := by
  simp only [ceiling, fresh, Nat.min_eq_left hthreshold]

end Activity

namespace Tracker

open Activity (fresh ceiling)

/-! ## The account of a player -/

/-- The account of a player at a time: at which times since an origin events were admitted,
beside the record.  Without a record the next window begins now or later. -/
structure Contained (policy : Policy) (origin clock : WallTime) (record : Option Activity)
    (admitted : List WallTime) : Prop where
  past : ∀ t ∈ admitted, t ≤ clock
  within : ∀ k : Nat, 1 ≤ k → countWithin origin (k * policy.window) admitted ≤
    (k + 1) * policy.anomalyThreshold - 1
  absent : record = none → countSince origin admitted ≤
    policy.anomalyThreshold * spansBegun policy.window origin clock - 1
  present : ∀ activity, record = some activity → activity.windowStart ≤ clock ∧
    countSince origin admitted < activity.ceiling policy origin

namespace Contained

variable {policy : Policy} {origin clock now : WallTime} {record : Option Activity}
  {activity after : Activity} {admitted : List WallTime}

/-- The account of a player without a record, of whom nothing was admitted, is in order. -/
theorem none_nil (policy : Policy) (origin clock : WallTime) :
    Contained policy origin clock none [] where
  past := by simp
  within := by simp [countWithin]
  absent := by simp [countSince]
  present := by simp

/-- The account of a player stays in order as time goes on. -/
theorem wait (hwindow : 0 < policy.window) (h : Contained policy origin clock record admitted)
    (hnow : clock ≤ now) : Contained policy origin now record admitted where
  past t ht := Int.le_trans (h.past t ht) hnow
  within := h.within
  absent habsent :=
    Nat.le_trans (h.absent habsent)
      (Nat.sub_le_sub_right (Nat.mul_le_mul_left _ (spansBegun_mono hwindow hnow)) 1)
  present activity hrecord :=
    ⟨Int.le_trans (h.present activity hrecord).1 hnow, (h.present activity hrecord).2⟩

/-- When a record is spent, the next window begins a window's length after the last. -/
theorem room_of_spent (hwindow : 0 < policy.window)
    (h : Contained policy origin clock (some activity) admitted) (hnow : clock ≤ now)
    (hspent : activity.Spent policy now) :
    countSince origin admitted ≤
      policy.anomalyThreshold * spansBegun policy.window origin now - 1 := by
  by_cases horigin : origin ≤ now
  · have hbelow := (h.present activity rfl).2
    have hbegun := Nat.mul_le_mul_left policy.anomalyThreshold
      (spansBegun_succ_le hwindow horigin hspent.closed)
    rw [Nat.mul_succ] at hbegun
    unfold ceiling at hbelow
    omega
  · -- Nothing was admitted since the origin, which is still to come.
    have hnothing : countSince origin admitted = 0 :=
      countSince_eq_zero fun t ht =>
        Int.lt_of_le_of_lt (Int.le_trans (h.past t ht) hnow) (Int.not_le.mp horigin)
    rw [hnothing]
    exact Nat.zero_le _

/-- Where a window begins there is room for its first event. -/
theorem below_first (hthreshold : 1 ≤ policy.anomalyThreshold) (hwindow : 0 < policy.window)
    (hroom : countSince origin admitted ≤
      policy.anomalyThreshold * spansBegun policy.window origin now - 1) (score : Int) :
    countSince origin (admitted ++ [now]) <
      ({ fresh now with count := 1, score := score } : Activity).ceiling policy origin := by
  rw [Activity.ceiling_first hthreshold, countSince_append, countSince_singleton]
  split
  · rename_i horigin
    have hbegun := Nat.mul_le_mul hthreshold (spansBegun_pos hwindow horigin)
    omega
  · omega

/-- An event that is tallied keeps the account below the ceiling, also with the event if it
does not flood. -/
theorem below_counted (hlasting : policy.Lasting) (hthreshold : policy.anomalyThreshold < maxCount)
    (h : Contained policy origin clock record admitted) (hnow : clock ≤ now)
    (houtlasting : ∀ activity, record = some activity → activity.Outlasting policy)
    (hfree : (record.getD (fresh now)).blockAt? now = none) :
    countSince origin admitted <
        ((record.getD (fresh now)).counted policy now).ceiling policy origin ∧
      (((record.getD (fresh now)).arrive now).floods policy now = false →
        countSince origin (admitted ++ [now]) <
          ((record.getD (fresh now)).counted policy now).ceiling policy origin) := by
  have hwindow := hlasting.window_pos
  have hmore : countSince origin admitted ≤ countSince origin (admitted ++ [now]) := by
    rw [countSince_append]
    exact Nat.le_add_right _ _
  cases record with
  | none =>
      have hroom := (h.wait hwindow hnow).absent rfl
      have hfirst := below_first hlasting.threshold_pos hwindow hroom 0
      have hcounted : (fresh now).counted policy now = { fresh now with count := 1, score := 0 } :=
        Activity.counted_fresh policy now 0
      rw [Option.getD_none, hcounted]
      exact ⟨Nat.lt_of_le_of_lt hmore hfirst, fun _ => hfirst⟩
  | some activity =>
      rw [Option.getD_some] at hfree ⊢
      rcases (houtlasting activity rfl).spent_or_open hfree with hspent | ⟨hblock, hopen⟩
      · have hroom := h.room_of_spent hwindow hnow hspent
        have hfirst := below_first hlasting.threshold_pos hwindow hroom
          (activity.effective now).score
        rw [hspent.counted]
        exact ⟨Nat.lt_of_le_of_lt hmore hfirst, fun _ => hfirst⟩
      · obtain ⟨hstart, hbelow⟩ := h.present activity rfl
        obtain ⟨hsame, hraised⟩ := Activity.ceiling_counted_of_open origin hthreshold hblock
          (Int.le_trans hstart hnow) hopen
        refine ⟨Nat.lt_of_lt_of_le hbelow hsame, fun hcalm => ?_⟩
        have hroom := hraised hcalm
        rw [countSince_append, countSince_singleton]
        split <;> omega

/-! ### One event -/

/-- An event that was counted and not admitted leaves the account as it is. -/
theorem counted (h : Contained policy origin clock record admitted) (hnow : clock ≤ now)
    (hstart : after.windowStart ≤ now)
    (hbelow : countSince origin admitted < after.ceiling policy origin) :
    Contained policy origin now (some after) admitted where
  past t ht := Int.le_trans (h.past t ht) hnow
  within := h.within
  absent habsent := by contradiction
  present activity hrecord := by
    obtain rfl := Option.some.inj hrecord
    exact ⟨hstart, hbelow⟩

/-- An event that was admitted goes into the account.  Of the spans that it lies in, no more
windows have begun than the span has room for. -/
theorem accept (hwindow : 0 < policy.window) (h : Contained policy origin clock record admitted)
    (hnow : clock ≤ now) (hstart : after.windowStart ≤ now)
    (hbelow : countSince origin (admitted ++ [now]) < after.ceiling policy origin) :
    Contained policy origin now (some after) (admitted ++ [now]) where
  past := by
    intro t ht
    rcases List.mem_append.mp ht with hearlier | hthis
    · exact Int.le_trans (h.past t hearlier) hnow
    · exact Int.le_of_eq (List.mem_singleton.mp hthis)
  within := by
    intro k hk
    by_cases hend : now < origin + k * policy.window
    · have hbegun := Nat.mul_le_mul_left policy.anomalyThreshold
        (spansBegun_le hwindow (Int.lt_of_le_of_lt hstart hend))
      have hcount : countWithin origin (k * policy.window) (admitted ++ [now]) ≤ _ :=
        countWithin_le_countSince
      unfold ceiling at hbelow
      rw [Nat.add_mul, Nat.mul_comm k]
      omega
    · rw [countWithin_append, countWithin_singleton_of_le (Int.not_lt.mp hend)]
      exact h.within k hk
  absent habsent := by contradiction
  present activity hrecord := by
    obtain rfl := Option.some.inj hrecord
    exact ⟨hstart, hbelow⟩

/-- Judging an event of the player keeps the account in order. -/
theorem judge (hlasting : policy.Lasting) (hthreshold : policy.anomalyThreshold < maxCount)
    (h : Contained policy origin clock record admitted) (hnow : clock ≤ now)
    (houtlasting : ∀ activity, record = some activity → activity.Outlasting policy)
    (event : Event) :
    let judgement := (record.getD (fresh now)).judge policy event now
    Contained policy origin now (some judgement.2)
      (admitted ++ admissions event.playerId [⟨event, now, judgement.1⟩]) := by
  intro judgement
  have hwindow := hlasting.window_pos
  have hjudged := Activity.judged policy event now (record.getD (fresh now))
  change Activity.Judged policy event now _ judgement.1 judgement.2 at hjudged
  rcases hjudged.held_or_counted with ⟨hforce, hsame, hnever⟩ | ⟨hfree, hstart, hcount, -, hcalm⟩
  · -- A block in force is on a record, for a new record has none.
    have hrecord : record = some (record.getD (fresh now)) := by
      cases record with
      | none => exact absurd rfl hforce
      | some activity => rfl
    have hnone : admissions event.playerId [⟨event, now, judgement.1⟩] = [] := by
      rw [admissions_cons]
      cases hverdict : judgement.1 with
      | admitted admission => exact absurd hverdict (hnever admission)
      | refused _ | stuck _ => simp [Hearing.admits, admissions]
    rw [hnone, List.append_nil, hsame, ← hrecord]
    exact h.wait hwindow hnow
  · obtain ⟨hbelow, hraised⟩ := h.below_counted hlasting hthreshold hnow houtlasting hfree
    have hbegun : judgement.2.windowStart ≤ now := by
      rw [hstart]
      exact Activity.counted_windowStart_le policy now _
    have hceiling : judgement.2.ceiling policy origin =
        ((record.getD (fresh now)).counted policy now).ceiling policy origin := by
      simp only [ceiling, hstart, hcount]
    rw [← hceiling] at hbelow hraised
    rw [admissions_cons]
    cases hverdict : judgement.1 with
    | admitted admission =>
        simp only [Hearing.admits, and_self, if_true]
        exact h.accept hwindow hnow hbegun (hraised (hcalm admission hverdict))
    | refused _ | stuck _ =>
        simp only [Hearing.admits, Bool.false_eq_true, and_false, if_false]
        simpa [admissions] using h.counted hnow hbegun hbelow

/-! ### One operation -/

/-- Dropping the record of a player who has been silent for a window's length leaves the
account in order. -/
theorem evict (hwindow : 0 < policy.window) (h : Contained policy origin clock record admitted)
    (hnow : clock ≤ now) (hordered : ∀ activity, record = some activity → activity.Ordered)
    {idle : Span} (hidle : policy.window ≤ idle) :
    Contained policy origin now (record.filter (outlives now idle)) admitted := by
  cases record with
  | none => exact h.wait hwindow hnow
  | some activity =>
      cases hkept : outlives now idle activity with
      | true =>
          rw [Option.filter_some_pos hkept]
          exact h.wait hwindow hnow
      | false =>
          have hspent := (hordered activity rfl).spent hidle hkept
          rw [Option.filter_some_neg (by simp [hkept])]
          exact {
            past := (h.wait hwindow hnow).past
            within := h.within
            absent := fun _ => h.room_of_spent hwindow hnow hspent
            present := by simp }

end Contained

variable {policy : Policy} {origin clock : WallTime} {playerId : String} {tracker : Tracker}
  {admitted : List WallTime}

/-- Every operation but lifting the block of the player keeps the account in order, if no
player is dropped before a window's length of silence. -/
theorem Contained.step (hlasting : policy.Lasting) (hthreshold : policy.anomalyThreshold < maxCount)
    (hunder : tracker.Under policy) (hordered : tracker.All Activity.Ordered)
    (houtlasting : tracker.All (Activity.Outlasting policy))
    (h : Contained policy origin clock (tracker.record? playerId) admitted) {op : Op}
    (hnow : clock ≤ (Timed.time? op).getD clock) (hlift : ∀ now, op ≠ .unblock playerId now)
    (hidle : ∀ now idle, op = .evictIdle now idle → policy.window ≤ idle) :
    Contained policy origin ((Timed.time? op).getD clock) ((tracker.step op).2.record? playerId)
      (admitted ++ admissions playerId (tracker.docket [op])) := by
  have hwindow := hlasting.window_pos
  have heffect := step_effect hunder op playerId
  generalize (tracker.step op).2.record? playerId = after at heffect ⊢
  cases heffect with
  | @judged event now hsame =>
      subst hsame
      rw [docket_check, check_fst, hunder.policy_eq]
      exact h.judge hlasting hthreshold hnow (houtlasting event.playerId) event
  | cleared now => exact absurd rfl (hlift now)
  | swept now idle =>
      rw [admissions_of_quiet tracker (by simp), List.append_nil]
      exact h.evict hwindow hnow (hordered playerId) (hidle now idle rfl)
  | spared hquiet =>
      rw [admissions_of_quiet tracker hquiet, List.append_nil]
      exact h.wait hwindow hnow

/-! ## Runs -/

/-- A run in which nobody lifts the block of the player, and nobody is dropped before a
window's length of silence, keeps the account in order. -/
theorem Contained.run (hlasting : policy.Lasting) (hthreshold : policy.anomalyThreshold < maxCount)
    (hunder : tracker.Under policy) (hordered : tracker.All Activity.Ordered)
    (houtlasting : tracker.All (Activity.Outlasting policy))
    (h : Contained policy origin clock (tracker.record? playerId) admitted) {ops : List Op}
    (hchron : Chronological clock ops) (hlift : ∀ now, .unblock playerId now ∉ ops)
    (hidle : ∀ now idle, .evictIdle now idle ∈ ops → policy.window ≤ idle) :
    ∃ final, Contained policy origin final ((tracker.run ops).2.record? playerId)
      (admitted ++ admissions playerId (tracker.docket ops)) := by
  induction ops generalizing tracker clock admitted with
  | nil =>
      have hnothing : admitted ++ admissions playerId (tracker.docket []) = admitted :=
        List.append_nil admitted
      rw [hnothing]
      exact ⟨clock, h⟩
  | cons op ops ih =>
      have hstep := h.step hlasting hthreshold hunder hordered houtlasting
        hchron.start_le_head (fun now hop => hlift now (List.mem_cons.mpr (Or.inl hop.symm)))
        (fun now idle hop => hidle now idle (List.mem_cons.mpr (Or.inl hop.symm)))
      rw [docket_cons, admissions_append, ← List.append_assoc, run_cons_snd]
      exact ih (hunder.step op) ((Activity.kept_ordered policy).step hunder hordered op)
        ((Activity.kept_outlasting hlasting).step hunder houtlasting op)
        hstep hchron.tail (fun now hop => hlift now (List.mem_cons_of_mem op hop))
        (fun now idle hop => hidle now idle (List.mem_cons_of_mem op hop))

/-- Let the clock not go back, let nobody lift the block of a player, and let nobody be
dropped before a window's length of silence.  Then in a time of so many windows' length,
wherever it begins, events of the player are admitted at most as often as the threshold
allows in those windows and one more, less one. -/
theorem admissions_within_le (hlasting : policy.Lasting)
    (hthreshold : policy.anomalyThreshold < maxCount) (route : String → Nat) (shardCount : Nat)
    (playerId : String) {start : WallTime} {ops : List Op} (hchron : Chronological start ops)
    (hlift : ∀ now, .unblock playerId now ∉ ops)
    (hidle : ∀ now idle, .evictIdle now idle ∈ ops → policy.window ≤ idle) (origin : WallTime)
    {k : Nat} (hk : 1 ≤ k) :
    countWithin origin (k * policy.window)
        (admissions playerId ((new policy route shardCount).docket ops)) ≤
      (k + 1) * policy.anomalyThreshold - 1 := by
  have hnew : Contained policy origin start
      ((new policy route shardCount).record? playerId) [] := by
    rw [record?_new]
    exact Contained.none_nil policy origin start
  obtain ⟨final, hfinal⟩ := hnew.run hlasting hthreshold (under_new policy route shardCount)
    (all_new Activity.Ordered policy route shardCount)
    (all_new (Activity.Outlasting policy) policy route shardCount) hchron hlift hidle
  exact hfinal.within k hk

/-- With two events a window, three pass in one window's length that straddles two windows:
the bound is met. -/
theorem admissions_within_le_straddling :
    let policy := { Policy.standard with anomalyThreshold := 2 }
    let second : WallTime := nanosPerSecond
    let event : Event := ⟨"ann", 0, .progression ⟨5, none⟩⟩
    let ops : List Op := [.check event 0, .check event (second - 1), .unblock "bob" (second - 1),
      .evictIdle second second, .check event second, .check event (second + 1),
      .check event (second + 2)]
    let admitted := admissions "ann" ((new policy (fun _ => 0) 16).docket ops)
    countWithin (second - 1) ((1 : Nat) * policy.window) admitted ≤ (1 + 1) * 2 - 1 ∧
      countWithin (second - 1) ((1 : Nat) * policy.window) admitted = 3 := by
  intro policy second event ops admitted
  have hlasting : policy.Lasting :=
    { Policy.lasting_standard with threshold_pos := by decide }
  have hchron : Chronological 0 ops := by
    unfold Chronological
    decide
  have hlift : ∀ now, .unblock "ann" now ∉ ops := by simp [ops]
  have hidle : ∀ now idle, .evictIdle now idle ∈ ops → policy.window ≤ idle := by
    simp [ops, policy, second, Policy.standard]
  exact ⟨admissions_within_le hlasting (by decide) (fun _ => 0) 16 "ann" hchron hlift hidle
    (second - 1) (Nat.le_refl 1), by decide⟩

end Tracker
end Turnstile
