import Turnstile.Proofs.Fairness.Docket
import Turnstile.Proofs.Fairness.Invariants

/-!
# Nobody notices the eviction of silent players

The records of players who have been silent for a window's length can be dropped, or not
dropped, and no event meets another verdict, apart from the score that it reports.  A run
is compared with the same run without some of its evictions.  Where the second still has
a record that the first has dropped, nothing on it counts but the score, and the score has
no part in any verdict.

Main definitions and results:

- `Activity.unscored`, `Verdict.unscored`, `Hearing.unscored`: all but the score.
- `Tracker.Indistinct`: the records of a player in the two runs.
- `Tracker.Thinned`: a run without some of its evictions.
- `Tracker.docket_of_thinned`: evictions can be left out, and every verdict stays.
-/

namespace Turnstile

/-! ## Scores -/

/-- A verdict without the score that it reports. -/
def Verdict.unscored : Verdict → Verdict
  | .admitted admission => .admitted { admission with cumulativeScore := 0 }
  | .refused violation => .refused violation
  | .stuck fault => .stuck fault

/-- A hearing without the score that its verdict reports. -/
def Tracker.Hearing.unscored (hearing : Hearing) : Hearing :=
  { hearing with verdict := hearing.verdict.unscored }

namespace Activity

variable {policy : Policy} {now : WallTime} {activity other : Activity}

/-- A record without its score. -/
def unscored (activity : Activity) : Activity :=
  { activity with score := 0 }

theorem arrive_unscored (activity : Activity) (now : WallTime) :
    activity.unscored.arrive now = (activity.arrive now).unscored := by
  cases hblock : activity.block <;> simp [arrive, unscored, hblock, clear]

theorem tally_unscored (policy : Policy) (now : WallTime) (activity : Activity) :
    activity.unscored.tally policy now = (activity.tally policy now).unscored := by
  unfold tally unscored
  dsimp only
  split <;> rfl

theorem counted_unscored (policy : Policy) (now : WallTime) (activity : Activity) :
    activity.unscored.counted policy now = (activity.counted policy now).unscored := by
  rw [counted, arrive_unscored, tally_unscored, counted]

/-- The flood detector does not look at the score. -/
theorem floods_unscored (policy : Policy) (now : WallTime) (activity : Activity) :
    activity.unscored.floods policy now = activity.floods policy now :=
  rfl

/-- A block is put on whatever the score. -/
theorem impose_unscored (activity : Activity) (now : WallTime) (length : Span)
    (reason : BlockReason) (violation : WallTime → Violation) :
    let imposed := activity.impose now length reason violation
    activity.unscored.impose now length reason violation = (imposed.1, imposed.2.unscored) := by
  unfold impose
  cases now.shift? length <;> rfl

/-- Without its score a record is judged as with it, and left as with it, apart from the
score. -/
theorem judge_unscored (policy : Policy) (event : Event) (now : WallTime) (activity : Activity) :
    (activity.unscored.judge policy event now).1.unscored =
        (activity.judge policy event now).1.unscored ∧
      (activity.unscored.judge policy event now).2.unscored =
        (activity.judge policy event now).2.unscored := by
  have hblock : activity.unscored.blockAt? now = activity.blockAt? now := rfl
  have hcounted := counted_unscored policy now activity
  unfold counted at hcounted
  simp only [judge, hblock, arrive_unscored, floods_unscored] at hcounted ⊢
  cases activity.blockAt? now with
  | some block => exact ⟨rfl, rfl⟩
  | none =>
      simp only [hcounted, impose_unscored]
      split
      · exact ⟨rfl, rfl⟩
      · split
        · exact ⟨rfl, rfl⟩
        · exact ⟨rfl, rfl⟩

/-- Records that differ in the score alone are judged alike. -/
theorem judge_of_unscored_eq (h : activity.unscored = other.unscored) (event : Event) :
    (activity.judge policy event now).1.unscored = (other.judge policy event now).1.unscored ∧
      (activity.judge policy event now).2.unscored =
        (other.judge policy event now).2.unscored := by
  obtain ⟨hverdict, hafter⟩ := judge_unscored policy event now activity
  obtain ⟨hother, hothers⟩ := judge_unscored policy event now other
  rw [h] at hverdict hafter
  exact ⟨hverdict.symm.trans hother, hafter.symm.trans hothers⟩

/-- The score does not matter for whether a record is spent. -/
theorem Spent.of_unscored_eq (h : activity.Spent policy now)
    (heq : activity.unscored = other.unscored) : other.Spent policy now := by
  have hunscored : activity.unscored.Spent policy now := ⟨h.free, h.closed⟩
  rw [heq] at hunscored
  exact ⟨hunscored.free, hunscored.closed⟩

/-- A record that is spent can be cleared. -/
theorem Spent.clear (h : activity.Spent policy now) : activity.clear.Spent policy now where
  free := rfl
  closed := h.closed

/-- A spent record is judged like none, apart from the score. -/
theorem Spent.judge_unscored (h : activity.Spent policy now)
    (hthreshold : 1 ≤ policy.anomalyThreshold) (event : Event) :
    ((fresh now).judge policy event now).1.unscored =
        (activity.judge policy event now).1.unscored ∧
      ((fresh now).judge policy event now).2.unscored =
        (activity.judge policy event now).2.unscored := by
  rw [h.judge_eq hthreshold event]
  refine judge_of_unscored_eq ?_ event
  rfl

end Activity

namespace Tracker

variable {policy : Policy} {clock now : WallTime}

/-! ## Two records of a player -/

/-- The record of a player where more was dropped, and where less was: they are alike but
for the score, or the first is gone and the second is spent. -/
inductive Indistinct (policy : Policy) (clock : WallTime) :
    Option Activity → Option Activity → Prop
  | alike {dropped kept : Option Activity}
      (h : dropped.map Activity.unscored = kept.map Activity.unscored) :
      Indistinct policy clock dropped kept
  | gone {kept : Activity} (h : kept.Spent policy clock) : Indistinct policy clock none (some kept)

namespace Indistinct

variable {dropped kept : Option Activity}

/-- As time goes on the records stay indistinct. -/
theorem wait (h : Indistinct policy clock dropped kept) (hnow : clock ≤ now) :
    Indistinct policy now dropped kept := by
  cases h with
  | alike h => exact .alike h
  | gone h => exact .gone (h.of_le hnow)

/-- An event gets one verdict on both records, and leaves them indistinct. -/
theorem judge (hthreshold : 1 ≤ policy.anomalyThreshold)
    (h : Indistinct policy now dropped kept) (event : Event) :
    let judgement := (dropped.getD (Activity.fresh now)).judge policy event now
    let other := (kept.getD (Activity.fresh now)).judge policy event now
    judgement.1.unscored = other.1.unscored ∧
      Indistinct policy now (some judgement.2) (some other.2) := by
  have hjudged : ((dropped.getD (Activity.fresh now)).judge policy event now).1.unscored =
        ((kept.getD (Activity.fresh now)).judge policy event now).1.unscored ∧
      ((dropped.getD (Activity.fresh now)).judge policy event now).2.unscored =
        ((kept.getD (Activity.fresh now)).judge policy event now).2.unscored := by
    cases h with
    | alike h =>
        refine Activity.judge_of_unscored_eq ?_ event
        rw [← Option.getD_map Activity.unscored, ← Option.getD_map Activity.unscored, h]
    | gone h => exact h.judge_unscored hthreshold event
  exact ⟨hjudged.1, .alike (congrArg some hjudged.2)⟩

/-- Clearing both records leaves them indistinct. -/
theorem clear (h : Indistinct policy clock dropped kept) :
    Indistinct policy clock (dropped.map Activity.clear) (kept.map Activity.clear) := by
  cases h with
  | alike h =>
      have hclear : Activity.clear = Activity.clear ∘ Activity.unscored := rfl
      refine .alike (congrArg (Option.map Activity.unscored) ?_)
      rw [hclear, ← Option.map_map, ← Option.map_map, h]
  | gone h => exact .gone h.clear

/-- Where silent players are dropped from both, the records stay indistinct. -/
theorem evict (h : Indistinct policy clock dropped kept) (now : WallTime) (idle : Span) :
    Indistinct policy clock (dropped.filter (outlives now idle))
      (kept.filter (outlives now idle)) := by
  cases h with
  | alike h =>
      have houtlives : outlives now idle = outlives now idle ∘ Activity.unscored := rfl
      refine .alike ?_
      rw [houtlives, ← Option.filter_map, ← Option.filter_map, h]
  | @gone kept h =>
      rw [Option.filter_none, Option.filter_some]
      split
      · exact .gone h
      · exact .alike rfl

/-- Where silent players are dropped from the first alone, the records stay indistinct, if
silence means a window's length at least. -/
theorem drop (hordered : ∀ activity, dropped = some activity → activity.Ordered)
    (h : Indistinct policy now dropped kept) {idle : Span} (hidle : policy.window ≤ idle) :
    Indistinct policy now (dropped.filter (outlives now idle)) kept := by
  cases dropped with
  | none => exact h
  | some activity =>
      rw [Option.filter_some]
      split
      · exact h
      · rename_i hdropped
        have hspent := (hordered activity rfl).spent hidle (Bool.eq_false_iff.mpr hdropped)
        cases h with
        | alike h =>
            obtain ⟨other, rfl, heq⟩ := Option.map_eq_some_iff.mp h.symm
            exact .gone (hspent.of_unscored_eq heq.symm)

end Indistinct

/-! ## Two trackers -/

/-- The records of every player in two trackers are indistinct. -/
def AllIndistinct (policy : Policy) (clock : WallTime) (dropped kept : Tracker) : Prop :=
  ∀ playerId, Indistinct policy clock (dropped.record? playerId) (kept.record? playerId)

/-- A tracker is indistinct from itself. -/
theorem allIndistinct_refl (policy : Policy) (clock : WallTime) (tracker : Tracker) :
    AllIndistinct policy clock tracker tracker :=
  fun _ => .alike rfl

variable {dropped kept : Tracker}

/-- An operation on both trackers leaves them indistinct, and if it brings an event, that
gets one verdict, apart from the score. -/
theorem AllIndistinct.step (h : AllIndistinct policy clock dropped kept)
    (hthreshold : 1 ≤ policy.anomalyThreshold) (hdropped : dropped.Under policy)
    (hkept : kept.Under policy) {op : Op} (hnow : clock ≤ (Timed.time? op).getD clock) :
    (dropped.docket [op]).map Hearing.unscored = (kept.docket [op]).map Hearing.unscored ∧
      AllIndistinct policy ((Timed.time? op).getD clock) (dropped.step op).2
        (kept.step op).2 := by
  constructor
  · cases op with
    | check event now =>
        obtain ⟨hverdict, -⟩ := ((h event.playerId).wait hnow).judge hthreshold event
        rw [docket_check, docket_check, check_fst, check_fst, hdropped.policy_eq, hkept.policy_eq]
        exact congrArg (fun verdict => [Hearing.mk event now verdict]) hverdict
    | _ => rfl
  · intro playerId
    rw [record?_step hdropped.sharded, record?_step hkept.sharded, hdropped.policy_eq,
      hkept.policy_eq]
    have hwaited := (h playerId).wait hnow
    cases op with
    | check event now =>
        simp only [Op.onRecord]
        split
        · exact (hwaited.judge hthreshold event).2
        · exact hwaited
    | unblock other now =>
        simp only [Op.onRecord]
        split
        · exact hwaited.clear
        · exact hwaited
    | evictIdle now idle => exact hwaited.evict now idle
    | snapshot _ _ | blockedPlayers _ | size => exact hwaited

/-- An eviction of players that have been silent for a window's length leaves a tracker
indistinct from one where it is left out. -/
theorem AllIndistinct.drop (h : AllIndistinct policy clock dropped kept)
    (hordered : dropped.All Activity.Ordered) (hnow : clock ≤ now) {idle : Span}
    (hidle : policy.window ≤ idle) :
    AllIndistinct policy now (dropped.evictIdle now idle).2 kept := by
  intro playerId
  rw [record?_evictIdle]
  exact ((h playerId).wait hnow).drop (hordered playerId) hidle

/-! ## Runs -/

/-- A run, and the same run without some of its evictions of players who have been silent
for a window's length or longer. -/
inductive Thinned (window : Span) : List Op → List Op → Prop
  | nil : Thinned window [] []
  | keep (op : Op) {ops fewer : List Op} (h : Thinned window ops fewer) :
      Thinned window (op :: ops) (op :: fewer)
  | leave (now : WallTime) {idle : Span} (hidle : window ≤ idle) {ops fewer : List Op}
      (h : Thinned window ops fewer) : Thinned window (.evictIdle now idle :: ops) fewer

/-- Runs of indistinct trackers hear the same, apart from the scores, also where one of them
leaves evictions out. -/
theorem AllIndistinct.docket_eq (h : AllIndistinct policy clock dropped kept)
    (hthreshold : 1 ≤ policy.anomalyThreshold) (hdropped : dropped.Under policy)
    (hkept : kept.Under policy) (hordered : dropped.All Activity.Ordered) {ops fewer : List Op}
    (hthinned : Thinned policy.window ops fewer) (hchron : Chronological clock ops) :
    (dropped.docket ops).map Hearing.unscored = (kept.docket fewer).map Hearing.unscored := by
  -- Both trackers take an operation that stays, the first alone takes one that is left out.
  induction hthinned generalizing dropped kept clock with
  | nil => rfl
  | @keep op ops fewer _ ih =>
      obtain ⟨hheard, hafter⟩ := h.step hthreshold hdropped hkept hchron.start_le_head
      rw [docket_cons dropped, docket_cons kept, List.map_append, List.map_append, hheard]
      exact congrArg _ (ih hafter (hdropped.step op) (hkept.step op)
        ((Activity.kept_ordered policy).step hdropped hordered op) hchron.tail)
  | @leave now idle hidle ops fewer _ ih =>
      rw [docket_cons dropped, docket_of_quiet dropped (by simp), List.nil_append]
      refine ih ?_ (hdropped.step (.evictIdle now idle)) hkept ?_ hchron.tail
      · exact h.drop hordered hchron.start_le_head hidle
      · exact (Activity.kept_ordered policy).step hdropped hordered (.evictIdle now idle)

/-- Let the clock not go back, and let an event be allowed in each window.  Whichever of its
evictions a run leaves out, if they are of players who have been silent for a window's length
or longer: every event gets the verdict that it gets in the whole run, apart from the score. -/
theorem docket_of_thinned (hthreshold : 1 ≤ policy.anomalyThreshold) (route : String → Nat)
    (shardCount : Nat) {start : WallTime} {ops fewer : List Op}
    (hchron : Chronological start ops) (hthinned : Thinned policy.window ops fewer) :
    ((new policy route shardCount).docket fewer).map Hearing.unscored =
      ((new policy route shardCount).docket ops).map Hearing.unscored := by
  have hunder := under_new policy route shardCount
  have hsame := allIndistinct_refl policy start (new policy route shardCount)
  exact (hsame.docket_eq hthreshold hunder hunder
    (all_new Activity.Ordered policy route shardCount) hthinned hchron).symm

/-- Where nobody is dropped, Ann has her old score a second later, and there is a block of
Bob to lift when it is over.  Otherwise the verdicts are those of the run in which both are
dropped. -/
theorem docket_of_thinned_lifted :
    let policy := { Policy.standard with anomalyThreshold := 1 }
    let seconds (n : Int) : WallTime := n * nanosPerSecond
    let ann : Event := ⟨"ann", 0, .progression ⟨5, none⟩⟩
    let bob : Event := ⟨"bob", 0, .progression ⟨7, none⟩⟩
    let first : List Op := [.check ann 0, .check bob 0, .check bob 0]
    let second : List Op := [.check ann (seconds 1), .check ann (seconds 1)]
    let third : List Op := [.unblock "bob" (seconds 300), .check bob (seconds 300)]
    let ops := first ++ .evictIdle (seconds 1) (seconds 1) :: second ++
      .evictIdle (seconds 300) (seconds 1) :: third
    let fewer := first ++ second ++ third
    let tracker := new policy (fun _ => 0) 16
    let verdicts (score : Int) : List Verdict :=
      [.admitted ⟨0, 5⟩, .admitted ⟨0, 7⟩, .refused (.eventFlood (seconds 300)),
        .admitted ⟨seconds 1, score⟩, .refused (.eventFlood (seconds 301)),
        .admitted ⟨seconds 300, 7⟩]
    (tracker.docket fewer).map Hearing.unscored = (tracker.docket ops).map Hearing.unscored ∧
      (tracker.docket ops).map Hearing.verdict = verdicts 5 ∧
      (tracker.docket fewer).map Hearing.verdict = verdicts 10 := by
  intro policy seconds ann bob first second third ops fewer tracker verdicts
  have hchron : Chronological 0 ops := by
    unfold Chronological
    decide
  have hidle : policy.window ≤ seconds 1 := by decide
  have hthinned : Thinned policy.window ops fewer :=
    .keep _ <| .keep _ <| .keep _ <| .leave _ hidle <| .keep _ <| .keep _ <| .leave _ hidle <|
      .keep _ <| .keep _ .nil
  exact ⟨docket_of_thinned (by decide) (fun _ => 0) 16 hchron hthinned, by decide, by decide⟩

end Tracker
end Turnstile
