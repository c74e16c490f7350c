import Turnstile.Proofs.Fairness.Judgement

/-!
# Open and closed windows

Of a record that no block stops, either the window is still open and the next event
counts into it, or the window is over.  Then nothing of the record counts any more: it
is spent, and an event is judged as if the player had never been seen, apart from the
score that is still there.

Main definitions and results:

- `Activity.Spent`: nothing of a record counts at a time.
- `Activity.counted_of_open`, `Activity.Spent.counted`: the tally in the two cases.
- `Activity.Spent.judge_eq`: a spent record is judged like that of a stranger.
- `Activity.exists_admitted_iff`: which events are admitted.
- `Activity.Judged.held_or_counted`: what a judgement does to window and count.
-/

namespace Turnstile
namespace Activity

variable {policy : Policy} {event : Event} {now : WallTime} {activity : Activity}

/-! ## Spent records -/

/-- Nothing of a record counts at a time: no block is in force, and the window is over. -/
structure Spent (policy : Policy) (now : WallTime) (activity : Activity) : Prop where
  free : activity.blockAt? now = none
  closed : activity.windowStart + policy.window ≤ now

/-- A record that is spent at a time is spent at every later one. -/
theorem Spent.of_le {earlier : WallTime} (h : activity.Spent policy earlier)
    (hle : earlier ≤ now) : activity.Spent policy now where
  free := by
    rw [blockAt?_eq_none_iff]
    intro block hblock
    exact Int.le_trans (blockAt?_eq_none_iff.mp h.free block hblock) hle
  closed := Int.le_trans h.closed hle

/-! ## The tally -/

/-- While the window is open an event counts into it. -/
theorem counted_of_open (hblock : activity.block = none) (hstart : activity.windowStart ≤ now)
    (hopen : now < activity.windowStart + policy.window) :
    activity.counted policy now =
      { activity with count := nextCount activity.count, lastSeen := now } := by
  have hinside : now - activity.windowStart < policy.window := by grind
  have hforward : ¬now - activity.windowStart < 0 := by grind
  simp [counted, arrive, hblock, tally, hinside, hforward]

/-- An event after the end of the window opens a new one. -/
theorem Spent.counted (h : activity.Spent policy now) :
    activity.counted policy now =
      { fresh now with count := 1, score := (activity.effective now).score } := by
  have houtside : ¬now - activity.windowStart < policy.window := by
    have hclosed := h.closed
    grind
  have hblock : (activity.effective now).block = none := by
    rw [effective_block, h.free]
  simp [Activity.counted, arrive_of_free h.free, tally, houtside, hblock, fresh]

/-- The first event of a stranger opens a window. -/
theorem counted_fresh (policy : Policy) (now : WallTime) (score : Int) :
    ({ fresh now with score := score } : Activity).counted policy now =
      { fresh now with count := 1, score := score } := by
  by_cases hwindow : 0 < policy.window <;>
    simp [counted, arrive, tally, fresh, hwindow, nextCount, maxCount]

/-! ## Floods -/

/-- While the window is open an event floods when it is one too many. -/
theorem floods_of_open (hblock : activity.block = none)
    (hopen : now < activity.windowStart + policy.window) :
    (activity.arrive now).floods policy now =
      decide (policy.anomalyThreshold < nextCount activity.count) := by
  have hinside : now - activity.windowStart < policy.window := by grind
  simp [floods, arrive, hblock, hinside]

/-- An event after the end of the window does not flood. -/
theorem Spent.floods_eq (h : activity.Spent policy now) :
    (activity.arrive now).floods policy now = false := by
  have houtside : ¬now - activity.windowStart < policy.window := by
    have hclosed := h.closed
    grind
  simp [floods, arrive_of_free h.free, houtside]

/-- The first event of a stranger does not flood, where one event is allowed. -/
theorem floods_fresh (hthreshold : 1 ≤ policy.anomalyThreshold) (now : WallTime) (score : Int) :
    (({ fresh now with score := score } : Activity).arrive now).floods policy now = false := by
  have hfirst : ¬policy.anomalyThreshold < nextCount 0 := Nat.not_lt.mpr hthreshold
  simp [floods, arrive, fresh, hfirst]

/-! ## Judging -/

/-- Where no block is in force, the tally and the flood detector decide. -/
theorem judge_congr {other : Activity} (hfree : activity.blockAt? now = none)
    (hother : other.blockAt? now = none)
    (hcounted : activity.counted policy now = other.counted policy now)
    (hfloods : (activity.arrive now).floods policy now = (other.arrive now).floods policy now) :
    activity.judge policy event now = other.judge policy event now := by
  unfold counted at hcounted
  simp only [judge, hfree, hother, hcounted, hfloods]

/-- An event that neither a block nor a detector stops is admitted. -/
theorem judge_of_calm (hfree : activity.blockAt? now = none)
    (hfloods : (activity.arrive now).floods policy now = false)
    (hgain : anomalous policy event = false) :
    activity.judge policy event now =
      (.admitted ⟨now, addScore (activity.counted policy now).score event.scoreDelta⟩,
        { activity.counted policy now with
          score := addScore (activity.counted policy now).score event.scoreDelta }) := by
  simp [judge, counted, hfree, hfloods, hgain]

/-- An event is admitted exactly when neither a block nor a detector stops it. -/
theorem exists_admitted_iff :
    (∃ admission, (activity.judge policy event now).1 = .admitted admission) ↔
      activity.blockAt? now = none ∧ (activity.arrive now).floods policy now = false ∧
        anomalous policy event = false := by
  constructor
  · rintro ⟨admission, hadmitted⟩
    have hjudged := judged policy event now activity
    rw [hadmitted] at hjudged
    generalize (activity.judge policy event now).2 = after at hjudged
    cases hjudged with
    | admitted hfree hcalm hgain => exact ⟨hfree, hcalm, hgain⟩
  · rintro ⟨hfree, hcalm, hgain⟩
    rw [judge_of_calm hfree hcalm hgain]
    exact ⟨_, rfl⟩

/-- A spent record is judged like that of a stranger with the score that still counts. -/
theorem Spent.judge_eq (h : activity.Spent policy now)
    (hthreshold : 1 ≤ policy.anomalyThreshold) (event : Event) :
    activity.judge policy event now =
      ({ fresh now with score := (activity.effective now).score } : Activity).judge policy event
        now := by
  refine judge_congr h.free rfl ?_ ?_
  · rw [h.counted, counted_fresh]
  · rw [h.floods_eq, floods_fresh hthreshold]

/-- An event either meets a block in force and changes nothing, or it is tallied, and is
admitted only if it does not flood. -/
theorem Judged.held_or_counted {after : Activity} {verdict : Verdict}
    (h : Judged policy event now activity verdict after) :
    (activity.blockAt? now ≠ none ∧ after = activity ∧
        ∀ admission, verdict ≠ .admitted admission) ∨
      activity.blockAt? now = none ∧
        after.windowStart = (activity.counted policy now).windowStart ∧
        after.count = (activity.counted policy now).count ∧
        after.lastSeen = now ∧
        ∀ admission, verdict = .admitted admission →
          (activity.arrive now).floods policy now = false := by
  have hseen : (activity.counted policy now).lastSeen = now := by simp [counted, arrive]
  cases h with
  | held hblock => exact Or.inl ⟨by simp [hblock], rfl, by simp⟩
  | flooded hfree => exact Or.inr ⟨hfree, rfl, rfl, hseen, by simp⟩
  | excessive hfree => exact Or.inr ⟨hfree, rfl, rfl, hseen, by simp⟩
  | admitted hfree hfloods => exact Or.inr ⟨hfree, rfl, rfl, hseen, fun _ _ => hfloods⟩
  | stuck hfree => exact Or.inr ⟨hfree, rfl, rfl, hseen, by simp⟩

end Activity
end Turnstile
