import Turnstile.Fairness.Record

/-!
# Judging one event

What a judgement can come to, said once, so that later proofs need not open the
definition again.  A record is first looked at as it counts at the time of the
event, then the event is tallied, and from there the judgement has one of five
ends.

Main definitions and results:

- `Activity.effective`, `Activity.windowCount`: what counts of a record at a time.
- `Activity.counted`: the record once the event is tallied.
- `Activity.tally_count`, `Activity.floods_iff`: counting in terms of the window.
- `Activity.Judged`, `Activity.judged`: the ends of a judgement.
-/

namespace Turnstile

/-- The event is a progression that gains more than a limit. -/
def Event.GainsAbove (event : Event) (limit : Int) : Prop :=
  ∃ p, event.payload = .progression p ∧ limit < p.deltaXp

/-- The detector for large gains trips on progressions that gain more than the limit, and on
nothing else. -/
theorem Activity.anomalous_iff (policy : Policy) (event : Event) :
    Activity.anomalous policy event = true ↔ event.GainsAbove policy.scoreThreshold := by
  unfold Activity.anomalous Event.GainsAbove
  cases event.payload <;> simp

instance (event : Event) (limit : Int) : Decidable (event.GainsAbove limit) :=
  match h : event.payload with
  | .progression p =>
      decidable_of_iff (limit < p.deltaXp) (by simp [Event.GainsAbove, h])
  | .bossKill _ => isFalse (by simp [Event.GainsAbove, h])
  | .dropClaim _ => isFalse (by simp [Event.GainsAbove, h])

/-- A wall time that can be moved is moved by the whole span. -/
theorem WallTime.eq_add_of_shift? {t moved : WallTime} {span : Span}
    (h : t.shift? span = some moved) : moved = t + span := by
  simp only [WallTime.shift?, Option.ite_none_right_eq_some] at h
  exact (Option.some.inj h.2).symm

namespace Activity

/-! ## A record at a time -/

/-- A block is in force exactly before its end. -/
theorem blockAt?_eq_some_iff {activity : Activity} {now : WallTime} {block : Block} :
    activity.blockAt? now = some block ↔ activity.block = some block ∧ now < block.endsAt := by
  simp [blockAt?, Option.filter_eq_some_iff]

/-- No block is in force exactly when the latest one, if any, is over. -/
theorem blockAt?_eq_none_iff {activity : Activity} {now : WallTime} :
    activity.blockAt? now = none ↔ ∀ block, activity.block = some block → block.endsAt ≤ now := by
  simp [blockAt?, Option.filter_eq_none_iff]

/-- The record as it counts at a time: a block that is over has cleared it. -/
def effective (activity : Activity) (now : WallTime) : Activity :=
  if activity.block.isSome && (activity.blockAt? now).isNone then activity.clear else activity

/-- A block counts only while it is in force. -/
theorem effective_block (activity : Activity) (now : WallTime) :
    (activity.effective now).block = activity.blockAt? now := by
  unfold effective
  cases hforce : activity.blockAt? now with
  | none =>
      cases hblock : activity.block with
      | none => simp [hblock]
      | some block => simp [clear]
  | some block => simp [(blockAt?_eq_some_iff.mp hforce).1]

@[simp]
theorem effective_windowStart (activity : Activity) (now : WallTime) :
    (activity.effective now).windowStart = activity.windowStart := by
  unfold effective
  split <;> rfl

/-- A record in front of an event that no block stops. -/
theorem arrive_of_free {activity : Activity} {now : WallTime} (h : activity.blockAt? now = none) :
    activity.arrive now = { activity.effective now with lastSeen := now } := by
  unfold arrive effective
  cases activity.block <;> simp [h]

/-- The events that count in the window at a time: none once the window is over. -/
def windowCount (policy : Policy) (now : WallTime) (activity : Activity) : Nat :=
  if policy.window ≤ now - activity.windowStart then 0 else activity.count

/-- What a reader sees is the record as it counts at the time. -/
theorem snapshot_eq (activity : Activity) (playerId : String) (policy : Policy) (now : WallTime) :
    activity.snapshot playerId policy now =
      { playerId := playerId
        block := activity.blockAt? now
        windowStart := activity.windowStart
        eventCountInWindow := windowCount policy now (activity.effective now)
        cumulativeScore := (activity.effective now).score
        lastSeen := (activity.effective now).lastSeen } := by
  rw [← effective_block, ← effective_windowStart activity now]
  rfl

/-! ## Tallying -/

/-- The record once an event is tallied that no block stops. -/
def counted (policy : Policy) (now : WallTime) (activity : Activity) : Activity :=
  (activity.arrive now).tally policy now

/-- A tally is one more than what counts in the window. -/
theorem tally_count (policy : Policy) (now : WallTime) (activity : Activity) :
    (activity.tally policy now).count = nextCount (windowCount policy now activity) := by
  unfold tally windowCount
  by_cases h : now - activity.windowStart < policy.window
  · simp [h, Int.not_le.mpr h]
  · simp [h, Int.not_lt.mp h, nextCount, maxCount]

/-- A tally keeps the start of the window only inside of it. -/
theorem tally_windowStart (policy : Policy) (now : WallTime) (activity : Activity) :
    (activity.tally policy now).windowStart =
      if 0 ≤ now - activity.windowStart ∧ now - activity.windowStart < policy.window then
        activity.windowStart
      else now := by
  unfold tally
  by_cases hinside : now - activity.windowStart < policy.window
  · by_cases hback : now - activity.windowStart < 0
    · have outside : ¬(0 ≤ now - activity.windowStart ∧
          now - activity.windowStart < policy.window) := by grind
      simp only [if_pos hinside, if_pos hback, if_neg outside]
    · have inside : 0 ≤ now - activity.windowStart ∧
          now - activity.windowStart < policy.window := by grind
      simp only [if_pos hinside, if_neg hback, if_pos inside]
  · simp [hinside]

@[simp]
theorem tally_block (policy : Policy) (now : WallTime) (activity : Activity) :
    (activity.tally policy now).block = activity.block := by
  unfold tally
  dsimp only
  split <;> rfl

@[simp]
theorem tally_score (policy : Policy) (now : WallTime) (activity : Activity) :
    (activity.tally policy now).score = activity.score := by
  unfold tally
  dsimp only
  split <;> rfl

@[simp]
theorem tally_lastSeen (policy : Policy) (now : WallTime) (activity : Activity) :
    (activity.tally policy now).lastSeen = activity.lastSeen := by
  unfold tally
  dsimp only
  split <;> rfl

/-- With a positive threshold, an event floods exactly when its tally is above the
threshold: the first event of a window never does. -/
theorem floods_iff {policy : Policy} (hthreshold : 1 ≤ policy.anomalyThreshold) (now : WallTime)
    (activity : Activity) :
    activity.floods policy now = true ↔
      policy.anomalyThreshold < nextCount (windowCount policy now activity) := by
  unfold floods windowCount
  by_cases h : now - activity.windowStart < policy.window
  · simp [h, Int.not_le.mpr h]
  · have first : nextCount 0 ≤ policy.anomalyThreshold := hthreshold
    simp [h, Int.not_lt.mp h, first]

/-! ## The ends of a judgement -/

/-- The ways in which the judgement of an event can end: its verdict and the record
after it. -/
inductive Judged (policy : Policy) (event : Event) (now : WallTime) (activity : Activity) :
    Verdict → Activity → Prop
  /-- A block is in force, and nothing changes. -/
  | held {block : Block} (hblock : activity.blockAt? now = some block) :
      Judged policy event now activity (.refused (.blocked block)) activity
  /-- The event is one too many. -/
  | flooded {endsAt : WallTime} (hfree : activity.blockAt? now = none)
      (hflood : (activity.arrive now).floods policy now = true)
      (hend : now.shift? policy.floodBlock = some endsAt) :
      Judged policy event now activity (.refused (.eventFlood endsAt))
        { activity.counted policy now with block := some ⟨.eventFlood, endsAt⟩ }
  /-- The event gains too much. -/
  | excessive {endsAt : WallTime} (hfree : activity.blockAt? now = none)
      (hflood : (activity.arrive now).floods policy now = false)
      (hgain : anomalous policy event = true)
      (hend : now.shift? policy.scoreBlock = some endsAt) :
      Judged policy event now activity (.refused (.scoreAnomaly endsAt))
        { activity.counted policy now with block := some ⟨.scoreAnomaly, endsAt⟩ }
  /-- The event counts, and its gain with it. -/
  | admitted (hfree : activity.blockAt? now = none)
      (hflood : (activity.arrive now).floods policy now = false)
      (hgain : anomalous policy event = false) :
      Judged policy event now activity
        (.admitted ⟨now, addScore (activity.counted policy now).score event.scoreDelta⟩)
        { activity.counted policy now with
          score := addScore (activity.counted policy now).score event.scoreDelta }
  /-- A block is due that would end outside the calendar; the tally stays. -/
  | stuck {length : Span} (hfree : activity.blockAt? now = none)
      (hdue : (activity.arrive now).floods policy now = true ∧ length = policy.floodBlock ∨
        (activity.arrive now).floods policy now = false ∧ anomalous policy event = true ∧
          length = policy.scoreBlock)
      (hend : now.shift? length = none) :
      Judged policy event now activity (.stuck .calendar) (activity.counted policy now)

/-- Every judgement has one of these ends. -/
theorem judged (policy : Policy) (event : Event) (now : WallTime) (activity : Activity) :
    Judged policy event now activity (activity.judge policy event now).1
      (activity.judge policy event now).2 := by
  unfold judge
  cases hforce : activity.blockAt? now with
  | some block => exact .held hforce
  | none =>
      dsimp only
      split
      · rename_i hflood
        unfold impose
        cases hend : now.shift? policy.floodBlock with
        | some endsAt => exact .flooded hforce hflood hend
        | none => exact .stuck hforce (Or.inl ⟨hflood, rfl⟩) hend
      · rename_i hflood
        have hcalm : (activity.arrive now).floods policy now = false := by simpa using hflood
        split
        · rename_i hgain
          unfold impose
          cases hend : now.shift? policy.scoreBlock with
          | some endsAt => exact .excessive hforce hcalm hgain hend
          | none => exact .stuck hforce (Or.inr ⟨hcalm, hgain, rfl⟩) hend
        · rename_i hgain
          exact .admitted hforce hcalm (by simpa using hgain)

end Activity

end Turnstile
