import Turnstile.Proofs.Fairness.Judgement
import Turnstile.Proofs.Fairness.Limits
import Turnstile.Proofs.Fairness.Records

/-!
# Snapshots foretell verdicts

Reading a record and judging an event each decide on their own whether a block is
over and which events still count in the window.  They agree: what a reader sees of
a player tells what becomes of an event of that player at the same time, and what a
reader sees afterwards is what was foretold.

Main definitions and results:

- `Tracker.view`: what a reader sees of a player, stranger or not.
- `Snapshot.foretell`, `Snapshot.following`: the verdict and the next snapshot, from a
  snapshot alone.
- `Activity.Judged.foretold`, `Activity.Judged.snapshot_after`: the two sides agree on
  every record.
- `Tracker.view_foretells_check`: they agree after every run of operations.
-/

namespace Turnstile

/-! ## Foretelling -/

namespace Snapshot

/-- What a reader would see of a stranger: an active player without events. -/
def ofStranger (playerId : String) (now : WallTime) : Snapshot where
  playerId := playerId
  block := none
  windowStart := now
  eventCountInWindow := 0
  cumulativeScore := 0
  lastSeen := now

/-- The verdict on an event at the time of the snapshot. -/
def foretell (before : Snapshot) (policy : Policy) (event : Event) (now : WallTime) : Verdict :=
  match before.block with
  | some block => .refused (.blocked block)
  | none =>
      if policy.anomalyThreshold < min (before.eventCountInWindow + 1) maxCount then
        .refused (.eventFlood (now + policy.floodBlock))
      else if event.GainsAbove policy.scoreThreshold then
        .refused (.scoreAnomaly (now + policy.scoreBlock))
      else .admitted ⟨now, addScore before.cumulativeScore event.scoreDelta⟩

/-- The snapshot at the same time once the event was judged: the event is counted
unless a block stops it, and the outcome shows. -/
def following (before : Snapshot) (policy : Policy) (event : Event) (now : WallTime) : Snapshot :=
  let counted :=
    { before with
      windowStart :=
        if 0 ≤ now - before.windowStart ∧ now - before.windowStart < policy.window then
          before.windowStart
        else now
      eventCountInWindow := min (before.eventCountInWindow + 1) maxCount
      lastSeen := now }
  match before.foretell policy event now with
  | .refused (.eventFlood endsAt) => { counted with block := some ⟨.eventFlood, endsAt⟩ }
  | .refused (.scoreAnomaly endsAt) => { counted with block := some ⟨.scoreAnomaly, endsAt⟩ }
  | .admitted admission => { counted with cumulativeScore := admission.cumulativeScore }
  | .refused (.blocked _) | .stuck _ => before

end Snapshot

/-! ## One record -/

namespace Activity

variable {policy : Policy} {now : WallTime}

/-- The tally of an event that no block stops, in terms of the snapshot. -/
theorem counted_count {activity : Activity} (hfree : activity.blockAt? now = none)
    (playerId : String) :
    (activity.counted policy now).count =
      min ((activity.snapshot playerId policy now).eventCountInWindow + 1) maxCount := by
  rw [counted, arrive_of_free hfree, tally_count, snapshot_eq]
  rfl

/-- The flood detector, in terms of the snapshot. -/
theorem arrive_floods_iff (hvalid : policy.Valid) {activity : Activity}
    (hfree : activity.blockAt? now = none) (playerId : String) :
    (activity.arrive now).floods policy now = true ↔
      policy.anomalyThreshold <
        min ((activity.snapshot playerId policy now).eventCountInWindow + 1) maxCount := by
  rw [arrive_of_free hfree, floods_iff hvalid.threshold_pos, snapshot_eq]
  rfl

/-- After a tally the window reaches to the present. -/
theorem counted_window (hvalid : policy.Valid) (activity : Activity) :
    ¬policy.window ≤ now - (activity.counted policy now).windowStart := by
  have hwindow := hvalid.window_pos
  rw [counted, tally_windowStart]
  split <;> grind

/-- A snapshot of a record that was tallied just now shows the whole record, with the
block that was put on it. -/
theorem snapshot_counted (hvalid : policy.Valid) {activity : Activity}
    (hfree : activity.blockAt? now = none) (playerId : String) (block : Option Block)
    (hblock : block.filter (fun block => now < block.endsAt) = block) (score : Int) :
    ({ activity.counted policy now with block := block, score := score } : Activity).snapshot
        playerId policy now =
      { (activity.snapshot playerId policy now) with
        block := block
        windowStart :=
          if 0 ≤ now - activity.windowStart ∧ now - activity.windowStart < policy.window then
            activity.windowStart
          else now
        eventCountInWindow :=
          min ((activity.snapshot playerId policy now).eventCountInWindow + 1) maxCount
        cumulativeScore := score
        lastSeen := now } := by
  have hview :
      ({ activity.counted policy now with block := block, score := score } : Activity).effective
          now = { activity.counted policy now with block := block, score := score } := by
    unfold effective blockAt?
    dsimp only
    rw [hblock]
    cases block <;> rfl
  have hstart : (activity.counted policy now).windowStart =
      if 0 ≤ now - activity.windowStart ∧ now - activity.windowStart < policy.window then
        activity.windowStart
      else now := by
    rw [counted, arrive_of_free hfree, tally_windowStart]
    simp
  have hseen : (activity.counted policy now).lastSeen = now := by
    simp [counted, arrive]
  rw [snapshot_eq, hview, ← hstart, ← counted_count hfree playerId]
  simp [windowCount, counted_window hvalid, blockAt?, hblock, hseen, snapshot_eq]

/-- The score before the event is the score that shows. -/
theorem counted_score {activity : Activity} (hfree : activity.blockAt? now = none)
    (playerId : String) :
    (activity.counted policy now).score =
      (activity.snapshot playerId policy now).cumulativeScore := by
  rw [counted, arrive_of_free hfree, snapshot_eq]
  simp

/-- The block that shows is the one in force. -/
theorem snapshot_block (activity : Activity) (playerId : String) :
    (activity.snapshot playerId policy now).block = activity.blockAt? now := by
  rw [snapshot_eq]

/-- A block that is due can be imposed when its end is in the calendar. -/
theorem not_judged_stuck (hflood : (now.shift? policy.floodBlock).isSome)
    (hscore : (now.shift? policy.scoreBlock).isSome) {activity after : Activity} {event : Event}
    {fault : ClockFault} : ¬Judged policy event now activity (.stuck fault) after := by
  intro h
  cases h with
  | stuck hfree hdue hend =>
      rcases hdue with ⟨-, rfl⟩ | ⟨-, -, rfl⟩
      · simp [hend] at hflood
      · simp [hend] at hscore

/-- Every end of a judgement is the one that the snapshot foretells. -/
theorem Judged.foretold (hvalid : policy.Valid) (hflood : (now.shift? policy.floodBlock).isSome)
    (hscore : (now.shift? policy.scoreBlock).isSome) {activity after : Activity} {event : Event}
    {verdict : Verdict} (h : Judged policy event now activity verdict after)
    (playerId : String) :
    verdict = (activity.snapshot playerId policy now).foretell policy event now := by
  unfold Snapshot.foretell
  rw [snapshot_block]
  cases h with
  | held hblock => rw [hblock]
  | flooded hfree hfloods hend =>
      rw [hfree]
      have htally := (arrive_floods_iff hvalid hfree playerId).mp hfloods
      simp only [if_pos htally, WallTime.eq_add_of_shift? hend]
  | excessive hfree hfloods hgain hend =>
      rw [hfree]
      have htally := mt (arrive_floods_iff hvalid hfree playerId).mpr (by simp [hfloods])
      have hmore := (anomalous_iff policy event).mp hgain
      simp only [if_neg htally, if_pos hmore, WallTime.eq_add_of_shift? hend]
  | admitted hfree hfloods hgain =>
      rw [hfree]
      have htally := mt (arrive_floods_iff hvalid hfree playerId).mpr (by simp [hfloods])
      have hless := mt (anomalous_iff policy event).mpr (by simp [hgain])
      simp only [if_neg htally, if_neg hless, counted_score hfree playerId]
  | stuck hfree hdue hend =>
      exact absurd (.stuck hfree hdue hend) (not_judged_stuck hflood hscore)

/-- A block that is imposed now is in force now. -/
theorem filter_imposed {length : Span} {endsAt : WallTime} (hlength : 0 < length)
    (hend : now.shift? length = some endsAt) (reason : BlockReason) :
    (some (⟨reason, endsAt⟩ : Block)).filter (fun block => now < block.endsAt) =
      some ⟨reason, endsAt⟩ := by
  have hlater : now < endsAt := by
    rw [WallTime.eq_add_of_shift? hend]
    grind
  simp [hlater]

/-- Every end of a judgement shows as the snapshot foretells. -/
theorem Judged.snapshot_after (hvalid : policy.Valid)
    (hflood : (now.shift? policy.floodBlock).isSome)
    (hscore : (now.shift? policy.scoreBlock).isSome) {activity after : Activity} {event : Event}
    {verdict : Verdict} (h : Judged policy event now activity verdict after)
    (playerId : String) :
    after.snapshot playerId policy now =
      (activity.snapshot playerId policy now).following policy event now := by
  unfold Snapshot.following
  rw [← h.foretold hvalid hflood hscore playerId]
  cases h with
  | held hblock => rfl
  | flooded hfree hfloods hend =>
      have himposed := filter_imposed hvalid.floodBlock_pos hend .eventFlood
      exact (snapshot_counted hvalid hfree playerId _ himposed _).trans
        (by simp [snapshot_eq, counted_score hfree playerId])
  | excessive hfree hfloods hgain hend =>
      have himposed := filter_imposed hvalid.scoreBlock_pos hend .scoreAnomaly
      exact (snapshot_counted hvalid hfree playerId _ himposed _).trans
        (by simp [snapshot_eq, counted_score hfree playerId])
  | admitted hfree hfloods hgain =>
      have hnone : (activity.counted policy now).block = none := by
        rw [counted, arrive_of_free hfree, tally_block]
        exact (effective_block activity now).trans hfree
      have hshown := snapshot_counted hvalid hfree playerId none rfl
        (addScore (activity.counted policy now).score event.scoreDelta)
      rw [← hnone] at hshown
      exact hshown.trans (by simp [snapshot_eq, hfree, hnone])
  | stuck hfree hdue hend =>
      exact absurd (.stuck hfree hdue hend) (not_judged_stuck hflood hscore)

end Activity

/-! ## All players -/

namespace Tracker

/-- What a reader sees of a player, stranger or not. -/
def view (tracker : Tracker) (playerId : String) (now : WallTime) : Snapshot :=
  (tracker.snapshot? playerId now).getD (.ofStranger playerId now)

/-- A reader sees the record that an event would meet. -/
theorem view_eq (tracker : Tracker) (playerId : String) (now : WallTime) :
    tracker.view playerId now =
      (tracker.met playerId now).snapshot playerId tracker.policy now := by
  unfold view snapshot? met
  cases tracker.record? playerId with
  | none => simp [Activity.snapshot_eq, Snapshot.ofStranger, Activity.fresh, Activity.blockAt?,
      Activity.windowCount, Activity.effective]
  | some activity => rfl

/-- While a player is blocked, an event of the player changes nothing. -/
theorem check_of_view_blocked {tracker : Tracker} {event : Event} {now : WallTime}
    (hblocked : (tracker.view event.playerId now).block.isSome) :
    (tracker.check event now).2 = tracker := by
  rw [view_eq, Activity.snapshot_block] at hblocked
  obtain ⟨block, hforce⟩ := Option.isSome_iff_exists.mp hblocked
  cases hrecord : tracker.record? event.playerId with
  | none => simp [met, hrecord, Activity.blockAt?, Activity.fresh] at hforce
  | some activity =>
      have hmet : tracker.met event.playerId now = activity := by simp [met, hrecord]
      rw [hmet] at hforce
      rw [check_of_blocked hrecord hforce]

/-- After any run of operations, at times in any order, what a reader sees of a player
tells the verdict on an event of the player at the same time and what a reader sees
after it; and an event that a block stops leaves all records alone. -/
theorem view_foretells_check {policy : Policy} (hvalid : policy.Valid) (route : String → Nat)
    (shardCount : Nat) (history : List Op) (event : Event) (now : WallTime)
    (hflood : (now.shift? policy.floodBlock).isSome)
    (hscore : (now.shift? policy.scoreBlock).isSome) :
    let tracker := ((new policy route shardCount).run history).2
    let before := tracker.view event.playerId now
    (tracker.check event now).1 = before.foretell policy event now ∧
      (tracker.check event now).2.snapshot? event.playerId now =
        some (before.following policy event now) ∧
      (before.block.isSome → (tracker.check event now).2 = tracker) := by
  intro tracker before
  have hpolicy : tracker.policy = policy := policy_run _ history
  have hsharded : tracker.Sharded := (sharded_new policy route shardCount).run history
  have hends := Activity.judged policy event now (tracker.met event.playerId now)
  have hbefore : before = (tracker.met event.playerId now).snapshot event.playerId policy now := by
    rw [← hpolicy]
    exact view_eq tracker event.playerId now
  refine ⟨?_, ?_, check_of_view_blocked⟩
  · rw [check_fst, hpolicy, hbefore]
    exact hends.foretold hvalid hflood hscore event.playerId
  · have hafter : (tracker.check event now).2.policy = policy := hpolicy
    rw [snapshot?, record?_check_self hsharded, hafter, hpolicy, hbefore]
    exact congrArg some (hends.snapshot_after hvalid hflood hscore event.playerId)

/-- Where one event a window is allowed, a second one floods although the clock was set
back before it, and its block shows. -/
theorem view_foretells_check_set_back :
    let policy := { Policy.standard with anomalyThreshold := 1 }
    let event : Event := ⟨"ann", 0, .progression ⟨5, none⟩⟩
    let tracker := ((new policy (fun _ => 0) 16).run [.check event 0]).2
    (tracker.check event (-5)).1 = .refused (.eventFlood (300 * nanosPerSecond - 5)) ∧
      (tracker.check event (-5)).2.snapshot? "ann" (-5) =
        some ⟨"ann", some ⟨.eventFlood, 300 * nanosPerSecond - 5⟩, -5, 2, 5, -5⟩ := by
  intro policy event tracker
  have hvalid : policy.Valid :=
    { Policy.valid_standard with threshold_pos := by decide }
  have h := view_foretells_check hvalid (fun _ => 0) 16 [.check event 0] event (-5) (by decide)
    (by decide)
  exact ⟨h.1.trans (by decide), h.2.1.trans (by decide)⟩

end Tracker

end Turnstile
