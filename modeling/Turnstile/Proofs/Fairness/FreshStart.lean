import Turnstile.Proofs.Fairness.Invariants

/-!
# A block that is over is forgotten

When a block is over, its record is cleared, but the start of the window stays on it.
That has no effect: the block outlasted the window, so the record is spent, and the next
event of the player is judged like the first event of a stranger.

Main definitions and results:

- `Activity.Outlasting.spent`: with the block the window is over.
- `Tracker.judge_of_block_over`: an event after a block is judged like that of a stranger.
-/

namespace Turnstile

namespace Activity

variable {policy : Policy} {activity : Activity} {block : Block} {now : WallTime}

/-- When a block is over, nothing of its record counts. -/
theorem Outlasting.spent (h : activity.Outlasting policy) (hblock : activity.block = some block)
    (hover : block.endsAt ≤ now) : activity.Spent policy now where
  free := by
    rw [blockAt?_eq_none_iff]
    intro other hother
    obtain rfl := Option.some.inj (hblock.symm.trans hother)
    exact hover
  closed := Int.le_trans (h block hblock) hover

/-- When a block is over, the score under it counts no more. -/
theorem effective_score_of_block_over (hblock : activity.block = some block)
    (hover : block.endsAt ≤ now) : (activity.effective now).score = 0 := by
  have hearly : ¬now < block.endsAt := Int.not_lt.mpr hover
  simp [effective, blockAt?, hblock, hearly, clear]

end Activity

namespace Tracker

/-- Take any record that can arise from operations at times in any order, with a block on
it.  From the end of the block on, an event of the player gets the verdict of a stranger
and leaves the record of a stranger. -/
theorem judge_of_block_over {policy : Policy} (hlasting : policy.Lasting) (route : String → Nat)
    (shardCount : Nat) (history : List Op) {playerId : String} {activity : Activity}
    (hrecord : ((new policy route shardCount).run history).2.record? playerId = some activity)
    {block : Block} (hblock : activity.block = some block) {now : WallTime}
    (hover : block.endsAt ≤ now) (event : Event) :
    activity.judge policy event now = (Activity.fresh now).judge policy event now := by
  have houtlasting : activity.Outlasting policy :=
    (Activity.kept_outlasting hlasting).of_run_new route shardCount history playerId activity
      hrecord
  have hspent := houtlasting.spent hblock hover
  rw [hspent.judge_eq hlasting.threshold_pos event,
    Activity.effective_score_of_block_over hblock hover]
  rfl

/-- The block was put on after the clock was set back, into a window that had begun later:
the window moved with the clock, and is over before the block is. -/
theorem judge_of_block_over_set_back :
    let history : List Op :=
      [.check ⟨"ann", 0, .progression ⟨5, none⟩⟩ 100, .evictIdle 90 20,
        .check ⟨"ann", 0, .progression ⟨2000, none⟩⟩ 40]
    let endsAt : WallTime := 600 * nanosPerSecond + 40
    let activity : Activity := ⟨40, 2, 5, some ⟨.scoreAnomaly, endsAt⟩, 40⟩
    let event : Event := ⟨"ann", 0, .progression ⟨7, none⟩⟩
    ((new Policy.standard (fun _ => 0) 16).run history).2.record? "ann" = some activity ∧
      activity.judge Policy.standard event endsAt =
        (Activity.fresh endsAt).judge Policy.standard event endsAt ∧
      activity.judge Policy.standard event endsAt =
        (.admitted ⟨endsAt, 7⟩, ⟨endsAt, 1, 7, none, endsAt⟩) := by
  intro history endsAt activity event
  have hrecord : ((new Policy.standard (fun _ => 0) 16).run history).2.record? "ann" =
      some activity := by decide
  exact ⟨hrecord,
    judge_of_block_over Policy.lasting_standard (fun _ => 0) 16 history hrecord rfl
      (Int.le_refl endsAt) event,
    by decide⟩

end Tracker

end Turnstile
