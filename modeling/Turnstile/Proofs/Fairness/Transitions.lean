import Turnstile.Proofs.Fairness.Docket
import Turnstile.Proofs.Fairness.Judgement

/-!
# From active to blocked

A player is active at a time while no block is in force then.  Nothing blocks an active
player but the judgement of an event, and the verdict on that event names the reason.  So
the transitions of a run, which are read off the records before and after each operation,
can be read off the verdicts as well.

Main definitions and results:

- `Activity.turned?`: the reason of a transition, from the records around it.
- `Tracker.turned?`, `Tracker.transitions`: the transitions of an operation and of a run.
- `Verdict.imposed?`: the reason for which a verdict blocks.
- `Tracker.transitions_eq`: transitions are verdicts.
-/

namespace Turnstile

/-- The reason for which a verdict blocks a player. -/
def Verdict.imposed? : Verdict → Option BlockReason
  | .refused (.eventFlood _) => some .eventFlood
  | .refused (.scoreAnomaly _) => some .scoreAnomaly
  | .refused (.blocked _) | .admitted _ | .stuck _ => none

namespace Activity

/-- The reason for which a player that was active at a time is marked as blocked since,
when `before` is the record in front of what was done to it at that time, and `after` is
what it became.  A block that is over at the time counts as lifted. -/
def turned? (now : WallTime) (before after : Activity) : Option BlockReason :=
  match before.blockAt? now with
  | none => after.block.map Block.reason
  | some _ => none

/-- A record in front of an event holds no block that is over. -/
theorem arrive_block (activity : Activity) (now : WallTime) :
    (activity.arrive now).block = none := by
  unfold arrive
  cases hblock : activity.block with
  | none => simp [hblock]
  | some block => simp [clear]

/-- The verdict on an event names the reason of the transition. -/
theorem Judged.turned? {policy : Policy} {event : Event} {now : WallTime}
    {activity after : Activity} {verdict : Verdict}
    (h : Judged policy event now activity verdict after) :
    activity.turned? now after = verdict.imposed? := by
  have hcounted : (activity.counted policy now).block = none := by
    rw [counted, tally_block, arrive_block]
  unfold Activity.turned?
  cases h with
  | held hblock => simp only [hblock, Verdict.imposed?]
  | flooded hfree => simp [hfree, Verdict.imposed?]
  | excessive hfree => simp [hfree, Verdict.imposed?]
  | admitted hfree => simp [hfree, hcounted, Verdict.imposed?]
  | stuck hfree => simp [hfree, hcounted, Verdict.imposed?]

/-- A record whose block was lifted is not blocked. -/
theorem turned?_clear (now : WallTime) (before activity : Activity) :
    before.turned? now activity.clear = none := by
  unfold turned?
  split <;> rfl

end Activity

namespace Tracker

/-- The transition of a player, if an operation brings one.  Records are written by the
judgement of an event and by an operator who lifts a block; a player that has no record
yet is active. -/
def turned? (tracker : Tracker) : Op → Option BlockReason
  | .check event now =>
      (tracker.met event.playerId now).turned? now
        ((tracker.check event now).2.met event.playerId now)
  | .unblock playerId now =>
      (tracker.met playerId now).turned? now ((tracker.unblock playerId now).2.met playerId now)
  | .snapshot _ _ | .blockedPlayers _ | .evictIdle _ _ | .size => none

/-- The reasons of the transitions in a run, in turn. -/
def transitions (tracker : Tracker) : List Op → List BlockReason
  | [] => []
  | op :: ops => (tracker.turned? op).toList ++ (tracker.step op).2.transitions ops

/-- An event brings the transition that its verdict names. -/
theorem turned?_check {tracker : Tracker} (hsharded : tracker.Sharded) (event : Event)
    (now : WallTime) :
    tracker.turned? (.check event now) = (tracker.check event now).1.imposed? := by
  have hafter : (tracker.check event now).2.met event.playerId now =
      ((tracker.met event.playerId now).judge tracker.policy event now).2 := by
    rw [met, record?_check_self hsharded, Option.getD_some]
  simp only [turned?]
  rw [hafter, check_fst]
  exact (Activity.judged tracker.policy event now (tracker.met event.playerId now)).turned?

/-- Lifting a block brings no transition. -/
theorem turned?_unblock {tracker : Tracker} (hsharded : tracker.Sharded) (playerId : String)
    (now : WallTime) : tracker.turned? (.unblock playerId now) = none := by
  simp only [turned?, unblock]
  cases hrecord : tracker.record? playerId with
  | none =>
      -- A stranger stays one, and has no block.
      simp [met, hrecord, Activity.turned?, Activity.fresh, Activity.blockAt?]
  | some activity =>
      simp only [met, record?_store_self hsharded, Option.getD_some]
      exact Activity.turned?_clear now _ activity

/-- The reason of the block that an event has brought upon its player. -/
def Hearing.imposed? (hearing : Hearing) : Option BlockReason :=
  hearing.verdict.imposed?

/-- The transitions of a run are what its verdicts say. -/
theorem transitions_eq {tracker : Tracker} (hsharded : tracker.Sharded) (ops : List Op) :
    tracker.transitions ops =
      (tracker.docket ops).filterMap Hearing.imposed? := by
  induction ops generalizing tracker with
  | nil => rfl
  | cons op ops ih =>
      have hthis : (tracker.turned? op).toList =
          (tracker.docket [op]).filterMap Hearing.imposed? := by
        cases op with
        | check event now =>
            rw [turned?_check hsharded, docket_check]
            cases himposed : (tracker.check event now).1.imposed? <;>
              simp [Hearing.imposed?, himposed]
        | unblock playerId now =>
            rw [turned?_unblock hsharded]
            rfl
        | _ => rfl
      rw [docket_cons, List.filterMap_append, transitions, ih (hsharded.step op), hthis]

end Tracker

end Turnstile
