import Turnstile.Proofs.Fairness.Judgement
import Turnstile.Proofs.Fairness.Records

/-!
# Blocks stand until their end

A block that was put on a player is in force until its end and not longer.  Until
then only an operator can lift it: other events, readers and housekeeping leave the
record of the player as it is.

Main definitions and results:

- `Violation.imposed?`: the block that a refusal puts on a player.
- `Tracker.Op.onRecord_of_blocked`: what a step can do to the record of a blocked
  player.
- `Tracker.record?_run_of_blocked`: what a run can do to it, and from that
  `record?_run_of_early` and `blockAt?_met_run_of_over`.
- `Tracker.imposed_block_stands`: a block that nobody lifts stands until its end.
-/

namespace Turnstile

/-- The block that a refusal puts on a player, if it does. -/
def Violation.imposed? : Violation → Option Block
  | .eventFlood endsAt => some ⟨.eventFlood, endsAt⟩
  | .scoreAnomaly endsAt => some ⟨.scoreAnomaly, endsAt⟩
  | .blocked _ => none

namespace Activity

/-- A refusal that imposes a block leaves it on the record. -/
theorem Judged.block_of_imposed {policy : Policy} {event : Event} {now : WallTime}
    {activity after : Activity} {violation : Violation} {block : Block}
    (h : Judged policy event now activity (.refused violation) after)
    (himposed : violation.imposed? = some block) : after.block = some block := by
  cases h with
  | held => simp [Violation.imposed?] at himposed
  | flooded => simpa [Violation.imposed?] using himposed
  | excessive => simpa [Violation.imposed?] using himposed

/-- An event is answered with a block only when that block is in force. -/
theorem Judged.blockAt?_of_blocked {policy : Policy} {event : Event} {now : WallTime}
    {activity after : Activity} {block : Block}
    (h : Judged policy event now activity (.refused (.blocked block)) after) :
    activity.blockAt? now = some block := by
  cases h with
  | held hblock => exact hblock

end Activity

namespace Tracker

variable {playerId : String}

/-! ## One step -/

/-- Without a record there is none after a step, unless it is an event of the player. -/
theorem Op.onRecord_none (policy : Policy) {op : Op}
    (hquiet : ∀ event now, op = .check event now → event.playerId ≠ playerId) :
    op.onRecord policy playerId none = none := by
  cases op with
  | check event now => simp [Op.onRecord, hquiet event now rfl]
  | unblock other now => simp [Op.onRecord]
  | _ => rfl

/-- A step that neither lifts the block of a player nor brings an event of the player
after its end leaves the record, or drops it after the end. -/
theorem Op.onRecord_of_blocked (policy : Policy) {activity : Activity} {block : Block}
    (hblock : activity.block = some block) {op : Op}
    (hlift : ∀ now, op ≠ .unblock playerId now)
    (hearly : ∀ event now, op = .check event now → event.playerId = playerId →
      now < block.endsAt) :
    op.onRecord policy playerId (some activity) = some activity ∨
      op.onRecord policy playerId (some activity) = none ∧
        ∃ now, Timed.time? op = some now ∧ block.endsAt ≤ now := by
  cases op with
  | check event now =>
      left
      by_cases hsame : event.playerId = playerId
      · have hforce : activity.blockAt? now = some block :=
          Activity.blockAt?_eq_some_iff.mpr ⟨hblock, hearly event now rfl hsame⟩
        simp [Op.onRecord, hsame, Activity.judge, hforce]
      · simp [Op.onRecord, hsame]
  | unblock other now =>
      left
      have hother : other ≠ playerId := fun hsame => hlift now (by rw [hsame])
      simp [Op.onRecord, hother]
  | evictIdle now idle =>
      by_cases hkept : outlives now idle activity = true
      · left
        simp [Op.onRecord, hkept]
      · right
        refine ⟨by simp [Op.onRecord, hkept], now, rfl, ?_⟩
        have hover : activity.blockAt? now = none := by
          simp only [outlives, Bool.or_eq_true, not_or] at hkept
          simpa using hkept.1
        exact Activity.blockAt?_eq_none_iff.mp hover block hblock
  | snapshot _ _ => exact Or.inl rfl
  | blockedPlayers _ => exact Or.inl rfl
  | size => exact Or.inl rfl

/-! ## Runs -/

/-- Without a record there is none after a run without events of the player. -/
theorem record?_run_of_none {tracker : Tracker} (hsharded : tracker.Sharded) {ops : List Op}
    (habsent : tracker.record? playerId = none)
    (hquiet : ∀ event now, .check event now ∈ ops → event.playerId ≠ playerId) :
    (tracker.run ops).2.record? playerId = none := by
  induction ops generalizing tracker with
  | nil => exact habsent
  | cons op ops ih =>
      rw [run_cons_snd]
      refine ih (hsharded.step op) ?_ fun event now hop => hquiet event now (by simp [hop])
      rw [record?_step hsharded, habsent]
      exact Op.onRecord_none tracker.policy fun event now hop => hquiet event now (by simp [hop])

/-- A run that neither lifts the block of a player nor brings an event of the player
after its end leaves the record, or drops it after the end.  Once it is dropped the
clock is past the end, so no event of the player can bring it back. -/
theorem record?_run_of_blocked {tracker : Tracker} (hsharded : tracker.Sharded)
    {activity : Activity} {block : Block} (hrecord : tracker.record? playerId = some activity)
    (hblock : activity.block = some block) {start : WallTime} {ops : List Op}
    (hchron : Chronological start ops) (hlift : ∀ now, .unblock playerId now ∉ ops)
    (hearly : ∀ event now, .check event now ∈ ops → event.playerId = playerId →
      now < block.endsAt) :
    (tracker.run ops).2.record? playerId = some activity ∨
      (tracker.run ops).2.record? playerId = none ∧ ∃ now ∈ times ops, block.endsAt ≤ now := by
  induction ops generalizing tracker start with
  | nil => exact Or.inl hrecord
  | cons op ops ih =>
      have hstep := Op.onRecord_of_blocked tracker.policy hblock
        (fun now hop => hlift now (List.mem_cons.mpr (Or.inl hop.symm)))
        (fun event now hop => hearly event now (List.mem_cons.mpr (Or.inl hop.symm)))
      rw [← hrecord, ← record?_step hsharded] at hstep
      rw [run_cons_snd]
      rcases hstep with hkept | ⟨hdropped, now, htime, hover⟩
      · rcases ih (hsharded.step op) (hkept.trans hrecord) hchron.tail
            (fun now hop => hlift now (by simp [hop]))
            (fun event now hop => hearly event now (by simp [hop])) with
          hstill | ⟨hgone, late, hlate, hover⟩
        · exact Or.inl hstill
        · exact Or.inr ⟨hgone, late, mem_times_cons hlate, hover⟩
      · right
        have hlater := hchron.tail
        rw [htime] at hlater
        refine ⟨record?_run_of_none (hsharded.step op) hdropped ?_, now, ?_, hover⟩
        · intro event late hop hsame
          have hafter : now ≤ late := hlater.start_le (mem_times_iff.mpr ⟨_, hop, rfl⟩)
          have hbefore := hearly event late (by simp [hop]) hsame
          grind
        · exact mem_times_iff.mpr ⟨op, by simp, htime⟩

/-- While the block is in force a run leaves the record: nothing so far was after its
end, so nothing could drop it. -/
theorem record?_run_of_early {tracker : Tracker} (hsharded : tracker.Sharded)
    {activity : Activity} {block : Block} (hrecord : tracker.record? playerId = some activity)
    (hblock : activity.block = some block) {start : WallTime} {ops : List Op}
    (hchron : Chronological start ops) (hlift : ∀ now, .unblock playerId now ∉ ops)
    (hearly : ∀ now ∈ times ops, now < block.endsAt) :
    (tracker.run ops).2.record? playerId = some activity := by
  have hbefore : ∀ event now, .check event now ∈ ops → event.playerId = playerId →
      now < block.endsAt := by
    intro event now hop _
    exact hearly now (mem_times_iff.mpr ⟨_, hop, rfl⟩)
  rcases record?_run_of_blocked hsharded hrecord hblock hchron hlift hbefore with
    hstill | ⟨-, now, hnow, hover⟩
  · exact hstill
  · exact absurd (hearly now hnow) (Int.not_lt.mpr hover)

/-- After the end of the block the first event of the player meets a record without a
block in force, if not a new one. -/
theorem blockAt?_met_run_of_over {tracker : Tracker} (hsharded : tracker.Sharded)
    {activity : Activity} {block : Block} (hrecord : tracker.record? playerId = some activity)
    (hblock : activity.block = some block) {start : WallTime} {ops : List Op}
    (hchron : Chronological start ops) (hlift : ∀ now, .unblock playerId now ∉ ops)
    (hearly : ∀ event now, .check event now ∈ ops → event.playerId = playerId →
      now < block.endsAt) {time : WallTime} (hover : block.endsAt ≤ time) :
    ((tracker.run ops).2.met playerId time).blockAt? time = none := by
  unfold met
  rcases record?_run_of_blocked hsharded hrecord hblock hchron hlift hearly with
    hstill | ⟨hgone, -⟩
  · rw [hstill, Option.getD_some, Activity.blockAt?_eq_none_iff]
    intro other hother
    obtain rfl := Option.some.inj (hblock.symm.trans hother)
    exact hover
  · rw [hgone]
    rfl

/-! ## The law -/

/-- Let an event of a player be refused with a block, at any point of any run.  After
any continuation in which the clock does not go back and nobody lifts the block of
the player, at any time from then on: before the end of the block, every event of the
player is answered with this block and leaves all records alone, and the player is
listed as blocked; and the first event of the player after the end is not stopped by a
block. -/
theorem imposed_block_stands (policy : Policy) (route : String → Nat) (shardCount : Nat)
    (history : List Op) {event : Event} {now : WallTime} {violation : Violation} {block : Block}
    (hrefused : (((new policy route shardCount).run history).2.check event now).1 =
      .refused violation)
    (himposed : violation.imposed? = some block) {continuation : List Op}
    (hchron : Chronological now continuation)
    (hlift : ∀ time, .unblock event.playerId time ∉ continuation) (time : WallTime)
    (htime : ∀ earlier ∈ now :: times continuation, earlier ≤ time) :
    let tracker :=
      ((((new policy route shardCount).run history).2.check event now).2.run continuation).2
    (time < block.endsAt →
      (∀ next : Event, next.playerId = event.playerId →
        tracker.check next time = (.refused (.blocked block), tracker)) ∧
      ∃ snapshot ∈ tracker.blockedPlayers time,
        snapshot.playerId = event.playerId ∧ snapshot.block = some block) ∧
    (block.endsAt ≤ time →
      (∀ earlier t, .check earlier t ∈ continuation → earlier.playerId = event.playerId →
        t < block.endsAt) →
      ∀ next : Event, next.playerId = event.playerId →
        ∀ other, (tracker.check next time).1 ≠ .refused (.blocked other)) := by
  have hsharded : ((new policy route shardCount).run history).2.Sharded :=
    (sharded_new policy route shardCount).run history
  generalize ((new policy route shardCount).run history).2 = start at hrefused hsharded ⊢
  intro tracker
  have hjudged := Activity.judged start.policy event now (start.met event.playerId now)
  rw [← check_fst, hrefused] at hjudged
  have hblock := hjudged.block_of_imposed himposed
  have hrecord := record?_check_self hsharded event now
  have hsharded' : (start.check event now).2.Sharded := hsharded.step (.check event now)
  constructor
  · intro hbefore
    have hkept : tracker.record? event.playerId =
        some ((start.met event.playerId now).judge start.policy event now).2 := by
      refine record?_run_of_early hsharded' hrecord hblock hchron hlift fun t ht => ?_
      exact Int.lt_of_le_of_lt (htime t (List.mem_cons_of_mem _ ht)) hbefore
    have hforce := Activity.blockAt?_eq_some_iff.mpr ⟨hblock, hbefore⟩
    refine ⟨fun next hsame => ?_, _, mem_blockedPlayers hkept hforce, rfl, ?_⟩
    · exact check_of_blocked ((congrArg tracker.record? hsame).trans hkept) hforce
    · rw [Activity.snapshot_eq]
      exact hforce
  · intro hover hearly next hsame other hanswer
    have hmeets := Activity.judged tracker.policy next time (tracker.met next.playerId time)
    rw [← check_fst, hanswer, hsame] at hmeets
    have hfree := blockAt?_met_run_of_over hsharded' hrecord hblock hchron hlift hearly hover
    have hforce := hmeets.blockAt?_of_blocked
    rw [hfree] at hforce
    contradiction

/-- A player who was blocked for a large gain stays blocked through a round of eviction
that forgets everyone who is silent, and is judged again at the very end. -/
theorem imposed_block_stands_through_eviction :
    let event : Event := ⟨"ann", 0, .progression ⟨2000, none⟩⟩
    let continuation : List Op := [.evictIdle 1 0, .unblock "bob" 2, .check event 3]
    let tracker :=
      ((((new Policy.standard (fun _ => 0) 16).run []).2.check event 0).2.run continuation).2
    let endsAt : WallTime := 600 * nanosPerSecond
    tracker.check event (endsAt - 1) =
        (.refused (.blocked ⟨.scoreAnomaly, endsAt⟩), tracker) ∧
      ∀ other, (tracker.check event endsAt).1 ≠ .refused (.blocked other) := by
  intro event continuation tracker endsAt
  have hrefused : (((new Policy.standard (fun _ => 0) 16).run []).2.check event 0).1 =
      .refused (.scoreAnomaly endsAt) := by decide
  have hchron : Chronological 0 continuation := by
    simp [Chronological, times, continuation, Timed.time?]
  have hlift : ∀ time, .unblock event.playerId time ∉ continuation := by
    simp [continuation, event]
  have hlaw := fun time => imposed_block_stands Policy.standard (fun _ => 0) 16 [] hrefused rfl
    hchron hlift time
  exact ⟨((hlaw (endsAt - 1) (by decide)).1 (by decide)).1 event rfl,
    (hlaw endsAt (by decide)).2 (by decide) (by simp [continuation, endsAt, nanosPerSecond])
      event rfl⟩

end Tracker

end Turnstile
