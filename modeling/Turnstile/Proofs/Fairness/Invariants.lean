import Turnstile.Proofs.Fairness.Limits
import Turnstile.Proofs.Fairness.Records
import Turnstile.Proofs.Fairness.Windows

/-!
# What holds of every record

A record is made by the first event of its player.  From then on it is judged, cleared
or dropped, and nothing else happens to it.  So what holds of new records and is kept
by judging and clearing holds of every record of a tracker, after any run of operations
at times in any order.

Main definitions and results:

- `Activity.Kept`, `Tracker.All`: such a property, and that all records have it.
- `Tracker.All.step`: what an operation has to leave so that all records still have it.
- `Activity.Kept.step`, `Activity.Kept.run`: no operation and no run breaks it.
- `Activity.Kept.of_judged`: it is enough to look at each end of a judgement.
- `Activity.kept_ordered`: a window starts no later than the player was last seen.
- `Activity.kept_outlasting`: no block is over before the window it was put into.
- `Activity.Outlasting.spent_or_open`: a record that no block stops, when that is so.
-/

namespace Turnstile

/-- A property of new records that neither judging nor clearing takes away. -/
structure Activity.Kept (policy : Policy) (P : Activity → Prop) : Prop where
  fresh : ∀ now, P (Activity.fresh now)
  judge : ∀ {activity}, P activity → ∀ event now, P (activity.judge policy event now).2
  clear : ∀ {activity}, P activity → P activity.clear

/-- All records of a tracker have a property. -/
def Tracker.All (P : Activity → Prop) (tracker : Tracker) : Prop :=
  ∀ playerId activity, tracker.record? playerId = some activity → P activity

/-- A new tracker has no records, so all of them have every property. -/
theorem Tracker.all_new (P : Activity → Prop) (policy : Policy) (route : String → Nat)
    (shardCount : Nat) : (new policy route shardCount).All P := by
  intro playerId activity hrecord
  rw [record?_new] at hrecord
  contradiction

variable {policy : Policy} {P : Activity → Prop}

/-- An operation leaves a property of all records when clearing does, and the judgement of
its event, if it brings one. -/
theorem Tracker.All.step {tracker : Tracker} (hall : tracker.All P)
    (hunder : tracker.Under policy) (op : Tracker.Op)
    (hjudge : ∀ event now, op = .check event now →
      P ((tracker.met event.playerId now).judge policy event now).2)
    (hclear : ∀ {activity}, P activity → P activity.clear) : (tracker.step op).2.All P := by
  intro playerId activity hrecord
  have hbefore := hall playerId
  have heffect := Tracker.step_effect hunder op playerId
  unfold Tracker.met at hjudge
  generalize (tracker.step op).2.record? playerId = after at hrecord heffect
  generalize hrecorded : tracker.record? playerId = record at hbefore heffect
  cases heffect with
  | @judged event now hsame =>
      obtain rfl := Option.some.inj hrecord
      have hjudged := hjudge event now rfl
      rwa [hsame, hrecorded] at hjudged
  | cleared now =>
      obtain ⟨met, hmet, rfl⟩ := Option.map_eq_some_iff.mp hrecord
      exact hclear (hbefore met hmet)
  | swept now idle => exact hbefore activity (Option.eq_some_of_filter_eq_some hrecord)
  | spared _ => exact hbefore activity hrecord

/-- What holds of new records and of all that are filed holds of the record that an event
meets. -/
theorem Tracker.All.met {tracker : Tracker} (hall : tracker.All P)
    (hfresh : ∀ now, P (Activity.fresh now)) (playerId : String) (now : WallTime) :
    P (tracker.met playerId now) := by
  unfold Tracker.met
  cases hrecord : tracker.record? playerId with
  | none => exact hfresh now
  | some activity => exact hall playerId activity hrecord

namespace Activity

/-! ## Runs -/

/-- A property that judging and clearing keep holds of all records after an operation, if it
did before. -/
theorem Kept.step (hkept : Kept policy P) {tracker : Tracker} (hunder : tracker.Under policy)
    (hall : tracker.All P) (op : Tracker.Op) : (tracker.step op).2.All P :=
  hall.step hunder op
    (fun event now _ => hkept.judge (hall.met hkept.fresh event.playerId now) event now)
    hkept.clear

/-- A property that judging and clearing keep holds of all records after a run, if it did
before. -/
theorem Kept.run (hkept : Kept policy P) {tracker : Tracker} (hunder : tracker.Under policy)
    (hall : tracker.All P) (ops : List Tracker.Op) : (tracker.run ops).2.All P := by
  induction ops generalizing tracker with
  | nil => exact hall
  | cons op ops ih =>
      rw [Tracker.run_cons_snd]
      exact ih (hunder.step op) (hkept.step hunder hall op)

/-- A property of new records that judging and clearing keep holds of every record that can
arise. -/
theorem Kept.of_run_new (hkept : Kept policy P) (route : String → Nat) (shardCount : Nat)
    (history : List Tracker.Op) :
    ((Tracker.new policy route shardCount).run history).2.All P :=
  hkept.run (Tracker.under_new policy route shardCount)
    (Tracker.all_new P policy route shardCount) history

/-- A property of new records is kept when every end of a judgement keeps it, and clearing
does. -/
theorem Kept.of_judged (hfresh : ∀ now, P (Activity.fresh now))
    (hjudged : ∀ {activity after event now verdict}, P activity →
      Judged policy event now activity verdict after → P after)
    (hclear : ∀ {activity}, P activity → P activity.clear) : Kept policy P where
  fresh := hfresh
  judge h event now := hjudged h (judged policy event now _)
  clear := hclear

/-! ## Windows -/

/-- A tally leaves a window that has started. -/
theorem counted_windowStart_le (policy : Policy) (now : WallTime) (activity : Activity) :
    (activity.counted policy now).windowStart ≤ now := by
  rw [counted, tally_windowStart]
  split <;> grind

/-- The window started no later than the player was last seen. -/
def Ordered (activity : Activity) : Prop :=
  activity.windowStart ≤ activity.lastSeen

/-- Every window started no later than its player was last seen, also where the clock was
set back. -/
theorem kept_ordered (policy : Policy) : Kept policy Ordered := by
  refine .of_judged (fun now => Int.le_refl now) ?_ fun hordered => hordered
  intro activity after event now verdict hordered hjudged
  rcases hjudged.held_or_counted with ⟨-, hsame, -⟩ | ⟨-, hstart, -, hseen, -⟩
  · rw [hsame]
    exact hordered
  · unfold Ordered
    rw [hstart, hseen]
    exact counted_windowStart_le policy now activity

/-- A record that is dropped after a window's length of silence is spent. -/
theorem Ordered.spent {activity : Activity} (h : activity.Ordered) {now : WallTime} {idle : Span}
    (hidle : policy.window ≤ idle) (hdropped : Tracker.outlives now idle activity = false) :
    activity.Spent policy now := by
  simp only [Tracker.outlives, Bool.or_eq_false_iff, Option.isSome_eq_false_iff,
    Option.isNone_iff_eq_none, decide_eq_false_iff_not] at hdropped
  obtain ⟨hfree, hsilent⟩ := hdropped
  refine ⟨hfree, ?_⟩
  unfold Ordered at h
  grind

/-! ## Blocks -/

/-- The latest block lasts to the end of the window, or longer. -/
def Outlasting (policy : Policy) (activity : Activity) : Prop :=
  ∀ block, activity.block = some block → activity.windowStart + policy.window ≤ block.endsAt

/-- A record that no block stops is spent, or it has no block and its window is open: a block
that is over has outlasted the window. -/
theorem Outlasting.spent_or_open {activity : Activity} {now : WallTime}
    (h : activity.Outlasting policy) (hfree : activity.blockAt? now = none) :
    activity.Spent policy now ∨
      activity.block = none ∧ now < activity.windowStart + policy.window := by
  by_cases hover : activity.windowStart + policy.window ≤ now
  · exact Or.inl ⟨hfree, hover⟩
  · refine Or.inr ⟨?_, Int.not_le.mp hover⟩
    cases hblock : activity.block with
    | none => rfl
    | some block =>
        have hended : block.endsAt ≤ now := blockAt?_eq_none_iff.mp hfree block hblock
        exact absurd (Int.le_trans (h block hblock) hended) hover

/-- A block that is put on a player now outlasts the window, which has started. -/
theorem outlasting_imposed {activity : Activity} {now endsAt : WallTime} {length : Span}
    (hlength : policy.window ≤ length) (hend : now.shift? length = some endsAt)
    (reason : BlockReason) :
    Outlasting policy
      { activity.counted policy now with block := some ⟨reason, endsAt⟩ } := by
  intro block hblock
  obtain rfl := Option.some.inj hblock
  have hstart := counted_windowStart_le policy now activity
  have hends := WallTime.eq_add_of_shift? hend
  grind

/-- Where blocks last for a window, each outlasts the window that it was put into. -/
theorem kept_outlasting (hlasting : policy.Lasting) : Kept policy (Outlasting policy) := by
  refine .of_judged (fun now => ?fresh) ?judged fun _ => ?clear
  case fresh => simp [Outlasting, Activity.fresh]
  case clear => simp [Outlasting, Activity.clear]
  case judged =>
    intro activity after event now verdict houtlasting hjudged
    have htallied (hfree : activity.blockAt? now = none) :
        (activity.counted policy now).block = none := by
      rw [counted, arrive_of_free hfree, tally_block]
      exact (effective_block activity now).trans hfree
    cases hjudged with
    | held => exact houtlasting
    | flooded _ _ hend => exact outlasting_imposed hlasting.window_le_floodBlock hend _
    | excessive _ _ _ hend => exact outlasting_imposed hlasting.window_le_scoreBlock hend _
    | admitted hfree => simp [Outlasting, htallied hfree]
    | stuck hfree => simp [Outlasting, htallied hfree]

end Activity
end Turnstile
