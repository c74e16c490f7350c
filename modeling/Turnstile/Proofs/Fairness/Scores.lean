import Mathlib.Algebra.Ring.Int.Defs
import Mathlib.Data.List.Induction
import Turnstile.Proofs.Event.Rules
import Turnstile.Proofs.Fairness.Docket
import Turnstile.Proofs.Fairness.Judgement

/-!
# Scores add up

The score of a player is the sum of what the events of the player gained that were admitted,
up to the greatest score there is, since it was last set back to nothing.  It is set back when
an operator lifts the block of the player, when the record of the player is dropped, and when
an event of the player comes at a time when its block is over.  Gains are not negative when
events were read from bodies, and then it makes no difference whether the sum is cut off once
at the end or every time that something is added.

Main definitions:

- `Tracker.Op.IsInbound`: an operation whose event was read from a body.
- `Tracker.resets`, `Tracker.resetsIn`: an operation, and a run, that sets a score back.
- `Tracker.heardSince`: the events of a run since a score was last set back.
- `Tracker.gained`: what the events of a player that were admitted gain together.
- `Tracker.score`, `Tracker.carried`, `Tracker.Bounded`: the score on record, what of it an
  operation adds to, and its bounds.

Main results:

- `Activity.Judged.score_of_admitted`, `Activity.Judged.score_of_not_admitted`: the score after
  a judgement.
- `Tracker.Bounded.score_step`: an operation adds what its event gains.
- `Tracker.Bounded.step`, `Tracker.Bounded.run`: operations and runs leave the scores within
  their bounds.
- `Tracker.score_run`: the score after a run.
- `Tracker.scores_add_up`: the score that is handed out is the sum of what was gained.
-/

namespace Turnstile

/-! ## The score after a judgement -/

namespace Activity

variable {policy : Policy} {event : Event} {now : WallTime} {activity after : Activity}

/-- A record whose block is in force counts as it is. -/
theorem effective_of_blocked {block : Block} (h : activity.blockAt? now = some block) :
    activity.effective now = activity := by
  simp [effective, h]

/-- A tally leaves the score that counts. -/
theorem counted_score_eq_effective (hfree : activity.blockAt? now = none) :
    (activity.counted policy now).score = (activity.effective now).score := by
  rw [counted, tally_score, arrive_of_free hfree]

/-- An event that is admitted is added to the score, and the sum is handed out. -/
theorem Judged.score_of_admitted {admission : Admission}
    (h : Judged policy event now activity (.admitted admission) after) :
    after.score = addScore (activity.effective now).score event.scoreDelta ∧
      admission.cumulativeScore = after.score := by
  cases h with
  | admitted hfree => exact ⟨by rw [counted_score_eq_effective hfree], rfl⟩

/-- Any other event leaves the score that counts. -/
theorem Judged.score_of_not_admitted {verdict : Verdict}
    (h : Judged policy event now activity verdict after)
    (hverdict : ∀ admission, verdict ≠ .admitted admission) :
    after.score = (activity.effective now).score := by
  cases h with
  | held hblock => rw [effective_of_blocked hblock]
  | flooded hfree => exact counted_score_eq_effective hfree
  | excessive hfree => exact counted_score_eq_effective hfree
  | admitted => exact absurd rfl (hverdict _)
  | stuck hfree => exact counted_score_eq_effective hfree

end Activity

namespace Tracker

/-! ## Resets -/

/-- An operation whose event, if it brings one, was read from a body. -/
def Op.IsInbound (op : Op) : Prop :=
  ∀ event now, op = .check event now → event.IsInbound

/-- An event that was read from a body may come. -/
theorem Op.isInbound_check {event : Event} (h : event.IsInbound) (now : WallTime) :
    Op.IsInbound (.check event now) := by
  intro other later hop
  obtain ⟨rfl, -⟩ := Op.check.inj hop
  exact h

/-- Whether an operation sets the score of a player back: an event of the player comes when
its block is over, the block is lifted, or the record is dropped. -/
def resets (tracker : Tracker) (playerId : String) : Op → Bool
  | .check event now =>
      event.playerId = playerId &&
        ((tracker.record? playerId).bind Activity.block).any fun block => block.endsAt ≤ now
  | .unblock other now => other = playerId && (tracker.unblock other now).1.isSome
  | .evictIdle now idle =>
      (tracker.record? playerId).isSome && ((tracker.evictIdle now idle).2.record? playerId).isNone
  | .snapshot _ _ | .blockedPlayers _ | .size => false

/-- Whether a run sets the score of a player back. -/
def resetsIn (tracker : Tracker) (playerId : String) : List Op → Bool
  | [] => false
  | op :: ops => tracker.resets playerId op || (tracker.step op).2.resetsIn playerId ops

/-- The events of a run since the score of a player was last set back, from the event on that
did so, if it was an event. -/
def heardSince (tracker : Tracker) (playerId : String) : List Op → List Hearing
  | [] => []
  | op :: ops =>
      if (tracker.step op).2.resetsIn playerId ops then
        (tracker.step op).2.heardSince playerId ops
      else tracker.docket (op :: ops)

/-- What the events of a player that were admitted gain together. -/
def gained (playerId : String) (hearings : List Hearing) : Int :=
  ((hearings.filter fun hearing => hearing.event.playerId = playerId ∧ hearing.admits).map
    fun hearing => hearing.event.scoreDelta).sum

/-- The score on record; a stranger has none. -/
def score (tracker : Tracker) (playerId : String) : Int :=
  ((tracker.record? playerId).map Activity.score).getD 0

/-- The score that an operation adds to: nothing, when it sets the score back. -/
def carried (tracker : Tracker) (playerId : String) (op : Op) : Int :=
  if tracker.resets playerId op then 0 else tracker.score playerId

variable {tracker : Tracker} {playerId : String}

@[simp]
theorem gained_append (before after : List Hearing) :
    gained playerId (before ++ after) = gained playerId before + gained playerId after := by
  simp [gained]

/-- An event gains something for its player when it is admitted. -/
theorem gained_singleton (hearing : Hearing) :
    gained playerId [hearing] =
      if hearing.event.playerId = playerId ∧ hearing.admits then hearing.event.scoreDelta
      else 0 := by
  by_cases h : hearing.event.playerId = playerId ∧ hearing.admits
  · simp [gained, h]
  · simp only [gained, List.filter_singleton, h, decide_false, cond_false, if_false,
      List.map_nil, List.sum_nil]

/-- A run of two parts sets a score back in one of them. -/
theorem resetsIn_append (tracker : Tracker) (playerId : String) (ops more : List Op) :
    tracker.resetsIn playerId (ops ++ more) =
      (tracker.resetsIn playerId ops || (tracker.run ops).2.resetsIn playerId more) := by
  induction ops generalizing tracker with
  | nil => rfl
  | cons op ops ih =>
      rw [List.cons_append, resetsIn, resetsIn, ih, Bool.or_assoc]
      rfl

/-- When the score was never set back, all events are heard. -/
theorem heardSince_of_not_reset {ops : List Op} (h : tracker.resetsIn playerId ops = false) :
    tracker.heardSince playerId ops = tracker.docket ops := by
  cases ops with
  | nil => rfl
  | cons op ops =>
      rw [resetsIn, Bool.or_eq_false_iff] at h
      rw [heardSince, if_neg (by simp [h.2])]

/-- The events since the score was last set back, in a run of two parts. -/
theorem heardSince_append (tracker : Tracker) (playerId : String) (ops more : List Op) :
    tracker.heardSince playerId (ops ++ more) =
      if (tracker.run ops).2.resetsIn playerId more then
        (tracker.run ops).2.heardSince playerId more
      else tracker.heardSince playerId ops ++ (tracker.run ops).2.docket more := by
  induction ops generalizing tracker with
  | nil =>
      cases hmore : tracker.resetsIn playerId more with
      | true => simp [run, hmore]
      | false => simp [run, hmore, heardSince_of_not_reset hmore, heardSince]
  | cons op ops ih =>
      rw [List.cons_append, heardSince, resetsIn_append, ih, heardSince, run_cons_snd]
      cases hmore : ((tracker.step op).2.run ops).2.resetsIn playerId more with
      | true => simp
      | false =>
          cases hops : (tracker.step op).2.resetsIn playerId ops with
          | true => simp
          | false =>
              simp only [Bool.or_false, Bool.false_eq_true, if_false]
              exact docket_append tracker (op :: ops) more

/-! ## One operation -/

/-- Scores are not negative and not above the greatest. -/
def Bounded (tracker : Tracker) : Prop :=
  ∀ playerId, 0 ≤ tracker.score playerId ∧ tracker.score playerId ≤ maxScore

/-- The score that counts when an event of a player comes is the one on record, unless the
event sets it back. -/
theorem effective_met_score (tracker : Tracker) (event : Event) (now : WallTime) :
    ((tracker.met event.playerId now).effective now).score =
      tracker.carried event.playerId (.check event now) := by
  unfold met carried score resets Activity.effective Activity.blockAt?
  cases tracker.record? event.playerId with
  | none => simp [Activity.fresh]
  | some activity =>
      cases hblock : activity.block with
      | none => simp [hblock]
      | some block =>
          by_cases hover : block.endsAt ≤ now
          · simp [hblock, hover, Int.not_lt.mpr hover, Activity.clear]
          · simp [hblock, hover, Int.not_le.mp hover]

/-- The record that an event of a player leaves is what its judgement gives. -/
theorem score_check_self (hsharded : tracker.Sharded) (event : Event) (now : WallTime) :
    (tracker.check event now).2.score event.playerId =
      ((tracker.met event.playerId now).judge tracker.policy event now).2.score := by
  rw [score, record?_check_self hsharded]
  rfl

/-- Whether an operation admits an event of a player. -/
def Admits (tracker : Tracker) (playerId : String) (op : Op) : Prop :=
  ∃ event now admission, op = .check event now ∧ event.playerId = playerId ∧
    (tracker.check event now).1 = .admitted admission

/-- An event that is admitted gains its player its own gain. -/
theorem gained_of_admitted {event : Event} {now : WallTime} {admission : Admission}
    (hverdict : (tracker.check event now).1 = .admitted admission) :
    gained event.playerId (tracker.docket [.check event now]) = event.scoreDelta := by
  rw [docket_check, gained_singleton, if_pos ⟨rfl, by simp [Hearing.admits, hverdict]⟩]

/-- An operation that admits no event of a player gains the player nothing. -/
theorem gained_of_not_admits {op : Op} (h : ¬tracker.Admits playerId op) :
    gained playerId (tracker.docket [op]) = 0 := by
  cases op with
  | check event now =>
      rw [docket_check, gained_singleton]
      refine if_neg fun ⟨hsame, hadmits⟩ => h ?_
      cases hverdict : (tracker.check event now).1 with
      | admitted admission => exact ⟨event, now, admission, rfl, hsame, hverdict⟩
      | refused violation => simp [Hearing.admits, hverdict] at hadmits
      | stuck fault => simp [Hearing.admits, hverdict] at hadmits
  | _ => rfl

/-- An operation that admits no event of a player sets the score of the player back, or leaves
it as it is. -/
theorem score_step_of_not_admits (hsharded : tracker.Sharded) {op : Op}
    (h : ¬tracker.Admits playerId op) :
    (tracker.step op).2.score playerId = tracker.carried playerId op := by
  have hrecord := record?_step hsharded op playerId
  cases op with
  | check event now =>
      by_cases hsame : event.playerId = playerId
      · subst hsame
        have hjudged := Activity.judged tracker.policy event now (tracker.met event.playerId now)
        have hverdict (admission : Admission) : (tracker.check event now).1 ≠ .admitted admission :=
          fun hadmitted => h ⟨event, now, admission, rfl, rfl, hadmitted⟩
        rw [← effective_met_score]
        exact (score_check_self hsharded event now).trans (hjudged.score_of_not_admitted hverdict)
      · rw [score, hrecord, Op.onRecord, if_neg hsame]
        simp [carried, resets, hsame, score]
  | unblock other now =>
      rw [score, hrecord, Op.onRecord, carried]
      by_cases hsame : other = playerId
      · subst hsame
        cases hmet : tracker.record? other <;>
          simp [resets, unblock, score, hmet, Activity.clear]
      · simp [resets, hsame, score]
  | evictIdle now idle =>
      rw [score, hrecord, Op.onRecord, carried, resets, record?_evictIdle]
      cases hmet : tracker.record? playerId with
      | none => simp [score, hmet]
      | some activity =>
          cases hkept : outlives now idle activity <;> simp [score, hmet, Option.filter, hkept]
  | snapshot _ _ | blockedPlayers _ | size => rfl

/-- What an operation gains a player is not negative. -/
theorem gained_nonneg {op : Op} (hop : op.IsInbound) (tracker : Tracker) (playerId : String) :
    0 ≤ gained playerId (tracker.docket [op]) := by
  by_cases hadmits : tracker.Admits playerId op
  · obtain ⟨event, now, admission, rfl, rfl, hverdict⟩ := hadmits
    rw [gained_of_admitted hverdict]
    exact (hop event now rfl).scoreDelta_nonneg
  · exact Int.le_of_eq (gained_of_not_admits hadmits).symm

/-- Adding a gain to a score stops at the greatest score. -/
theorem addScore_of_nonneg {score delta : Int} (hscore : 0 ≤ score) (hdelta : 0 ≤ delta) :
    addScore score delta = min maxScore (score + delta) := by
  have hleast : minScore ≤ 0 := by decide
  have hgreatest : 0 ≤ maxScore := by decide
  unfold addScore
  omega

namespace Bounded

/-- What an operation adds to, a score or nothing, is within the bounds. -/
theorem carried (h : tracker.Bounded) (op : Op) (playerId : String) :
    0 ≤ tracker.carried playerId op ∧ tracker.carried playerId op ≤ maxScore := by
  unfold Tracker.carried
  split
  · exact ⟨Int.le_refl 0, by decide⟩
  · exact h playerId

/-- An operation adds to the score of a player what its event gains, if it brings one of the
player that is admitted. -/
theorem score_step (h : tracker.Bounded) (hsharded : tracker.Sharded) {op : Op}
    (hop : op.IsInbound) (playerId : String) :
    (tracker.step op).2.score playerId =
      min maxScore (tracker.carried playerId op + gained playerId (tracker.docket [op])) := by
  have hbounds := h.carried op playerId
  by_cases hadmits : tracker.Admits playerId op
  · obtain ⟨event, now, admission, rfl, rfl, hverdict⟩ := hadmits
    have hjudged := Activity.judged tracker.policy event now (tracker.met event.playerId now)
    rw [← check_fst, hverdict] at hjudged
    rw [← effective_met_score] at hbounds ⊢
    rw [gained_of_admitted hverdict,
      ← addScore_of_nonneg hbounds.1 (hop event now rfl).scoreDelta_nonneg]
    exact (score_check_self hsharded event now).trans hjudged.score_of_admitted.1
  · rw [gained_of_not_admits hadmits, Int.add_zero, Int.min_eq_right hbounds.2]
    exact score_step_of_not_admits hsharded hadmits

/-- An operation leaves the scores within their bounds. -/
theorem step (h : tracker.Bounded) (hsharded : tracker.Sharded) {op : Op}
    (hop : op.IsInbound) : (tracker.step op).2.Bounded := by
  intro playerId
  have hbefore := h.carried op playerId
  have hgained := gained_nonneg hop tracker playerId
  have hgreatest : 0 ≤ maxScore := by decide
  rw [h.score_step hsharded hop playerId]
  omega

/-- A run leaves the scores within their bounds. -/
theorem run (h : tracker.Bounded) (hsharded : tracker.Sharded) {ops : List Op}
    (hops : ∀ op ∈ ops, op.IsInbound) : (tracker.run ops).2.Bounded := by
  induction ops generalizing tracker with
  | nil => exact h
  | cons op ops ih =>
      obtain ⟨hop, hops⟩ := List.forall_mem_cons.mp hops
      exact ih (h.step hsharded hop) (hsharded.step op) hops

/-- An operation that does not set a score back leaves it at least as great. -/
theorem score_le_step (h : tracker.Bounded) (hsharded : tracker.Sharded) {op : Op}
    (hop : op.IsInbound) (hreset : tracker.resets playerId op = false) :
    tracker.score playerId ≤ (tracker.step op).2.score playerId := by
  have hgained := gained_nonneg hop tracker playerId
  have hbounds := (h playerId).2
  rw [h.score_step hsharded hop playerId, Tracker.carried, if_neg (by simp [hreset])]
  omega

/-- A run that does not set a score back leaves it at least as great. -/
theorem score_le_run (h : tracker.Bounded) (hsharded : tracker.Sharded) {ops : List Op}
    (hops : ∀ op ∈ ops, op.IsInbound) (hreset : tracker.resetsIn playerId ops = false) :
    tracker.score playerId ≤ (tracker.run ops).2.score playerId := by
  induction ops generalizing tracker with
  | nil => exact Int.le_refl _
  | cons op ops ih =>
      obtain ⟨hop, hops⟩ := List.forall_mem_cons.mp hops
      rw [resetsIn, Bool.or_eq_false_iff] at hreset
      exact Int.le_trans (h.score_le_step hsharded hop hreset.1)
        (ih (h.step hsharded hop) (hsharded.step op) hops hreset.2)

end Bounded

/-! ## Runs -/

/-- A new tracker has no scores. -/
theorem score_new (policy : Policy) (route : String → Nat) (shardCount : Nat)
    (playerId : String) : (new policy route shardCount).score playerId = 0 := by
  rw [score, record?_new]
  rfl

/-- The scores of a new tracker, which has none, are within their bounds. -/
theorem bounded_new (policy : Policy) (route : String → Nat) (shardCount : Nat) :
    (new policy route shardCount).Bounded := by
  intro playerId
  rw [score_new]
  exact ⟨Int.le_refl 0, by decide⟩

/-- After a run that began without scores, the score of a player is the sum of what was gained
since it was last set back, up to the greatest score. -/
theorem score_run (hbounded : tracker.Bounded) (hsharded : tracker.Sharded)
    (hnew : tracker.score playerId = 0) {ops : List Op} (hops : ∀ op ∈ ops, op.IsInbound) :
    (tracker.run ops).2.score playerId =
      min maxScore (gained playerId (tracker.heardSince playerId ops)) := by
  induction ops using List.reverseRecOn with
  | nil => exact hnew
  | append_singleton ops op ih =>
      obtain ⟨hops, hop⟩ := List.forall_mem_append.mp hops
      have hop : op.IsInbound := hop op List.mem_cons_self
      have hbefore := hbounded.run hsharded hops
      have hgained := gained_nonneg hop (tracker.run ops).2 playerId
      rw [run_append_snd, heardSince_append, resetsIn, resetsIn, Bool.or_false]
      change ((tracker.run ops).2.step op).2.score playerId = _
      rw [hbefore.score_step (hsharded.run ops) hop playerId, carried, ih hops]
      cases (tracker.run ops).2.resets playerId op with
      | true =>
          have hlast : (tracker.run ops).2.heardSince playerId [op] =
              (tracker.run ops).2.docket [op] := rfl
          rw [if_pos rfl, if_pos rfl, hlast, Int.zero_add]
      | false =>
          rw [if_neg (by decide), if_neg (by decide), gained_append]
          -- What is cut off in between would be cut off at the end.
          omega

/-! ## The law -/

/-- After every run of operations whose events were read from bodies, at any times: an event
that is admitted is answered with the sum of what its player gained by admitted events since
the score was last set back, this one included, up to the greatest score.  That sum is the
score on record; an event that is not admitted leaves it, or sets it back; and as long as it
is not set back it does not fall. -/
theorem scores_add_up (policy : Policy) (route : String → Nat) (shardCount : Nat) {ops : List Op}
    (hops : ∀ op ∈ ops, op.IsInbound) :
    let start := new policy route shardCount
    let tracker := (start.run ops).2
    (∀ (event : Event) (now : WallTime) (admission : Admission), event.IsInbound →
      (tracker.check event now).1 = .admitted admission →
        admission.cumulativeScore = min (2 ^ 63 - 1)
          (gained event.playerId
            (start.heardSince event.playerId (ops ++ [.check event now])))) ∧
    (∀ (playerId : String) (activity : Activity), tracker.record? playerId = some activity →
      activity.score = min (2 ^ 63 - 1) (gained playerId (start.heardSince playerId ops))) ∧
    (∀ (event : Event) (now : WallTime),
      (∀ admission, (tracker.check event now).1 ≠ .admitted admission) →
        (tracker.check event now).2.score event.playerId =
          if tracker.resets event.playerId (.check event now) then 0
          else tracker.score event.playerId) ∧
    ∀ (playerId : String) (more : List Op), (∀ op ∈ more, op.IsInbound) →
      tracker.resetsIn playerId more = false →
        tracker.score playerId ≤ (tracker.run more).2.score playerId := by
  intro start tracker
  have hsharded : start.Sharded := sharded_new policy route shardCount
  have hbounded : start.Bounded := bounded_new policy route shardCount
  have hnow : tracker.Bounded := hbounded.run hsharded hops
  have hnew (playerId : String) : start.score playerId = 0 :=
    score_new policy route shardCount playerId
  have hgreatest : maxScore = 2 ^ 63 - 1 := by decide
  rw [← hgreatest]
  refine ⟨?_, ?_, ?_, ?_⟩
  · intro event now admission hevent hverdict
    have hall : ∀ op ∈ ops ++ [.check event now], op.IsInbound :=
      List.forall_mem_append.mpr
        ⟨hops, List.forall_mem_singleton.mpr (Op.isInbound_check hevent now)⟩
    have hjudged := Activity.judged tracker.policy event now (tracker.met event.playerId now)
    rw [← check_fst, hverdict] at hjudged
    rw [hjudged.score_of_admitted.2, ← score_check_self (hsharded.run ops),
      ← score_run hbounded hsharded (hnew event.playerId) hall, run_append_snd]
    rfl
  · intro playerId activity hrecord
    rw [← score_run hbounded hsharded (hnew playerId) hops, score]
    change _ = ((tracker.record? playerId).map Activity.score).getD 0
    rw [hrecord]
    rfl
  · intro event now hverdict
    have hquiet : ¬tracker.Admits event.playerId (.check event now) := by
      rintro ⟨other, later, admission, hop, -, hadmitted⟩
      obtain ⟨rfl, rfl⟩ := Op.check.inj hop
      exact hverdict admission hadmitted
    exact score_step_of_not_admits (hsharded.run ops) hquiet
  · intro playerId more hmore hreset
    exact hnow.score_le_run (hsharded.run ops) hmore hreset

/-! ## A run with a block in it -/

/-- A boss kill that is worth the greatest score. -/
def greatKill : Event := ⟨"p", 1, .bossKill ⟨"b", none, 0x7FFFFFFFFFFFFFFF⟩⟩

/-- A progression of the same player that gains so much. -/
def progressionOf (deltaXp : Int) : Event := ⟨"p", 1, .progression ⟨deltaXp, none⟩⟩

/-- A gain above the greatest score, one that is too large at once and blocks the player, and
one while the block is in force. -/
def blockedRun : List Op :=
  [.check greatKill 0, .check (progressionOf 7) nanosPerSecond,
    .check (progressionOf 1001) (2 * nanosPerSecond),
    .check (progressionOf 7) (3 * nanosPerSecond)]

/-- The next event comes at the very end of the block and starts from nothing. -/
theorem scores_add_up_blockOver :
    let start := new .standard String.length 4
    let tracker := (start.run blockedRun).2
    let event := progressionOf 7
    let now : WallTime := 602 * nanosPerSecond
    (∀ op ∈ blockedRun, op.IsInbound) ∧
      tracker.score "p" = 2 ^ 63 - 1 ∧
      gained "p" (start.heardSince "p" blockedRun) = 2 ^ 63 - 1 + 7 ∧
      event.IsInbound ∧
      (tracker.check event now).1 = .admitted ⟨now, 7⟩ ∧
      7 = min (2 ^ 63 - 1)
        (gained event.playerId
          (start.heardSince event.playerId (blockedRun ++ [.check event now]))) := by
  intro start tracker event now
  have hkill : greatKill.IsInbound :=
    ⟨Text.Utf8.encodeString greatKill.toJson.toText, by decide +kernel⟩
  have hsmall : (progressionOf 7).IsInbound :=
    ⟨Text.Utf8.encodeString (progressionOf 7).toJson.toText, by decide +kernel⟩
  have hlarge : (progressionOf 1001).IsInbound :=
    ⟨Text.Utf8.encodeString (progressionOf 1001).toJson.toText, by decide +kernel⟩
  have hops : ∀ op ∈ blockedRun, op.IsInbound := by
    simp only [blockedRun, List.forall_mem_cons, List.not_mem_nil, false_implies, implies_true,
      and_true]
    exact ⟨Op.isInbound_check hkill _, Op.isInbound_check hsmall _, Op.isInbound_check hlarge _,
      Op.isInbound_check hsmall _⟩
  have hverdict : (tracker.check event now).1 = .admitted ⟨now, 7⟩ := by decide +kernel
  obtain ⟨hadmitted, -⟩ := scores_add_up .standard String.length 4 hops
  exact ⟨hops, by decide +kernel, by decide +kernel, hsmall, hverdict,
    hadmitted event now _ hsmall hverdict⟩

end Tracker

end Turnstile
