import Mathlib.Algebra.Order.BigOperators.Group.List
import Mathlib.Algebra.Order.Group.Int
import Mathlib.Data.List.Induction
import Turnstile.Proofs.Event.Rules
import Turnstile.Proofs.Fairness.Foresight
import Turnstile.Proofs.Fairness.Invariants
import Turnstile.Proofs.Fairness.Scores
import Turnstile.Proofs.Fairness.Transitions

/-!
# Events that come at one time

Several clients send events that are all judged at one time, in some order.  The first event
of a player does more than those behind it: it may make the record, clear a block that is over
and move the window.  What it leaves is still told by the record before and by how many events
there were and what they gained, and so is what the events behind it leave.  So no order of the
events matters as long as they are all admitted, and that they are all admitted does not hang
on the order either.

Main definitions:

- `Interleaving`: the ways of merging what several clients send.
- `Activity.gathered`: the record after events at one time that were all admitted.
- `Activity.Ready`: a record in front of an event, after others at the same time.
- `Tracker.AdmitsAll`, `Tracker.Gathers`: all events are admitted, and what they leave then.

Main results:

- `Activity.Ready.admitted_iff`, `Activity.Ready.judge_of_admitted`: an event behind others at
  the same time.
- `Tracker.Gathers.append_singleton`, `Tracker.AdmitsAll.gathers`: one more event, and all.
- `Tracker.admitsAll_iff`: which events are all admitted.
- `Tracker.order_of_arrivals_irrelevant`: all orders of such events end in the same records.
-/

namespace Turnstile

/-! ## Interleavings -/

/-- The ways of merging what several clients send: as long as there is something to send, some
client comes with the first of what it has left. -/
inductive Interleaving {α : Type} : List (List α) → List α → Prop
  | done {clients : List (List α)} (h : ∀ client ∈ clients, client = []) :
      Interleaving clients []
  | next (before : List (List α)) {after : List (List α)} {a : α} {client merged : List α}
      (h : Interleaving (before ++ client :: after) merged) :
      Interleaving (before ++ (a :: client) :: after) (a :: merged)

/-- All of what the clients send is merged, and nothing else. -/
theorem Interleaving.perm {α : Type} {clients : List (List α)} {merged : List α}
    (h : Interleaving clients merged) : merged.Perm clients.flatten := by
  induction h with
  | done h => rw [List.flatten_eq_nil_iff.mpr h]
  | @next before after a client merged h ih =>
      have hfirst : (before ++ (a :: client) :: after).flatten =
          before.flatten ++ a :: (client ++ after.flatten) := by
        simp
      have hrest : (before ++ client :: after).flatten =
          before.flatten ++ (client ++ after.flatten) := by
        simp
      rw [hfirst]
      rw [hrest] at ih
      exact (ih.cons a).trans List.perm_middle.symm

/-! ## The record of one player -/

namespace Activity

variable {policy : Policy} {now : WallTime} {activity record : Activity} {event : Event}
  {n : Nat} {gain : Int}

/-- The score is within its bounds. -/
def InBounds (activity : Activity) : Prop :=
  minScore ≤ activity.score ∧ activity.score ≤ maxScore

theorem inBounds_addScore (score delta : Int) :
    minScore ≤ addScore score delta ∧ addScore score delta ≤ maxScore := by
  have hbounds : minScore ≤ maxScore := by decide
  unfold addScore
  omega

theorem inBounds_of_score_eq_zero (h : activity.score = 0) : activity.InBounds := by
  unfold InBounds
  rw [h]
  decide

/-- What counts of a score within its bounds is within them. -/
theorem InBounds.effective (h : activity.InBounds) (now : WallTime) :
    (activity.effective now).InBounds := by
  unfold Activity.effective
  split
  · exact inBounds_of_score_eq_zero rfl
  · exact h

/-- Every score is within its bounds. -/
theorem kept_inBounds (policy : Policy) : Kept policy InBounds := by
  refine .of_judged (fun now => inBounds_of_score_eq_zero rfl) ?_
    fun _ => inBounds_of_score_eq_zero rfl
  intro activity after event now verdict hbounds hjudged
  unfold InBounds
  by_cases hadmitted : ∃ admission, verdict = .admitted admission
  · obtain ⟨admission, rfl⟩ := hadmitted
    rw [hjudged.score_of_admitted.1]
    exact inBounds_addScore _ _
  · rw [hjudged.score_of_not_admitted (not_exists.mp hadmitted)]
    exact hbounds.effective now

/-- The record after so many events at a time that were all admitted and together gained so
much. -/
def gathered (policy : Policy) (now : WallTime) (activity : Activity) (n : Nat) (gain : Int) :
    Activity :=
  { activity.counted policy now with
    count := min (windowCount policy now (activity.effective now) + n) maxCount
    score := min maxScore ((activity.effective now).score + gain) }

/-- A record in front of an event at a time, after so many others at the same time: no block is
in force, and the tally is that of all of them. -/
structure Ready (policy : Policy) (now : WallTime) (activity : Activity) (n : Nat) (gain : Int)
    (record : Activity) : Prop where
  free : record.blockAt? now = none
  counted : record.counted policy now = activity.gathered policy now (n + 1) gain

/-- A record without a block in force is ready for the first of several events at a time. -/
theorem ready_self (hbounds : activity.InBounds) (hfree : activity.blockAt? now = none) :
    activity.Ready policy now 0 0 activity where
  free := hfree
  counted := by
    have hcount : (activity.counted policy now).count =
        min (windowCount policy now (activity.effective now) + (0 + 1)) maxCount := by
      rw [counted, arrive_of_free hfree, tally_count]
      rfl
    have hscore : (activity.counted policy now).score =
        min maxScore ((activity.effective now).score + 0) := by
      rw [counted_score_eq_effective hfree, Int.add_zero,
        Int.min_eq_right (hbounds.effective now).2]
    unfold gathered
    rw [← hcount, ← hscore]

/-- Events that were all admitted leave no block. -/
theorem gathered_block (policy : Policy) (now : WallTime) (activity : Activity) (n : Nat)
    (gain : Int) : (activity.gathered policy now n gain).block = none := by
  change (activity.counted policy now).block = none
  rw [counted, tally_block, arrive_block]

/-- A record in which events were gathered is ready for the next event at the same time. -/
theorem ready_gathered (hvalid : policy.Valid) (activity : Activity) (n : Nat) (gain : Int) :
    activity.Ready policy now n gain (activity.gathered policy now n gain) := by
  have hblock := gathered_block policy now activity n gain
  have hopen : now < (activity.gathered policy now n gain).windowStart + policy.window := by
    have hwindow : ¬policy.window ≤ now - (activity.counted policy now).windowStart :=
      counted_window hvalid activity
    change now < (activity.counted policy now).windowStart + policy.window
    grind
  have hcount : nextCount (activity.gathered policy now n gain).count =
      min (windowCount policy now (activity.effective now) + (n + 1)) maxCount := by
    unfold nextCount gathered
    dsimp only
    omega
  refine ⟨by simp [blockAt?, hblock], ?_⟩
  rw [counted_of_open hblock (counted_windowStart_le policy now activity) hopen, hcount]
  have hseen : (activity.counted policy now).lastSeen = now := by
    simp [counted, arrive]
  simp only [gathered, hseen]

/-- An event may pass behind others at the same time: their tally is allowed with it, and its
gain is not too large. -/
def Passes (policy : Policy) (now : WallTime) (activity : Activity) (n : Nat) (event : Event) :
    Prop :=
  min (windowCount policy now (activity.effective now) + n) maxCount ≤ policy.anomalyThreshold ∧
    anomalous policy event = false

/-- An event that may pass behind some events may pass behind fewer. -/
theorem Passes.of_le {m : Nat} (h : activity.Passes policy now n event) (hle : m ≤ n) :
    activity.Passes policy now m event := by
  refine ⟨Nat.le_trans ?_ h.1, h.2⟩
  omega

namespace Ready

/-- An event behind others floods when their tally is not allowed with it. -/
theorem floods_iff (h : activity.Ready policy now n gain record) (hvalid : policy.Valid) :
    (record.arrive now).floods policy now = true ↔
      policy.anomalyThreshold <
        min (windowCount policy now (activity.effective now) + (n + 1)) maxCount := by
  have hcount : ((record.arrive now).tally policy now).count =
      (activity.gathered policy now (n + 1) gain).count :=
    congrArg Activity.count h.counted
  rw [Activity.floods_iff hvalid.threshold_pos, ← tally_count, hcount]
  rfl

/-- An event behind others is admitted exactly when it may pass. -/
theorem admitted_iff (h : activity.Ready policy now n gain record) (hvalid : policy.Valid) :
    (∃ admission, (record.judge policy event now).1 = .admitted admission) ↔
      activity.Passes policy now (n + 1) event := by
  have hfloods := h.floods_iff hvalid
  have hcalm : (record.arrive now).floods policy now = false ↔
      min (windowCount policy now (activity.effective now) + (n + 1)) maxCount ≤
        policy.anomalyThreshold := by
    rw [← Bool.not_eq_true, hfloods, Nat.not_lt]
  rw [exists_admitted_iff, hcalm, Passes]
  exact and_iff_right h.free

/-- An event behind others that is admitted is gathered with them. -/
theorem judge_of_admitted (h : activity.Ready policy now n gain record)
    (hbounds : activity.InBounds) (hgain : 0 ≤ gain) (hdelta : 0 ≤ event.scoreDelta)
    {admission : Admission} (hadmitted : (record.judge policy event now).1 = .admitted admission) :
    (record.judge policy event now).2 =
      activity.gathered policy now (n + 1) (gain + event.scoreDelta) := by
  have hscore : addScore (min maxScore ((activity.effective now).score + gain)) event.scoreDelta =
      min maxScore ((activity.effective now).score + (gain + event.scoreDelta)) := by
    have hleast := (hbounds.effective now).1
    have hbound : minScore ≤ maxScore := by decide
    unfold addScore
    omega
  obtain ⟨hfree, hcalm, hlittle⟩ := exists_admitted_iff.mp ⟨admission, hadmitted⟩
  rw [judge_of_calm hfree hcalm hlittle, h.counted]
  simp only [gathered, hscore]

end Ready

/-- What a reader sees at the time of events that were all admitted. -/
theorem snapshot_gathered (hvalid : policy.Valid) (activity : Activity) (playerId : String) :
    let seen := (activity.gathered policy now n gain).snapshot playerId policy now
    seen.eventCountInWindow =
        min ((activity.snapshot playerId policy now).eventCountInWindow + n) maxCount ∧
      seen.cumulativeScore =
        min maxScore ((activity.snapshot playerId policy now).cumulativeScore + gain) := by
  intro seen
  have hblock := gathered_block policy now activity n gain
  have heffective : (activity.gathered policy now n gain).effective now =
      activity.gathered policy now n gain := by
    simp [effective, hblock]
  have hopen : ¬policy.window ≤ now - (activity.gathered policy now n gain).windowStart :=
    counted_window hvalid activity
  simp only [seen, snapshot_eq, heffective, windowCount, if_neg hopen]
  exact ⟨rfl, rfl⟩

end Activity

/-! ## All players -/

namespace Tracker

variable {policy : Policy} {now : WallTime} {tracker : Tracker} {events : List Event}
  {event : Event}

/-- Events that all come at one time, as operations. -/
def arrivals (events : List Event) (now : WallTime) : List Op :=
  events.map fun event => .check event now

/-- All events that come at a time are admitted. -/
def AdmitsAll (tracker : Tracker) (events : List Event) (now : WallTime) : Prop :=
  ∀ hearing ∈ tracker.docket (arrivals events now), hearing.admits = true

/-- The events of a player. -/
def eventsOf (playerId : String) (events : List Event) : List Event :=
  events.filter fun event => event.playerId = playerId

/-- What events gain together. -/
def gainOf (events : List Event) : Int :=
  (events.map Event.scoreDelta).sum

/-- The record of a player after events at one time that were all admitted. -/
def gathered? (tracker : Tracker) (events : List Event) (now : WallTime) (playerId : String) :
    Option Activity :=
  let own := eventsOf playerId events
  if own = [] then tracker.record? playerId
  else some ((tracker.met playerId now).gathered tracker.policy now own.length (gainOf own))

/-- One more event is the last of those of its player, and none of those of others. -/
theorem eventsOf_append_singleton (playerId : String) (events : List Event) (event : Event) :
    eventsOf playerId (events ++ [event]) =
      if event.playerId = playerId then eventsOf playerId events ++ [event]
      else eventsOf playerId events := by
  unfold eventsOf
  rw [List.filter_append]
  split <;> simp [*]

/-- One more event adds its own gain to what the others gain. -/
theorem gainOf_append_singleton (events : List Event) (event : Event) :
    gainOf (events ++ [event]) = gainOf events + event.scoreDelta := by
  simp [gainOf]

/-- Events that were read from bodies gain nothing at least. -/
theorem gainOf_eventsOf_nonneg (hevents : ∀ event ∈ events, event.IsInbound) (playerId : String) :
    0 ≤ gainOf (eventsOf playerId events) := by
  refine List.sum_nonneg fun delta hdelta => ?_
  obtain ⟨event, hevent, rfl⟩ := List.mem_map.mp hdelta
  exact (hevents event (List.mem_of_mem_filter hevent)).scoreDelta_nonneg

theorem arrivals_append_singleton (events : List Event) (event : Event) (now : WallTime) :
    arrivals (events ++ [event]) now = arrivals events now ++ [.check event now] := by
  simp [arrivals]

/-- Events are all admitted when all but the last are, and then the last is. -/
theorem admitsAll_append_singleton :
    tracker.AdmitsAll (events ++ [event]) now ↔
      tracker.AdmitsAll events now ∧ ∃ admission,
        ((tracker.run (arrivals events now)).2.check event now).1 = .admitted admission := by
  unfold AdmitsAll
  rw [arrivals_append_singleton, docket_append, docket_check, List.forall_mem_append,
    List.forall_mem_singleton]
  refine and_congr_right fun _ => ?_
  unfold Hearing.admits
  cases ((tracker.run (arrivals events now)).2.check event now).1 <;> simp

/-- What events at one time leave when they are all admitted: none of them met a block in force,
and each record is what was gathered in it. -/
structure Gathers (tracker : Tracker) (events : List Event) (now : WallTime) : Prop where
  free : ∀ event ∈ events, (tracker.met event.playerId now).blockAt? now = none
  record?_eq : ∀ playerId, (tracker.run (arrivals events now)).2.record? playerId =
    tracker.gathered? events now playerId

section Gathers

variable (hvalid : policy.Valid) (hunder : tracker.Under policy)
  (hbounds : tracker.All Activity.InBounds)

include hbounds in
/-- What an event meets is within its bounds. -/
theorem inBounds_met (playerId : String) : (tracker.met playerId now).InBounds := by
  unfold met
  cases hrecord : tracker.record? playerId with
  | none => exact Activity.inBounds_of_score_eq_zero rfl
  | some activity => exact hbounds playerId activity hrecord

include hvalid hunder hbounds in
/-- The record of a player without a block in force is ready for the next event. -/
theorem Gathers.ready (h : tracker.Gathers events now) {playerId : String}
    (hfree : (tracker.met playerId now).blockAt? now = none) :
    (tracker.met playerId now).Ready policy now (eventsOf playerId events).length
      (gainOf (eventsOf playerId events))
      ((tracker.run (arrivals events now)).2.met playerId now) := by
  have hrecord := h.record?_eq playerId
  unfold gathered? at hrecord
  dsimp only at hrecord
  split at hrecord
  · rename_i hnone
    have hmet : (tracker.run (arrivals events now)).2.met playerId now =
        tracker.met playerId now := by
      rw [met, hrecord, met]
    rw [hmet, hnone]
    exact Activity.ready_self (inBounds_met hbounds playerId) hfree
  · have hmet : (tracker.run (arrivals events now)).2.met playerId now =
        (tracker.met playerId now).gathered policy now (eventsOf playerId events).length
          (gainOf (eventsOf playerId events)) := by
      rw [met, hrecord, Option.getD_some, hunder.policy_eq]
    rw [hmet]
    exact Activity.ready_gathered hvalid _ _ _

include hvalid hunder hbounds in
/-- An event behind others is admitted exactly when its player has no block in force in front of
them, and it may pass behind those of its player. -/
theorem Gathers.admitted_iff (h : tracker.Gathers events now) :
    (∃ admission,
        ((tracker.run (arrivals events now)).2.check event now).1 = .admitted admission) ↔
      (tracker.met event.playerId now).blockAt? now = none ∧
        (tracker.met event.playerId now).Passes policy now
          ((eventsOf event.playerId events).length + 1) event := by
  have hpolicy : (tracker.run (arrivals events now)).2.policy = policy :=
    (hunder.run _).policy_eq
  rw [check_fst, hpolicy]
  constructor
  · intro hadmitted
    have hfree : (tracker.met event.playerId now).blockAt? now = none := by
      by_cases hnone : eventsOf event.playerId events = []
      · have hrecord := h.record?_eq event.playerId
        rw [gathered?, if_pos hnone] at hrecord
        rw [met, hrecord, ← met] at hadmitted
        exact (Activity.exists_admitted_iff.mp hadmitted).1
      · obtain ⟨other, hother⟩ := List.exists_mem_of_ne_nil _ hnone
        obtain ⟨hother, hsame⟩ := List.mem_filter.mp hother
        rw [← of_decide_eq_true hsame]
        exact h.free other hother
    exact ⟨hfree, ((h.ready hvalid hunder hbounds hfree).admitted_iff hvalid).mp hadmitted⟩
  · rintro ⟨hfree, hpasses⟩
    exact ((h.ready hvalid hunder hbounds hfree).admitted_iff hvalid).mpr hpasses

include hvalid hunder hbounds in
/-- An event behind others that is admitted is gathered with them. -/
theorem Gathers.append_singleton (h : tracker.Gathers events now)
    (hevents : ∀ event ∈ events, event.IsInbound) (hevent : event.IsInbound)
    {admission : Admission}
    (hadmitted : ((tracker.run (arrivals events now)).2.check event now).1 = .admitted admission) :
    tracker.Gathers (events ++ [event]) now := by
  obtain ⟨hfree, -⟩ := (h.admitted_iff hvalid hunder hbounds).mp ⟨admission, hadmitted⟩
  have hpolicy : (tracker.run (arrivals events now)).2.policy = policy :=
    (hunder.run _).policy_eq
  refine ⟨?free, fun playerId => ?record⟩
  case free =>
    refine List.forall_mem_append.mpr ⟨h.free, ?_⟩
    exact List.forall_mem_singleton.mpr hfree
  case record =>
    rw [arrivals_append_singleton, run_append_snd, gathered?, eventsOf_append_singleton]
    change ((tracker.run (arrivals events now)).2.check event now).2.record? playerId = _
    by_cases hsame : event.playerId = playerId
    · subst hsame
      have hgain := gainOf_eventsOf_nonneg hevents event.playerId
      rw [check_fst, hpolicy] at hadmitted
      rw [record?_check_self (hunder.sharded.run _), hpolicy,
        (h.ready hvalid hunder hbounds hfree).judge_of_admitted (inBounds_met hbounds _) hgain
          hevent.scoreDelta_nonneg hadmitted]
      simp [gainOf_append_singleton, hunder.policy_eq]
    · rw [record?_check_of_ne _ _ _ (Ne.symm hsame), if_neg hsame]
      exact h.record?_eq playerId

include hvalid hunder hbounds in
/-- Events that are all admitted are gathered. -/
theorem AdmitsAll.gathers (hevents : ∀ event ∈ events, event.IsInbound)
    (h : tracker.AdmitsAll events now) : tracker.Gathers events now := by
  induction events using List.reverseRecOn with
  | nil => exact ⟨by simp, fun _ => rfl⟩
  | append_singleton events event ih =>
      obtain ⟨hbefore, admission, hadmitted⟩ := admitsAll_append_singleton.mp h
      obtain ⟨hevents, hevent⟩ := List.forall_mem_append.mp hevents
      exact (ih hevents hbefore).append_singleton hvalid hunder hbounds hevents
        (hevent event List.mem_cons_self) hadmitted

include hvalid hunder hbounds in
/-- Events at one time are all admitted exactly when no block of their players is in force and
each may pass behind all those of its player. -/
theorem admitsAll_iff (hevents : ∀ event ∈ events, event.IsInbound) :
    tracker.AdmitsAll events now ↔ ∀ event ∈ events,
      (tracker.met event.playerId now).blockAt? now = none ∧
        (tracker.met event.playerId now).Passes policy now
          (eventsOf event.playerId events).length event := by
  induction events using List.reverseRecOn with
  | nil => simp [AdmitsAll, arrivals, docket, run]
  | append_singleton events event ih =>
      obtain ⟨hevents, -⟩ := List.forall_mem_append.mp hevents
      have ih := ih hevents
      have hown : (eventsOf event.playerId (events ++ [event])).length =
          (eventsOf event.playerId events).length + 1 := by
        simp [eventsOf_append_singleton]
      rw [admitsAll_append_singleton, List.forall_mem_append, List.forall_mem_singleton, hown]
      constructor
      · rintro ⟨hbefore, hadmitted⟩
        have hgathers := hbefore.gathers hvalid hunder hbounds hevents
        have hlast := (hgathers.admitted_iff hvalid hunder hbounds).mp hadmitted
        refine ⟨fun other hother => ?_, hlast⟩
        obtain ⟨hfree, hpasses⟩ := ih.mp hbefore other hother
        rw [eventsOf_append_singleton]
        split
        · rename_i hsame
          -- The last event has made the tally larger, and is allowed with it.
          rw [← hsame] at hfree hpasses ⊢
          rw [List.length_append, List.length_singleton]
          exact ⟨hfree, hlast.2.1, hpasses.2⟩
        · exact ⟨hfree, hpasses⟩
      · rintro ⟨hearlier, hlast⟩
        have hbefore : tracker.AdmitsAll events now := by
          refine ih.mpr fun other hother => ?_
          obtain ⟨hfree, hpasses⟩ := hearlier other hother
          refine ⟨hfree, hpasses.of_le ?_⟩
          exact ((List.sublist_append_left events [event]).filter _).length_le
        have hgathers := hbefore.gathers hvalid hunder hbounds hevents
        exact ⟨hbefore, (hgathers.admitted_iff hvalid hunder hbounds).mpr hlast⟩

/-! ## Any order -/

/-- In any order there are as many events of a player. -/
theorem eventsOf_perm {others : List Event} (h : events.Perm others) (playerId : String) :
    (eventsOf playerId events).Perm (eventsOf playerId others) :=
  h.filter _

theorem eventsOf_eq_nil_iff_of_perm {others : List Event} (h : events.Perm others)
    (playerId : String) : eventsOf playerId events = [] ↔ eventsOf playerId others = [] := by
  rw [← List.length_eq_zero_iff, (eventsOf_perm h playerId).length_eq, List.length_eq_zero_iff]

/-- In any order events of a player gain the same. -/
theorem gainOf_eventsOf_of_perm {others : List Event} (h : events.Perm others)
    (playerId : String) : gainOf (eventsOf playerId events) = gainOf (eventsOf playerId others) :=
  ((eventsOf_perm h playerId).map _).sum_eq

/-- In any order the same is gathered. -/
theorem gathered?_of_perm {others : List Event} (h : events.Perm others) (playerId : String) :
    tracker.gathered? events now playerId = tracker.gathered? others now playerId := by
  simp only [gathered?, eventsOf_eq_nil_iff_of_perm h, (eventsOf_perm h playerId).length_eq,
    gainOf_eventsOf_of_perm h]

include hvalid hunder hbounds in
/-- In any order events are all admitted. -/
theorem AdmitsAll.of_perm {others : List Event} (hperm : events.Perm others)
    (hevents : ∀ event ∈ events, event.IsInbound) (h : tracker.AdmitsAll events now) :
    tracker.AdmitsAll others now := by
  have hothers : ∀ event ∈ others, event.IsInbound := fun event hevent =>
    hevents event (hperm.mem_iff.mpr hevent)
  rw [admitsAll_iff hvalid hunder hbounds hevents] at h
  rw [admitsAll_iff hvalid hunder hbounds hothers]
  intro event hevent
  rw [← (eventsOf_perm hperm event.playerId).length_eq]
  exact h event (hperm.mem_iff.mpr hevent)

include hvalid hunder in
/-- What a reader sees of a player with events that were all admitted. -/
theorem Gathers.snapshot? (h : tracker.Gathers events now) {playerId : String}
    (hsome : eventsOf playerId events ≠ []) :
    ∃ seen, (tracker.run (arrivals events now)).2.snapshot? playerId now = some seen ∧
      seen.eventCountInWindow =
        min ((tracker.view playerId now).eventCountInWindow +
          (eventsOf playerId events).length) maxCount ∧
      seen.cumulativeScore =
        min maxScore ((tracker.view playerId now).cumulativeScore +
          gainOf (eventsOf playerId events)) := by
  have hrecord := h.record?_eq playerId
  rw [gathered?, if_neg hsome, hunder.policy_eq] at hrecord
  rw [Tracker.snapshot?, hrecord, view_eq, (hunder.run _).policy_eq, hunder.policy_eq]
  exact ⟨_, rfl, Activity.snapshot_gathered hvalid _ playerId⟩

end Gathers

/-! ## The law -/

/-- After every run of operations, at times in any order, several clients send events that were
read from bodies, all at one time.  If in some order that keeps the order of each client all
events are admitted, then so they are in every such order, and the record of each player is the
same afterwards.  A reader then sees for a player with events: as many more events in the window
as there were, and the score with what they gained, both up to the greatest there is. -/
theorem order_of_arrivals_irrelevant {policy : Policy} (hvalid : policy.Valid)
    (route : String → Nat) (shardCount : Nat) (history : List Op) (now : WallTime)
    {clients : List (List Event)} (hclients : ∀ client ∈ clients, ∀ event ∈ client, event.IsInbound)
    {merged : List Event} (hmerged : Interleaving clients merged) :
    let tracker := ((new policy route shardCount).run history).2
    tracker.AdmitsAll merged now → ∀ other, Interleaving clients other →
      tracker.AdmitsAll other now ∧
      (∀ playerId, (tracker.run (arrivals other now)).2.record? playerId =
        (tracker.run (arrivals merged now)).2.record? playerId) ∧
      ∀ playerId, let own := eventsOf playerId clients.flatten
        own ≠ [] → ∃ seen,
          (tracker.run (arrivals other now)).2.snapshot? playerId now = some seen ∧
          seen.eventCountInWindow =
            min ((tracker.view playerId now).eventCountInWindow + own.length) (2 ^ 32 - 1) ∧
          seen.cumulativeScore =
            min (2 ^ 63 - 1) ((tracker.view playerId now).cumulativeScore + gainOf own) := by
  intro tracker hadmitted other hother
  have hunder : tracker.Under policy := (under_new policy route shardCount).run history
  have hbounds : tracker.All Activity.InBounds :=
    (Activity.kept_inBounds policy).of_run_new route shardCount history
  have hinbound : ∀ event ∈ clients.flatten, event.IsInbound := by
    intro event hevent
    obtain ⟨client, hclient, hevent⟩ := List.mem_flatten.mp hevent
    exact hclients client hclient event hevent
  have hmergedInbound : ∀ event ∈ merged, event.IsInbound := fun event hevent =>
    hinbound event (hmerged.perm.mem_iff.mp hevent)
  have hotherInbound : ∀ event ∈ other, event.IsInbound := fun event hevent =>
    hinbound event (hother.perm.mem_iff.mp hevent)
  have hperm : merged.Perm other := hmerged.perm.trans hother.perm.symm
  have hotherAdmitted : tracker.AdmitsAll other now :=
    hadmitted.of_perm hvalid hunder hbounds hperm hmergedInbound
  have hgathered := hotherAdmitted.gathers hvalid hunder hbounds hotherInbound
  refine ⟨hotherAdmitted, fun playerId => ?_, fun playerId => ?_⟩
  · rw [hgathered.record?_eq,
      (hadmitted.gathers hvalid hunder hbounds hmergedInbound).record?_eq, gathered?_of_perm hperm]
  · intro own hown
    have hsome : eventsOf playerId other ≠ [] :=
      mt (eventsOf_eq_nil_iff_of_perm hother.perm playerId).mp hown
    have hseen := hgathered.snapshot? hvalid hunder hsome
    rw [(eventsOf_perm hother.perm playerId).length_eq,
      gainOf_eventsOf_of_perm hother.perm] at hseen
    exact hseen

/-- A block is just over when two clients send events of its player.  Whoever comes first, three
events are counted in a new window, and the score stops at the greatest. -/
theorem order_of_arrivals_irrelevant_blockOver :
    let tracker := ((new .standard String.length 4).run blockedRun).2
    let now : WallTime := 602 * nanosPerSecond
    let clients := [[progressionOf 7, progressionOf 7], [greatKill]]
    let merged := [progressionOf 7, progressionOf 7, greatKill]
    let other := [greatKill, progressionOf 7, progressionOf 7]
    Policy.standard.Valid ∧ (∀ client ∈ clients, ∀ event ∈ client, event.IsInbound) ∧
      Interleaving clients merged ∧ tracker.AdmitsAll merged now ∧
      Interleaving clients other ∧ tracker.AdmitsAll other now ∧
      (tracker.run (arrivals other now)).2.record? "p" =
        (tracker.run (arrivals merged now)).2.record? "p" ∧
      ∃ seen, (tracker.run (arrivals other now)).2.snapshot? "p" now = some seen ∧
        seen.eventCountInWindow = 3 ∧ seen.cumulativeScore = 2 ^ 63 - 1 := by
  intro tracker now clients merged other
  have hclients : ∀ client ∈ clients, ∀ event ∈ client, event.IsInbound := by
    have hkill : greatKill.IsInbound :=
      ⟨Text.Utf8.encodeString greatKill.toJson.toText, by decide +kernel⟩
    have hsmall : (progressionOf 7).IsInbound :=
      ⟨Text.Utf8.encodeString (progressionOf 7).toJson.toText, by decide +kernel⟩
    simp [clients, hkill, hsmall]
  have hmerged : Interleaving clients merged :=
    .next [] (.next [] (.next [[]] (.done (by simp))))
  have hother : Interleaving clients other :=
    .next [[progressionOf 7, progressionOf 7]] (.next [] (.next [] (.done (by simp))))
  have hadmitted : tracker.AdmitsAll merged now := by
    unfold AdmitsAll
    decide +kernel
  obtain ⟨hall, hrecord, hseen⟩ :=
    order_of_arrivals_irrelevant Policy.valid_standard String.length 4 blockedRun now hclients
      hmerged hadmitted other hother
  obtain ⟨seen, hsnapshot, hcount, hscore⟩ := hseen "p" (by decide)
  refine ⟨Policy.valid_standard, hclients, hmerged, hadmitted, hother, hall, hrecord "p", seen,
    hsnapshot, hcount.trans (by decide +kernel), hscore.trans (by decide +kernel)⟩

end Tracker

end Turnstile
