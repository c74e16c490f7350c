import Turnstile.Proofs.Fairness.Records

/-!
# The events of a run

Laws about whole runs speak of the events that come in, and of the verdicts on them.
Both can be read off the operations and answers of a run.

Main definitions and results:

- `Tracker.Hearing`, `Tracker.docket`: the events of a run with their verdicts.
- `Tracker.calls`, `Tracker.admissions`: when the events of a player come, and when those
  come that are admitted.
- `Tracker.checks_docket`: no event goes without a verdict.
-/

namespace Turnstile
namespace Tracker

/-! ## Hearings -/

/-- An event that was judged at some time, and the verdict. -/
structure Hearing where
  event : Event
  time : WallTime
  verdict : Verdict
deriving DecidableEq, Repr

namespace Hearing

/-- What an operation and its answer say about an event. -/
def of? : Op × Answer → Option Hearing
  | (.check event now, .verdict verdict) => some ⟨event, now, verdict⟩
  | _ => none

/-- Whether the event was admitted. -/
def admits (hearing : Hearing) : Bool :=
  match hearing.verdict with
  | .admitted _ => true
  | .refused _ | .stuck _ => false

end Hearing

/-- The events of a run in turn, each with its verdict. -/
def docket (tracker : Tracker) (ops : List Op) : List Hearing :=
  (ops.zip (tracker.run ops).1).filterMap Hearing.of?

/-- When events of a player were admitted. -/
def admissions (playerId : String) (hearings : List Hearing) : List WallTime :=
  (hearings.filter fun hearing => hearing.event.playerId = playerId ∧ hearing.admits).map
    Hearing.time

/-- When events of a player come in a run. -/
def calls (playerId : String) (ops : List Op) : List WallTime :=
  ops.filterMap fun
    | .check event now => if event.playerId = playerId then some now else none
    | _ => none

variable {playerId : String}

/-! ## One step -/

/-- What the first operation brings comes first. -/
theorem docket_cons (tracker : Tracker) (op : Op) (ops : List Op) :
    tracker.docket (op :: ops) = tracker.docket [op] ++ (tracker.step op).2.docket ops := by
  cases op <;> rfl

/-- An event is heard. -/
theorem docket_check (tracker : Tracker) (event : Event) (now : WallTime) :
    tracker.docket [.check event now] = [⟨event, now, (tracker.check event now).1⟩] :=
  rfl

/-- Where there is no event nothing is heard. -/
theorem docket_of_quiet (tracker : Tracker) {op : Op} (h : ¬∃ event now, op = .check event now) :
    tracker.docket [op] = [] := by
  cases op with
  | check event now => exact absurd ⟨event, now, rfl⟩ h
  | _ => rfl

/-- What one operation brings is its event, with the verdict on it. -/
theorem mem_docket_singleton {tracker : Tracker} {op : Op} {hearing : Hearing}
    (h : hearing ∈ tracker.docket [op]) :
    op = .check hearing.event hearing.time ∧
      hearing.verdict = (tracker.check hearing.event hearing.time).1 := by
  cases op with
  | check event now =>
      obtain rfl := List.mem_singleton.mp h
      exact ⟨rfl, rfl⟩
  | _ => simp [docket_of_quiet] at h

/-- What the second part of a run brings comes behind what the first did. -/
theorem docket_append (tracker : Tracker) (ops more : List Op) :
    tracker.docket (ops ++ more) = tracker.docket ops ++ (tracker.run ops).2.docket more := by
  induction ops generalizing tracker with
  | nil => rfl
  | cons op ops ih =>
      rw [List.cons_append, docket_cons, ih, docket_cons tracker op ops, List.append_assoc]
      rfl

/-- Every event of a run is heard, in turn. -/
theorem checks_docket (tracker : Tracker) (ops : List Op) :
    ((tracker.docket ops).map fun hearing => Op.check hearing.event hearing.time) =
      ops.filter fun op => op matches .check _ _ := by
  induction ops generalizing tracker with
  | nil => rfl
  | cons op ops ih =>
      rw [docket_cons, List.map_append, ih]
      cases op <;> rfl

/-! ## One player -/

@[simp]
theorem admissions_nil : admissions playerId [] = [] :=
  rfl

@[simp]
theorem admissions_append (before after : List Hearing) :
    admissions playerId (before ++ after) =
      admissions playerId before ++ admissions playerId after := by
  simp [admissions]

/-- An event that is admitted counts for its player. -/
theorem admissions_cons (hearing : Hearing) (hearings : List Hearing) :
    admissions playerId (hearing :: hearings) =
      if hearing.event.playerId = playerId ∧ hearing.admits then
        hearing.time :: admissions playerId hearings
      else admissions playerId hearings := by
  unfold admissions
  rw [List.filter_cons]
  split <;> simp_all

/-- Where there is no event of a player, none is admitted. -/
theorem admissions_of_quiet (tracker : Tracker) {op : Op}
    (h : ∀ event now, op = .check event now → event.playerId ≠ playerId) :
    admissions playerId (tracker.docket [op]) = [] := by
  cases op with
  | check event now => simp [docket_check, admissions_cons, h event now rfl]
  | _ => rfl

theorem calls_cons (op : Op) (ops : List Op) :
    calls playerId (op :: ops) = calls playerId [op] ++ calls playerId ops :=
  List.filterMap_append (l := [op])

/-- An event of a player is a call. -/
theorem calls_check_of_eq {event : Event} (hsame : event.playerId = playerId) (now : WallTime) :
    calls playerId [.check event now] = [now] := by
  simp [calls, hsame]

/-- Where there is no event of a player there is no call. -/
theorem calls_of_quiet {op : Op}
    (h : ∀ event now, op = .check event now → event.playerId ≠ playerId) :
    calls playerId [op] = [] := by
  cases op with
  | check event now => simp [calls, h event now rfl]
  | _ => rfl

end Tracker
end Turnstile
