import Turnstile.Metrics
import Turnstile.Proofs.Fairness.Transitions

/-!
# What the counters count

A counter holds the number of times that it was raised under each label.  The journal of a
run says what became of each submission that was heard; the counters have grown by what
stands in it, and the sum over all reasons is the number of rejections.

Main definitions and results:

- `Metrics.count_increment`, `Metrics.total_increment`: raising a counter.
- `JournalEntry`: what became of one submission.
- `Metrics.Grown`, `Metrics.Counted`: counters that have grown by a journal, and that hold
  what stands in it.
- `Metrics.grown_record`, `Metrics.Grown.append`: one entry, and journals put together.
- `Metrics.Grown.counted`: counters that have grown from nothing.
-/

namespace Turnstile

/-! ## Raising a counter -/

/-- The sum of the values in a list of entries. -/
def sumOf : List (String × Nat) → Nat
  | [] => 0
  | (_, n) :: rest => n + sumOf rest

/-- Filing a value changes the sum by the difference to what was there. -/
theorem sumOf_fileUnder (name : String) (n : Nat) (entries : List (String × Nat)) :
    sumOf (fileUnder name n entries) + (lookup? name entries).getD 0 = sumOf entries + n := by
  induction entries with
  | nil => simp [fileUnder, lookup?, sumOf]
  | cons entry rest ih =>
      obtain ⟨other, m⟩ := entry
      by_cases hname : other = name
      · subst hname
        simp only [fileUnder, lookup?, if_pos, sumOf, Option.getD_some]
        omega
      · simp only [fileUnder, lookup?, if_neg hname, sumOf]
        omega

namespace Metrics

/-- The sum of a counter over all labels. -/
def total (counter : Table Nat) : Nat :=
  sumOf counter.entries

/-- Raising a counter raises it under one label. -/
theorem count_increment (counter : Table Nat) (label other : String) :
    count (increment counter label) other =
      count counter other + if other = label then 1 else 0 := by
  unfold increment
  rw [count, Table.get?_insert]
  by_cases hlabel : other = label
  · simp [hlabel]
  · simp only [if_neg hlabel, Nat.add_zero]
    rfl

/-- Raising a counter raises its sum. -/
theorem total_increment (counter : Table Nat) (label : String) :
    total (increment counter label) = total counter + 1 := by
  have hsum := sumOf_fileUnder label (count counter label + 1) counter.entries
  have hcount : (lookup? label counter.entries).getD 0 = count counter label := rfl
  change sumOf (fileUnder label (count counter label + 1) counter.entries) =
    sumOf counter.entries + 1
  omega

end Metrics

/-! ## Journals -/

/-- What became of a submission that was heard. -/
inductive JournalEntry
  | approved (accepted : AcceptedEvent)
  | rejected (rejection : Rejection)

namespace JournalEntry

/-- The event that is handed on. -/
def accepted? : JournalEntry → Option AcceptedEvent
  | approved accepted => some accepted
  | rejected _ => none

/-- The error code of a rejection. -/
def code? : JournalEntry → Option String
  | approved _ => none
  | rejected rejection => some rejection.code

/-- The reason of the block that was brought upon the player. -/
def imposed? : JournalEntry → Option BlockReason
  | rejected (.fairness violation) => (Verdict.refused violation).imposed?
  | rejected _ | approved _ => none

/-- A submission brought a block upon its player for a reason exactly when it was rejected
with the name of the reason as its error code. -/
theorem imposed?_iff (entry : JournalEntry) (reason : BlockReason) :
    entry.imposed? = some reason ↔ entry.code? = some reason.name := by
  cases entry with
  | approved accepted => simp [imposed?, code?]
  | rejected rejection =>
      cases rejection with
      | signature error => cases error <;> cases reason <;> decide
      | fairness violation =>
          cases violation <;> cases reason <;>
            simp [imposed?, code?, Verdict.imposed?, Rejection.code, BlockReason.name]
      | _ => cases reason <;> simp [imposed?, code?, Rejection.code, BlockReason.name]

/-- Only an unknown player has the error code of one. -/
theorem eq_of_code? {entry : JournalEntry} (h : entry.code? = some Rejection.playerNotFound.code) :
    entry = .rejected .playerNotFound := by
  cases entry with
  | approved accepted => simp [code?] at h
  | rejected rejection =>
      cases rejection with
      | playerNotFound => rfl
      | signature error => cases error <;> simp [code?, Rejection.code] at h
      | fairness violation => cases violation <;> simp [code?, Rejection.code] at h
      | _ => simp [code?, Rejection.code] at h

end JournalEntry

namespace Metrics

/-- The detector that a rejection tripped is named for the reason of the block. -/
theorem flag?_eq (rejection : Rejection) :
    flag? rejection = (JournalEntry.rejected rejection).imposed?.map BlockReason.name := by
  cases rejection with
  | fairness violation => cases violation <;> rfl
  | _ => rfl

/-! ## Growth -/

/-- The counters of two records of metrics are the same; the gauges may not be. -/
structure SameCounters (before after : Metrics) : Prop where
  events : after.eventsProcessed = before.eventsProcessed
  dropped : after.droppedEvents = before.droppedEvents
  flags : after.anomalyFlags = before.anomalyFlags

/-- Counters are the same as themselves. -/
theorem SameCounters.refl {metrics : Metrics} : metrics.SameCounters metrics :=
  ⟨rfl, rfl, rfl⟩

/-- The counters have grown by what stands in a journal. -/
structure Grown (before after : Metrics) (journal : List JournalEntry) : Prop where
  approved :
    count after.eventsProcessed "approved" =
      count before.eventsProcessed "approved" + journal.countP (·.accepted?.isSome)
  rejected :
    count after.eventsProcessed "rejected" =
      count before.eventsProcessed "rejected" + journal.countP (·.code?.isSome)
  dropped (code : String) :
    count after.droppedEvents code =
      count before.droppedEvents code + journal.countP (·.code? = some code)
  total :
    total after.droppedEvents = total before.droppedEvents + journal.countP (·.code?.isSome)
  flagged (reason : BlockReason) :
    count after.anomalyFlags reason.name =
      count before.anomalyFlags reason.name + journal.countP (·.imposed? = some reason)

variable {before middle after : Metrics} {earlier later : List JournalEntry}

/-- With nothing in the journal the counters are the same. -/
theorem SameCounters.grown (h : before.SameCounters after) : before.Grown after [] where
  approved := by simp [h.events]
  rejected := by simp [h.events]
  dropped code := by simp [h.dropped]
  total := by simp [h.dropped]
  flagged reason := by simp [h.flags]

/-- The growth of two runs adds up. -/
theorem Grown.append (h : before.Grown middle earlier) (h' : middle.Grown after later) :
    before.Grown after (earlier ++ later) where
  approved := by rw [h'.approved, h.approved, List.countP_append, Nat.add_assoc]
  rejected := by rw [h'.rejected, h.rejected, List.countP_append, Nat.add_assoc]
  dropped code := by rw [h'.dropped, h.dropped, List.countP_append, Nat.add_assoc]
  total := by rw [h'.total, h.total, List.countP_append, Nat.add_assoc]
  flagged reason := by rw [h'.flagged, h.flagged, List.countP_append, Nat.add_assoc]

/-- The counters hold what stands in a journal and nothing besides. -/
structure Counted (metrics : Metrics) (journal : List JournalEntry) : Prop where
  approved : count metrics.eventsProcessed "approved" = journal.countP (·.accepted?.isSome)
  rejected : count metrics.eventsProcessed "rejected" = journal.countP (·.code?.isSome)
  dropped (code : String) :
    count metrics.droppedEvents code = journal.countP (·.code? = some code)
  total : total metrics.droppedEvents = journal.countP (·.code?.isSome)
  flagged (reason : BlockReason) :
    count metrics.anomalyFlags reason.name = journal.countP (·.imposed? = some reason)

/-- Counters that have grown from nothing hold what they have grown by. -/
theorem Grown.counted {journal : List JournalEntry} (h : Metrics.initial.Grown after journal) :
    after.Counted journal where
  approved := h.approved.trans (Nat.zero_add _)
  rejected := h.rejected.trans (Nat.zero_add _)
  dropped code := (h.dropped code).trans (Nat.zero_add _)
  total := h.total.trans (Nat.zero_add _)
  flagged reason := (h.flagged reason).trans (Nat.zero_add _)

/-- Counts what became of a submission. -/
def record (metrics : Metrics) : JournalEntry → Metrics
  | .approved _ => metrics.recordApproved
  | .rejected rejection => metrics.recordRejection rejection

/-- What became of a submission is counted as such; a rejection also under its code, and
under the detector that it tripped. -/
theorem grown_record (metrics : Metrics) {entry : JournalEntry}
    (h : entry ≠ .rejected .playerNotFound) :
    metrics.Grown (metrics.record entry) [entry] := by
  cases entry with
  | approved accepted =>
      constructor
      case approved => simp [record, recordApproved, count_increment, JournalEntry.accepted?]
      case rejected => simp [record, recordApproved, count_increment, JournalEntry.code?]
      case dropped => simp [record, recordApproved, JournalEntry.code?]
      case total => simp [record, recordApproved, JournalEntry.code?]
      case flagged => simp [record, recordApproved, JournalEntry.imposed?]
  | rejected rejection =>
      have hknown : rejection ≠ .playerNotFound := fun hsame => h (congrArg _ hsame)
      simp only [record, recordRejection, if_neg hknown]
      constructor
      case approved => simp [count_increment, JournalEntry.accepted?]
      case rejected => simp [count_increment, JournalEntry.code?]
      case dropped =>
        intro code
        simp [count_increment, JournalEntry.code?, List.countP_singleton, eq_comm]
      case total => simp [total_increment, JournalEntry.code?]
      case flagged =>
        intro reason
        rw [flag?_eq]
        cases himposed : (JournalEntry.rejected rejection).imposed? with
        | none => simp [himposed]
        | some imposed =>
            cases imposed <;> cases reason <;>
              simp [himposed, count_increment, BlockReason.name]

end Metrics

end Turnstile
