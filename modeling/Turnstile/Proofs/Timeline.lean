import Turnstile.Time

/-!
# Runs in the order of time

Operations read a clock when they take place.  Where a law needs a clock that never
goes back, it is stated for runs whose readings do not decrease.

Main definitions and results:

- `Timed`: operations with the reading that they take, if they take one.
- `times`, `Chronological`: the readings of a run, and that they do not decrease.
- `Chronological.tail`, `Chronological.of_mem`: the rest of a run.
- `countWithin`, `countSince`: how many times lie in a span, or come after its start.
- `spansBegun`: how many spans in a row have begun.
-/

namespace Turnstile

/-- Operations that read a clock, or need none. -/
class Timed (ω : Type) where
  /-- The reading that an operation takes. -/
  time? : ω → Option Int

variable {ω : Type} [Timed ω]

/-- The readings of a run in turn. -/
def times (ops : List ω) : List Int :=
  ops.filterMap Timed.time?

/-- The clock never goes back in a run that starts at some time. -/
def Chronological (start : Int) (ops : List ω) : Prop :=
  (start :: times ops).Pairwise (· ≤ ·)

@[simp]
theorem times_append (before after : List ω) :
    times (before ++ after) = times before ++ times after :=
  List.filterMap_append

/-- A reading of a run is the reading of one of its operations. -/
theorem mem_times_iff {ops : List ω} {now : Int} :
    now ∈ times ops ↔ ∃ op ∈ ops, Timed.time? op = some now :=
  List.mem_filterMap

/-- The readings of a run go on in a longer one. -/
theorem mem_times_cons {op : ω} {ops : List ω} {now : Int} (h : now ∈ times ops) :
    now ∈ times (op :: ops) := by
  obtain ⟨later, hlater, htime⟩ := mem_times_iff.mp h
  exact mem_times_iff.mpr ⟨later, List.mem_cons_of_mem op hlater, htime⟩

namespace Chronological

/-- No reading of a run is before its start. -/
theorem start_le {start now : Int} {ops : List ω} (h : Chronological start ops)
    (hnow : now ∈ times ops) : start ≤ now :=
  (List.pairwise_cons.mp h).1 now hnow

/-- The time after the first operation is not before the start. -/
theorem start_le_head {start : Int} {op : ω} {ops : List ω} (h : Chronological start (op :: ops)) :
    start ≤ (Timed.time? op).getD start := by
  cases htime : Timed.time? op with
  | none => exact Int.le_refl start
  | some now => exact h.start_le (mem_times_iff.mpr ⟨op, List.mem_cons_self, htime⟩)

/-- Behind the first operation of a run the clock never goes back, and starts at its reading,
if it takes one. -/
theorem tail {start : Int} {op : ω} {ops : List ω} (h : Chronological start (op :: ops)) :
    Chronological ((Timed.time? op).getD start) ops := by
  unfold Chronological times at *
  cases htime : Timed.time? op with
  | none => simpa [List.filterMap_cons, htime] using h
  | some now =>
      rw [List.filterMap_cons_some htime] at h
      exact (List.pairwise_cons.mp h).2

/-- In the second part of a run the clock never goes back, and starts at any reading of the
first. -/
theorem of_mem {start now : Int} {before after : List ω}
    (h : Chronological start (before ++ after)) (hnow : now ∈ times before) :
    Chronological now after := by
  unfold Chronological at *
  rw [times_append, ← List.cons_append] at h
  obtain ⟨_, hafter, hbetween⟩ := List.pairwise_append.mp h
  exact List.pairwise_cons.mpr ⟨hbetween now (List.mem_cons_of_mem start hnow), hafter⟩

end Chronological

/-! ## Counting times -/

/-- How many times lie in the span of a length from a start on.  The end of the span is not
part of it. -/
def countWithin (start length : Int) (ts : List Int) : Nat :=
  ts.countP fun t => start ≤ t ∧ t < start + length

/-- How many times are not before a start. -/
def countSince (start : Int) (ts : List Int) : Nat :=
  ts.countP fun t => start ≤ t

variable {start length : Int} {ts us : List Int}

theorem countWithin_append :
    countWithin start length (ts ++ us) =
      countWithin start length ts + countWithin start length us :=
  List.countP_append

theorem countSince_append :
    countSince start (ts ++ us) = countSince start ts + countSince start us :=
  List.countP_append

theorem countSince_singleton (start t : Int) :
    countSince start [t] = if start ≤ t then 1 else 0 := by
  simp [countSince, List.countP_singleton]

/-- A time in the span counts. -/
theorem countWithin_singleton_of_mem {t : Int} (hstart : start ≤ t) (hend : t < start + length) :
    countWithin start length [t] = 1 := by
  simp [countWithin, hstart, hend]

/-- A time from the end of the span on does not count. -/
theorem countWithin_singleton_of_le {t : Int} (hend : start + length ≤ t) :
    countWithin start length [t] = 0 := by
  simp [countWithin, Int.not_lt.mpr hend]

/-- What lies in a span is not before its start. -/
theorem countWithin_le_countSince : countWithin start length ts ≤ countSince start ts := by
  refine List.countP_mono_left fun t _ hwithin => ?_
  simp only [decide_eq_true_eq] at hwithin ⊢
  exact hwithin.1

/-- Where all times are before a start, none counts from the start on. -/
theorem countSince_eq_zero (h : ∀ t ∈ ts, t < start) : countSince start ts = 0 := by
  rw [countSince, List.countP_eq_zero]
  intro t ht
  simpa using h t ht

/-! ## Spans in a row -/

/-- How many spans of a length begin up to a time, when the first begins at an origin and
each where the one before ends; none before the origin. -/
def spansBegun (length origin t : Int) : Nat :=
  ((t - origin) / length + 1).toNat

variable {origin t u : Int}

/-- From the origin on one span at least has begun. -/
theorem spansBegun_pos (hlength : 0 < length) (h : origin ≤ t) :
    1 ≤ spansBegun length origin t := by
  have hquotient : 0 ≤ (t - origin) / length := Int.ediv_nonneg (by omega) (by omega)
  unfold spansBegun
  omega

/-- As time goes on spans begin. -/
theorem spansBegun_mono (hlength : 0 < length) (h : t ≤ u) :
    spansBegun length origin t ≤ spansBegun length origin u := by
  have hquotient : (t - origin) / length ≤ (u - origin) / length :=
    Int.ediv_le_ediv hlength (by omega)
  unfold spansBegun
  omega

/-- The length of a span later one more span has begun. -/
theorem spansBegun_succ_le (hlength : 0 < length) (horigin : origin ≤ u) (h : t + length ≤ u) :
    spansBegun length origin t + 1 ≤ spansBegun length origin u := by
  have hnext : (t - origin) / length + 1 ≤ (u - origin) / length := by
    calc (t - origin) / length + 1
        = (t - origin + 1 * length) / length :=
          (Int.add_mul_ediv_right _ _ (by omega)).symm
      _ ≤ (u - origin) / length := Int.ediv_le_ediv hlength (by omega)
  have hquotient : 0 ≤ (u - origin) / length := Int.ediv_nonneg (by omega) (by omega)
  unfold spansBegun
  omega

/-- Before the end of a number of spans in a row no more than these have begun. -/
theorem spansBegun_le (hlength : 0 < length) {k : Nat} (h : t < origin + k * length) :
    spansBegun length origin t ≤ k := by
  have hquotient : (t - origin) / length < k := Int.ediv_lt_of_lt_mul hlength (by omega)
  unfold spansBegun
  omega

end Turnstile
