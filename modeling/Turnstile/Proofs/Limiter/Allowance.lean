import Mathlib.Algebra.Order.Field.Basic
import Mathlib.Algebra.Order.Group.MinMax
import Mathlib.Data.List.Chain
import Mathlib.Data.List.Induction
import Turnstile.Proofs.Limiter.Conformance

/-!
# Conforming requests are let through

A bucket that is full with one request has its burst for that request and for all that come
behind it, and what the rate gives meanwhile.  As long as every request was let through, its
level is the least of what is left of these allowances, one for each request so far.  So a
request is refused exactly when one of the allowances does not reach for it, and requests that
no allowance is too small for are all let through.

Main definitions and results:

- `TokenBucket.requests`: requests at some times, as calls.
- `TokenBucket.level`, `TokenBucket.refill_run_requests`: the least that is left of the
  allowances, which is the level while every request is let through.
- `TokenBucket.Exceeds`, `TokenBucket.level_lt_zero_iff`: when an allowance does not reach.
- `TokenBucket.refused_iff_exceeds`: the first request that is refused.
- `TokenBucket.refuses_only_excess`: only requests that exceed an allowance are refused.
-/

namespace Turnstile
namespace TokenBucket

variable {bucket : TokenBucket Rat} {rate burst : Rat} {start now : Instant}
  {ts : List Instant}

/-! ## Requests -/

/-- Requests at some times, one after the other. -/
def requests (ts : List Instant) : List Op :=
  ts.map .tryAcquire

/-- The answers when every request is let through. -/
def allGranted (ts : List Instant) : List (Answer Rat) :=
  ts.map fun _ => .allowed true

@[simp]
theorem times_requests (ts : List Instant) : times (requests ts) = ts := by
  induction ts with
  | nil => rfl
  | cons t ts ih => exact congrArg (t :: ·) ih

/-- A request is let through when there is a whole token after the refill. -/
theorem step_tryAcquire (bucket : TokenBucket Rat) (now : Instant) :
    bucket.step (.tryAcquire now) =
      if 1 ≤ (bucket.refill now).tokens then (.allowed true, (bucket.refill now).deduct)
      else (.allowed false, bucket.refill now) := by
  by_cases htoken : 1 ≤ (bucket.refill now).tokens
  · have hyes : TokenArithmetic.atMost TokenArithmetic.one (bucket.refill now).tokens = true :=
      decide_eq_true htoken
    simp [step, tryAcquire, htoken, hyes]
  · have hno : TokenArithmetic.atMost TokenArithmetic.one (bucket.refill now).tokens = false :=
      decide_eq_false htoken
    simp [step, tryAcquire, htoken, hno]

/-- A run of two parts is the second after the first. -/
theorem run_append (bucket : TokenBucket Rat) (ops more : List Op) :
    bucket.run (ops ++ more) =
      ((bucket.run ops).1 ++ ((bucket.run ops).2.run more).1,
        ((bucket.run ops).2.run more).2) := by
  induction ops generalizing bucket with
  | nil => rfl
  | cons op ops ih => rw [List.cons_append, run_cons, ih, run_cons, List.cons_append]

/-- Every call is answered. -/
theorem length_run (bucket : TokenBucket Rat) (ops : List Op) :
    (bucket.run ops).1.length = ops.length := by
  induction ops generalizing bucket with
  | nil => rfl
  | cons op ops ih => rw [run_cons, List.length_cons, ih, List.length_cons]

/-- A request of a run is answered in the state that the requests before it leave. -/
theorem getElem?_run_requests (bucket : TokenBucket Rat) (ts : List Instant) (j : Fin ts.length) :
    (bucket.run (requests ts)).1[j]? =
      some ((bucket.run (requests (ts.take j))).2.step (.tryAcquire ts[j])).1 := by
  have hsplit : requests ts =
      requests (ts.take j) ++ .tryAcquire ts[j] :: requests (ts.drop (j + 1)) := by
    rw [requests, requests, requests, ← List.map_cons, ← List.map_append]
    congr 1
    rw [Fin.getElem_fin, List.getElem_cons_drop, List.take_append_drop]
  have hlength : (bucket.run (requests (ts.take j))).1.length = j := by
    rw [length_run, requests, List.length_map, List.length_take]
    omega
  rw [hsplit, run_append, run_cons]
  simp [hlength]

/-! ## The level -/

/-- The least that is left now of the allowances of a bucket: of its burst, and of what it had
for each request and for those behind it, when it was full with the request.  The requests came
at `ts`. -/
def level (rate burst : Rat) (now : Instant) : List Instant → Rat
  | [] => burst
  | t :: later =>
      min (burst + rate * secondsBetween t now - (later.length + 1)) (level rate burst now later)

/-- A request takes one from each allowance, the rate goes on until the next request, and no
more than the burst stays. -/
theorem level_append_singleton (rate burst : Rat) (now : Instant) (ts : List Instant)
    (t : Instant) :
    level rate burst now (ts ++ [t]) =
      min (level rate burst t ts - 1 + rate * secondsBetween t now) burst := by
  induction ts with
  | nil =>
      simp [level, sub_add_eq_add_sub]
  | cons s ts ih =>
      have hallowance : burst + rate * secondsBetween s now - ((ts ++ [t]).length + 1) =
          burst + rate * secondsBetween s t - (ts.length + 1) - 1 +
            rate * secondsBetween t now := by
        rw [← secondsBetween_add s t now, List.length_append, List.length_singleton]
        push_cast
        ring
      rw [List.cons_append, level, level, ih, hallowance, ← min_assoc, min_add_add_right,
        min_sub_sub_right]

/-- A request for which the allowance of an earlier one does not reach: more requests have come
from the one to the other than the burst and what the rate gives meanwhile. -/
def Exceeds (rate burst : Rat) (ts : List Instant) (i j : Fin ts.length) : Prop :=
  burst + rate * secondsBetween ts[i] ts[j] < (j - i : Nat) + 1

/-- The level is below nothing when one of the allowances is. -/
theorem level_lt_zero_iff (hburst : 0 ≤ burst) (ts : List Instant) :
    level rate burst now ts < 0 ↔
      ∃ i t, ts[i]? = some t ∧ burst + rate * secondsBetween t now < (ts.length - i : Nat) := by
  induction ts with
  | nil => simpa [level] using hburst
  | cons t later ih =>
      rw [level, min_lt_iff, ih]
      refine (or_congr ?_ (exists_congr fun i => ?_)).trans Nat.or_exists_add_one
      · simp [sub_neg]
      · simp

/-- When the last request is let through as well, its token is taken from what the earlier ones
left. -/
theorem run_concat_of_granted {bucket : TokenBucket Rat} {t : Instant}
    (hgranted : (bucket.run (requests (ts ++ [t]))).1 = allGranted (ts ++ [t])) :
    (bucket.run (requests ts)).1 = allGranted ts ∧
      (bucket.run (requests (ts ++ [t]))).2 =
        ((bucket.run (requests ts)).2.refill t).deduct := by
  have hsplit : requests (ts ++ [t]) = requests ts ++ [.tryAcquire t] := List.map_append
  have hlast : allGranted (ts ++ [t]) = allGranted ts ++ [.allowed true] := List.map_append
  rw [hsplit, run_append] at hgranted ⊢
  rw [hlast] at hgranted
  obtain ⟨hearlier, hanswer⟩ := List.append_inj' hgranted rfl
  refine ⟨hearlier, ?_⟩
  rw [run_cons, step_tryAcquire] at hanswer ⊢
  split at hanswer
  · rename_i htoken
    rw [if_pos htoken]
    rfl
  · simp at hanswer

/-- The rate goes on from what a request left, up to the burst. -/
theorem tokens_refill_deduct {bucket : TokenBucket Rat} {t : Instant}
    (hlast : bucket.lastRefill ≤ t) (hwait : t ≤ now) :
    ((bucket.refill t).deduct.refill now).tokens =
      min ((bucket.refill t).tokens - 1 + bucket.rate * secondsBetween t now) bucket.burst := by
  have hdeducted : (bucket.refill t).deduct.lastRefill = t :=
    (lastRefill_refill bucket t).trans (Int.max_eq_right hlast)
  have hlater : ((bucket.refill t).deduct.refill now).lastRefill = now := by
    rw [lastRefill_refill, hdeducted]
    exact Int.max_eq_right hwait
  rw [tokens_refill, hlater, hdeducted]
  rfl

/-- A new bucket is full, and a refill leaves it full. -/
theorem tokens_refill_new (hrate : 0 ≤ rate) (hburst : 0 ≤ burst) (hwait : start ≤ now) :
    ((new rate burst start).refill now).tokens = burst := by
  have hrates : (new rate burst start).rate = rate := max_eq_left hrate
  have hfull : (new rate burst start).tokens = burst := max_eq_left hburst
  have hbound : (new rate burst start).burst = burst := max_eq_left hburst
  have hlast : ((new rate burst start).refill now).lastRefill = now :=
    (lastRefill_refill _ now).trans (Int.max_eq_right hwait)
  have hcredit : 0 ≤ rate * secondsBetween start now :=
    mul_nonneg hrate (secondsBetween_nonneg hwait)
  rw [tokens_refill, hlast, hrates, hfull, hbound]
  exact min_eq_right (le_add_of_nonneg_right hcredit)

/-- As long as every request was let through, the last refill is in the past, and the level for
the next request is the least of what is left of the allowances. -/
theorem refill_run_requests (hrate : 0 ≤ rate) (hburst : 0 ≤ burst)
    (hchron : (start :: (ts ++ [now])).Pairwise (· ≤ ·))
    (hgranted : ((new rate burst start).run (requests ts)).1 = allGranted ts) :
    ((new rate burst start).run (requests ts)).2.lastRefill ≤ now ∧
      (((new rate burst start).run (requests ts)).2.refill now).tokens =
        level rate burst now ts := by
  induction ts using List.reverseRecOn generalizing now with
  | nil =>
      have hwait : start ≤ now := List.rel_of_pairwise_cons hchron List.mem_cons_self
      exact ⟨hwait, tokens_refill_new hrate hburst hwait⟩
  | append_singleton ts t ih =>
      rw [← List.cons_append, List.pairwise_append] at hchron
      have hwait : t ≤ now := hchron.2.2 t (by simp) now List.mem_cons_self
      obtain ⟨hearlier, hafter⟩ := run_concat_of_granted hgranted
      obtain ⟨hlast, htokens⟩ := ih hchron.1 hearlier
      obtain ⟨hrates, hbursts, -⟩ := (new rate burst start).run_frame (requests ts)
      have hrates := hrates.trans (max_eq_left hrate)
      have hbursts := hbursts.trans (max_eq_left hburst)
      rw [hafter]
      constructor
      · exact (lastRefill_refill _ t).trans_le (Int.max_le.mpr ⟨Int.le_trans hlast hwait, hwait⟩)
      · rw [tokens_refill_deduct hlast hwait, htokens, level_append_singleton, hrates, hbursts]

/-! ## The first request that is refused -/

/-- A request is refused when there is no whole token after the refill, and only then. -/
theorem step_tryAcquire_eq_refused_iff (bucket : TokenBucket Rat) (now : Instant) :
    (bucket.step (.tryAcquire now)).1 = .allowed false ↔ (bucket.refill now).tokens < 1 := by
  rw [step_tryAcquire]
  split <;> simp_all

/-- When the earlier requests of a run were let through, they are a run of requests that were
all let through. -/
theorem run_take_of_granted {bucket : TokenBucket Rat} {j : Nat} (hj : j ≤ ts.length)
    (hgranted : ∀ i < j, (bucket.run (requests ts)).1[i]? = some (.allowed true)) :
    (bucket.run (requests (ts.take j))).1 = allGranted (ts.take j) := by
  have hfirst : requests (ts.take j) = (requests ts).take j := List.map_take
  rw [hfirst, ← take_run]
  apply List.ext_getElem?
  intro i
  by_cases hi : i < j
  · rw [List.getElem?_take_of_lt hi, hgranted i hi]
    simp [allGranted, hi, Nat.lt_of_lt_of_le hi hj]
  · have hbeyond : j ≤ i := Nat.not_lt.mp hi
    rw [List.getElem?_take_eq_none hbeyond]
    simp [allGranted, hbeyond]

/-- A request whose predecessors were all let through is refused exactly when it exceeds an
allowance. -/
theorem refused_iff_exceeds (hrate : 0 ≤ rate) (hburst : 0 ≤ burst)
    (hchron : Chronological start (requests ts)) {j : Fin ts.length}
    (hgranted : ∀ i < (j : Nat),
      ((new rate burst start).run (requests ts)).1[i]? = some (.allowed true)) :
    ((new rate burst start).run (requests ts)).1[j]? = some (.allowed false) ↔
      ∃ i ≤ j, Exceeds rate burst ts i j := by
  have hearlier := run_take_of_granted (Nat.le_of_lt j.isLt) hgranted
  have hupto : ts.take j ++ [ts[j]] = ts.take (j + 1) := List.take_append_getElem j.isLt
  have hbefore : (start :: (ts.take j ++ [ts[j]])).Pairwise (· ≤ ·) := by
    rw [hupto]
    unfold Chronological at hchron
    rw [times_requests] at hchron
    exact hchron.sublist ((List.take_sublist _ ts).cons_cons start)
  obtain ⟨-, htokens⟩ := refill_run_requests hrate hburst hbefore hearlier
  have hlevel : level rate burst ts[j] (ts.take (j + 1)) =
      min (level rate burst ts[j] (ts.take j) - 1) burst := by
    rw [← hupto, level_append_singleton, secondsBetween_self, mul_zero, add_zero]
  have hlength : (ts.take (j + 1)).length = j + 1 := by
    rw [List.length_take]
    omega
  rw [getElem?_run_requests, Option.some_inj, step_tryAcquire_eq_refused_iff, htokens]
  calc level rate burst ts[j] (ts.take j) < 1
      ↔ level rate burst ts[j] (ts.take (j + 1)) < 0 := by
        rw [hlevel, min_lt_iff, sub_neg]
        exact (or_iff_left (not_lt.mpr hburst)).symm
    _ ↔ ∃ i t, (ts.take (j + 1))[i]? = some t ∧
          burst + rate * secondsBetween t ts[j] < (j + 1 - i : Nat) := by
        rw [level_lt_zero_iff hburst, hlength]
    _ ↔ ∃ i ≤ j, Exceeds rate burst ts i j := by
        constructor
        · rintro ⟨i, t, hi, hless⟩
          rw [List.getElem?_take, Option.ite_none_right_eq_some] at hi
          obtain ⟨hle, hi⟩ := hi
          obtain ⟨hbound, rfl⟩ := List.getElem?_eq_some_iff.mp hi
          refine ⟨⟨i, hbound⟩, Nat.le_of_lt_succ hle, ?_⟩
          rw [Nat.succ_sub (Nat.le_of_lt_succ hle), Nat.cast_succ] at hless
          exact hless
        · rintro ⟨i, hle, hless⟩
          refine ⟨i, ts[i], ?_, ?_⟩
          · rw [List.getElem?_take_of_lt (Nat.lt_succ_of_le hle)]
            exact List.getElem?_eq_getElem i.isLt
          · rw [Nat.succ_sub hle, Nat.cast_succ]
            exact hless

/-! ## The law -/

/-- A request is let through or refused. -/
theorem granted_or_refused (bucket : TokenBucket Rat) (ts : List Instant) (j : Fin ts.length) :
    (bucket.run (requests ts)).1[j]? = some (.allowed true) ∨
      (bucket.run (requests ts)).1[j]? = some (.allowed false) := by
  rw [getElem?_run_requests, step_tryAcquire]
  split
  · exact Or.inl rfl
  · exact Or.inr rfl

/-- Requests that no allowance is too small for are all let through. -/
theorem run_requests_of_conforming (hrate : 0 ≤ rate) (hburst : 0 ≤ burst)
    (hchron : Chronological start (requests ts))
    (hconforming : ∀ i j : Fin ts.length, i ≤ j → ¬Exceeds rate burst ts i j) :
    ((new rate burst start).run (requests ts)).1 = allGranted ts := by
  have hgranted (j : Nat) (hj : j < ts.length) :
      ((new rate burst start).run (requests ts)).1[j]? = some (.allowed true) := by
    -- The first request that is refused would exceed an allowance.
    induction j using Nat.strongRecOn with
    | ind j ih =>
        rcases granted_or_refused (new rate burst start) ts ⟨j, hj⟩ with hyes | hno
        · exact hyes
        · obtain ⟨i, hle, hexceeds⟩ := (refused_iff_exceeds hrate hburst hchron
            fun i hi => ih i hi (Nat.lt_trans hi hj)).mp hno
          exact absurd hexceeds (hconforming i ⟨j, hj⟩ hle)
  have hall := run_take_of_granted (Nat.le_refl ts.length) hgranted
  rwa [List.take_length] at hall

/-- Where each request comes no sooner after the one before than the rate gives a token, the
rate gives a token for each. -/
theorem count_le_of_spaced (hrate : 0 < rate)
    (hspaced : ts.IsChain fun t u => 1 / rate ≤ secondsBetween t u) {i j : Fin ts.length}
    (hle : i ≤ j) : ((j - i : Nat) : Rat) ≤ rate * secondsBetween ts[i] ts[j] := by
  obtain ⟨i, hi⟩ := i
  obtain ⟨j, hj⟩ := j
  change i ≤ j at hle
  induction j, hle using Nat.le_induction with
  | base => simp
  | succ j hle ih =>
      have hbefore := ih (Nat.lt_of_succ_lt hj)
      have hstep : 1 ≤ rate * secondsBetween ts[j] ts[j + 1] := by
        rw [← div_le_iff₀' hrate]
        exact List.isChain_iff_getElem.mp hspaced j hj
      have hcount : (j + 1 - i : Nat) = j - i + 1 := Nat.succ_sub hle
      simp only [Fin.getElem_fin] at hbefore ⊢
      rw [hcount, Nat.cast_succ, ← secondsBetween_add ts[i] ts[j], mul_add]
      exact add_le_add hbefore hstep

/-- Let a bucket with a rate and a burst of one token at least be asked any number of times, by
a clock that does not go back.  A request whose predecessors were all let through is refused
exactly when, counted from one of the requests so far, more have come than the burst and what
the rate gave since.  So where this is never the case all requests are let through, and so they
are where each comes no sooner after the one before than the rate gives a token. -/
theorem refuses_only_excess (hrate : 0 < rate) (hburst : 1 ≤ burst)
    (hchron : Chronological start (requests ts)) :
    let answers := ((new rate burst start).run (requests ts)).1
    (∀ j : Fin ts.length, (∀ i < (j : Nat), answers[i]? = some (.allowed true)) →
      (answers[j]? = some (.allowed false) ↔
        ∃ i ≤ j, burst + rate * secondsBetween ts[i] ts[j] < (j - i : Nat) + 1)) ∧
    ((∀ i j : Fin ts.length, i ≤ j →
        ((j - i : Nat) + 1 : Rat) ≤ burst + rate * secondsBetween ts[i] ts[j]) →
      answers = ts.map fun _ => .allowed true) ∧
    ((ts.IsChain fun t u => 1 / rate ≤ secondsBetween t u) →
      answers = ts.map fun _ => .allowed true) := by
  intro answers
  have hrates : 0 ≤ rate := le_of_lt hrate
  have hbursts : 0 ≤ burst := le_trans zero_le_one hburst
  refine ⟨?_, ?_, ?_⟩
  · intro j hgranted
    exact refused_iff_exceeds hrates hbursts hchron hgranted
  · intro hconforming
    exact run_requests_of_conforming hrates hbursts hchron
      fun i j hle => not_lt.mpr (hconforming i j hle)
  · intro hspaced
    refine run_requests_of_conforming hrates hbursts hchron fun i j hle => not_lt.mpr ?_
    rw [add_comm]
    exact add_le_add hburst (count_le_of_spaced hrate hspaced hle)

/-- Two requests empty a bucket with a burst of two.  Half a second later the rate of three has
given a token and a half for the third.  With the half that is left the fourth comes too soon, a
tenth of a second behind: it is one too many counted from the first. -/
theorem refuses_only_excess_fourth :
    let ts : List Instant := [0, 0, 500000000, 600000000]
    let answers := ((new (3 : Rat) 2 0).run (requests ts)).1
    Chronological 0 (requests ts) ∧
      (2 : Rat) + 3 * secondsBetween 0 600000000 < 4 ∧
      answers = [.allowed true, .allowed true, .allowed true, .allowed false] ∧
      answers[3]? = some (.allowed false) := by
  intro ts answers
  have hrate : (0 : Rat) < 3 := by decide
  have hburst : (1 : Rat) ≤ 2 := by decide
  have hchron : Chronological 0 (requests ts) := by
    unfold Chronological
    decide
  have hexceeds : (2 : Rat) + 3 * secondsBetween 0 600000000 < 4 := by decide +kernel
  have hanswers : answers = [.allowed true, .allowed true, .allowed true, .allowed false] := by
    decide +kernel
  have hgranted : ∀ i < 3, answers[i]? = some (.allowed true) := by
    rw [hanswers]
    decide
  obtain ⟨hrefused, -, -⟩ := refuses_only_excess hrate hburst hchron
  have hlast := (hrefused ⟨3, by decide⟩ hgranted).mpr
    ⟨⟨0, by decide⟩, by decide, by decide +kernel⟩
  exact ⟨hchron, hexceeds, hanswers, hlast⟩

end TokenBucket
end Turnstile
