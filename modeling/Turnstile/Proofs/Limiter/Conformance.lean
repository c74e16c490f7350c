import Mathlib.Algebra.Order.Ring.Rat
import Mathlib.Tactic.Linarith
import Mathlib.Tactic.Ring
import Turnstile.Limiter.Rational
import Turnstile.Proofs.Timeline

/-!
# The token bucket keeps its rate

Counted exactly, a bucket never holds more than its burst, nor less than nothing, and it
is credited for the time that the latest reading moves on, once.  So in any stretch of
calls, wherever the clock jumps, no more requests are let through than there were tokens
at its beginning, and those that the rate gave since.

Main definitions and results:

- `secondsBetween`: the seconds from one reading to another.
- `TokenBucket.Stepped`, `TokenBucket.stepped`: the ends of a call.
- `TokenBucket.Sound`, `TokenBucket.Sound.step`: the level is in range, and stays there
  through every call.
- `TokenBucket.grants`: how many requests were let through.
- `TokenBucket.grants_step_add_le`, `TokenBucket.grants_run_add_le`: requests that are let
  through are paid from the level and from the time that passes.
- `TokenBucket.grants_between_le`: the bound for every stretch of every run.
-/

namespace Turnstile

/-! ## Time in seconds -/

/-- The seconds from one reading to another. -/
def secondsBetween (earlier later : Instant) : Rat :=
  ((later - earlier : Int) : Rat) / nanosPerSecond

@[simp]
theorem secondsBetween_self (t : Instant) : secondsBetween t t = 0 := by
  simp [secondsBetween]

/-- The seconds of two stretches in a row add up. -/
theorem secondsBetween_add (s t u : Instant) :
    secondsBetween s t + secondsBetween t u = secondsBetween s u := by
  unfold secondsBetween
  push_cast
  ring

/-- As time goes on no seconds are lost. -/
theorem secondsBetween_nonneg {s t : Instant} (h : s ≤ t) : 0 ≤ secondsBetween s t := by
  have hdifference : (0 : Rat) ≤ ((t - s : Int) : Rat) := by
    exact_mod_cast Int.sub_nonneg_of_le h
  exact div_nonneg hdifference (Nat.cast_nonneg _)

namespace TokenBucket

/-! ## One call -/

variable {bucket : TokenBucket Rat} {now : Instant}

/-- A refill takes place at the latest reading so far. -/
theorem lastRefill_refill (bucket : TokenBucket Rat) (now : Instant) :
    (bucket.refill now).lastRefill = max bucket.lastRefill now := by
  unfold refill
  dsimp only
  split
  · rename_i hlater
    exact (Int.max_eq_right (Int.le_of_lt hlater)).symm
  · rename_i hearlier
    exact (Int.max_eq_left (Int.not_lt.mp hearlier)).symm

/-- A refill credits the time since the last one, up to the burst. -/
theorem tokens_refill (bucket : TokenBucket Rat) (now : Instant) :
    (bucket.refill now).tokens =
      min (bucket.tokens +
        bucket.rate * secondsBetween bucket.lastRefill (bucket.refill now).lastRefill)
        bucket.burst := by
  have hnanos : (bucket.lastRefill.elapsed now : Int) =
      max bucket.lastRefill now - bucket.lastRefill := by
    unfold Instant.elapsed
    omega
  have hseconds : ((bucket.lastRefill.elapsed now : Nat) : Rat) / nanosPerSecond =
      secondsBetween bucket.lastRefill (bucket.refill now).lastRefill := by
    rw [lastRefill_refill, secondsBetween, ← hnanos, Int.cast_natCast]
  rw [← hseconds, mul_comm]
  rfl

/-- The ways in which a call can end: its answer and the bucket after it. -/
inductive Stepped (bucket : TokenBucket Rat) : Op → Answer Rat → TokenBucket Rat → Prop
  /-- There is a token, and it is taken. -/
  | granted {now : Instant} (htoken : 1 ≤ (bucket.refill now).tokens) :
      Stepped bucket (.tryAcquire now) (.allowed true) (bucket.refill now).deduct
  /-- There is no whole token. -/
  | refused {now : Instant} (htoken : (bucket.refill now).tokens < 1) :
      Stepped bucket (.tryAcquire now) (.allowed false) (bucket.refill now)
  /-- The level is told. -/
  | told {now : Instant} :
      Stepped bucket (.available now) (.tokens (bucket.refill now).tokens) (bucket.refill now)

/-- Every call has one of these ends. -/
theorem stepped (bucket : TokenBucket Rat) (op : Op) :
    bucket.Stepped op (bucket.step op).1 (bucket.step op).2 := by
  cases op with
  | tryAcquire now =>
      simp only [step, tryAcquire]
      split
      · rename_i htoken
        exact .granted (of_decide_eq_true htoken)
      · rename_i htoken
        exact .refused (lt_of_not_ge fun hge => htoken (decide_eq_true hge))
  | available now => exact .told

/-! ## The level -/

/-- The rate is not negative, and the level is between nothing and the burst. -/
structure Sound (bucket : TokenBucket Rat) : Prop where
  rate_nonneg : 0 ≤ bucket.rate
  tokens_nonneg : 0 ≤ bucket.tokens
  tokens_le_burst : bucket.tokens ≤ bucket.burst

/-- A new bucket is full. -/
theorem sound_new (rate burst : Rat) (start : Instant) : (new rate burst start).Sound where
  rate_nonneg := le_max_right rate 0
  tokens_nonneg := le_max_right burst 0
  tokens_le_burst := le_refl _

/-- A refill keeps the level in range. -/
theorem Sound.refill (h : bucket.Sound) (now : Instant) : (bucket.refill now).Sound := by
  have hcredit : 0 ≤ bucket.rate *
      secondsBetween bucket.lastRefill (bucket.refill now).lastRefill := by
    rw [lastRefill_refill]
    exact mul_nonneg h.rate_nonneg (secondsBetween_nonneg (Int.le_max_left _ _))
  have hburst : 0 ≤ bucket.burst := le_trans h.tokens_nonneg h.tokens_le_burst
  refine ⟨h.rate_nonneg, ?_, ?_⟩
  · rw [tokens_refill]
    exact le_min (add_nonneg h.tokens_nonneg hcredit) hburst
  · rw [tokens_refill]
    exact min_le_right _ _

/-- Every call keeps the level in range. -/
theorem Sound.step (h : bucket.Sound) (op : Op) : (bucket.step op).2.Sound := by
  have hends := bucket.stepped op
  generalize (bucket.step op).1 = answer at hends
  generalize (bucket.step op).2 = after at hends ⊢
  cases hends with
  | @granted now htoken =>
      have hfilled := h.refill now
      refine ⟨hfilled.rate_nonneg, sub_nonneg.mpr htoken, ?_⟩
      exact le_trans (sub_le_self _ zero_le_one) hfilled.tokens_le_burst
  | @refused now => exact h.refill now
  | @told now => exact h.refill now

/-! ## Runs -/

/-- Every call reads the clock. -/
instance : Timed Op where
  time?
    | .tryAcquire now | .available now => some now

/-- The latest reading of a run that starts at some time. -/
def latest (start : Instant) (ops : List Op) : Instant :=
  (times ops).foldl max start

theorem run_cons (bucket : TokenBucket Rat) (op : Op) (ops : List Op) :
    bucket.run (op :: ops) =
      ((bucket.step op).1 :: ((bucket.step op).2.run ops).1, ((bucket.step op).2.run ops).2) :=
  rfl

/-- The first calls of a run get the same answers without the rest. -/
theorem take_run (bucket : TokenBucket Rat) (ops : List Op) (n : Nat) :
    (bucket.run ops).1.take n = (bucket.run (ops.take n)).1 := by
  induction ops generalizing bucket n with
  | nil => rw [List.take_nil, run, List.take_nil]
  | cons op ops ih =>
      cases n with
      | zero => rfl
      | succ n => rw [run_cons, List.take_succ_cons, List.take_succ_cons, ih, run_cons]

/-- The later calls of a run get the answers that they get in the state after the first. -/
theorem drop_run (bucket : TokenBucket Rat) (ops : List Op) (n : Nat) :
    (bucket.run ops).1.drop n = ((bucket.run (ops.take n)).2.run (ops.drop n)).1 ∧
      (bucket.run ops).2 = ((bucket.run (ops.take n)).2.run (ops.drop n)).2 := by
  induction ops generalizing bucket n with
  | nil => simp [run]
  | cons op ops ih =>
      cases n with
      | zero => exact ⟨rfl, rfl⟩
      | succ n => exact ih (bucket.step op).2 n

/-- Calls change neither rate nor burst, and the last refill is at the latest reading. -/
theorem step_frame (bucket : TokenBucket Rat) (op : Op) :
    (bucket.step op).2.rate = bucket.rate ∧ (bucket.step op).2.burst = bucket.burst ∧
      (bucket.step op).2.lastRefill = latest bucket.lastRefill [op] := by
  have hends := bucket.stepped op
  generalize (bucket.step op).1 = answer at hends
  generalize (bucket.step op).2 = after at hends ⊢
  cases hends with
  | @granted now => exact ⟨rfl, rfl, lastRefill_refill bucket now⟩
  | @refused now => exact ⟨rfl, rfl, lastRefill_refill bucket now⟩
  | @told now => exact ⟨rfl, rfl, lastRefill_refill bucket now⟩

/-- The latest reading goes on from what it was before the first call. -/
theorem latest_cons (start : Instant) (op : Op) (ops : List Op) :
    latest start (op :: ops) = latest (latest start [op]) ops := by
  cases op <;> rfl

/-- Runs change neither rate nor burst, and the last refill is at the latest reading. -/
theorem run_frame (bucket : TokenBucket Rat) (ops : List Op) :
    (bucket.run ops).2.rate = bucket.rate ∧ (bucket.run ops).2.burst = bucket.burst ∧
      (bucket.run ops).2.lastRefill = latest bucket.lastRefill ops := by
  induction ops generalizing bucket with
  | nil => exact ⟨rfl, rfl, rfl⟩
  | cons op ops ih =>
      obtain ⟨hrate, hburst, hlast⟩ := bucket.step_frame op
      obtain ⟨hrates, hbursts, hlatest⟩ := ih (bucket.step op).2
      rw [run_cons]
      refine ⟨hrates.trans hrate, hbursts.trans hburst, ?_⟩
      rw [latest_cons, ← hlast]
      exact hlatest

/-- Runs keep the level in range. -/
theorem Sound.run (h : bucket.Sound) (ops : List Op) : (bucket.run ops).2.Sound := by
  induction ops generalizing bucket with
  | nil => exact h
  | cons op ops ih =>
      rw [run_cons]
      exact ih (h.step op)

/-! ## Requests that are let through -/

/-- Whether an answer lets a request through. -/
def Answer.isGrant : Answer Rat → Bool
  | .allowed yes => yes
  | .tokens _ => false

/-- How many requests were let through. -/
def grants (answers : List (Answer Rat)) : Nat :=
  answers.countP Answer.isGrant

theorem grants_cons (answer : Answer Rat) (answers : List (Answer Rat)) :
    grants (answer :: answers) = grants [answer] + grants answers := by
  rw [grants, ← List.singleton_append, List.countP_append]
  rfl

/-- A request that is let through is paid from the level before it and from the time that
the call moves the latest reading on. -/
theorem grants_step_add_le (bucket : TokenBucket Rat) (op : Op) :
    grants [(bucket.step op).1] + (bucket.step op).2.tokens ≤
      bucket.tokens +
        bucket.rate * secondsBetween bucket.lastRefill (bucket.step op).2.lastRefill := by
  have hcredit (now : Instant) : (bucket.refill now).tokens ≤ bucket.tokens +
      bucket.rate * secondsBetween bucket.lastRefill (bucket.refill now).lastRefill := by
    rw [tokens_refill]
    exact min_le_left _ _
  have hends := bucket.stepped op
  generalize (bucket.step op).1 = answer at hends ⊢
  generalize (bucket.step op).2 = after at hends ⊢
  cases hends with
  | @granted now htoken =>
      have hpaid : ((1 : Nat) : Rat) + ((bucket.refill now).tokens - 1) =
          (bucket.refill now).tokens := by
        push_cast
        ring
      exact le_trans (le_of_eq hpaid) (hcredit now)
  | @refused now => exact le_trans (le_of_eq (zero_add _)) (hcredit now)
  | @told now => exact le_trans (le_of_eq (zero_add _)) (hcredit now)

/-- The requests of a run that are let through are paid from the level before it and from the
time of its calls, as each goes on from the latest reading of the ones before. -/
theorem grants_run_add_le (bucket : TokenBucket Rat) (ops : List Op) :
    grants (bucket.run ops).1 + (bucket.run ops).2.tokens ≤
      bucket.tokens +
        bucket.rate * secondsBetween bucket.lastRefill (bucket.run ops).2.lastRefill := by
  induction ops generalizing bucket with
  | nil => simp [run, grants]
  | cons op ops ih =>
      have hfirst := bucket.grants_step_add_le op
      have hrest := ih (bucket.step op).2
      rw [(bucket.step_frame op).1] at hrest
      rw [run_cons, grants_cons]
      have hseconds := secondsBetween_add bucket.lastRefill (bucket.step op).2.lastRefill
        ((bucket.step op).2.run ops).2.lastRefill
      dsimp only
      rw [← hseconds, mul_add]
      push_cast
      linarith only [hfirst, hrest]

/-! ## The law -/

/-- Let a bucket with a rate and a burst be asked any number of times, by a clock that may
jump.  After every call its level is between nothing and the burst, and its last refill is
at the latest reading.  In every stretch of the run no more requests are let through than
there were tokens before it, and those that the rate gives for the time that the latest
reading moves on; so never more than the burst and those. -/
theorem grants_between_le {rate burst : Rat} (hrate : 0 ≤ rate) (hburst : 0 ≤ burst)
    (start : Instant) (ops : List Op) :
    let answers := ((new rate burst start).run ops).1
    let after (n : Nat) : TokenBucket Rat := ((new rate burst start).run (ops.take n)).2
    (∀ n, 0 ≤ (after n).tokens ∧ (after n).tokens ≤ burst ∧
      (after n).lastRefill = latest start (ops.take n)) ∧
    ∀ m n, m ≤ n →
      (grants ((answers.take n).drop m) : Rat) ≤
          (after m).tokens +
            rate * secondsBetween (after m).lastRefill (after n).lastRefill ∧
        (grants ((answers.take n).drop m) : Rat) ≤
          burst +
            rate * secondsBetween (latest start (ops.take m)) (latest start (ops.take n)) := by
  intro answers after
  have hsound (n : Nat) : (after n).Sound := (sound_new rate burst start).run _
  have hframe (n : Nat) : (after n).rate = rate ∧ (after n).burst = burst ∧
      (after n).lastRefill = latest start (ops.take n) := by
    obtain ⟨hrates, hbursts, hlatest⟩ := (new rate burst start).run_frame (ops.take n)
    exact ⟨hrates.trans (max_eq_left hrate), hbursts.trans (max_eq_left hburst), hlatest⟩
  have hlevel (n : Nat) : (after n).tokens ≤ burst :=
    le_trans (hsound n).tokens_le_burst (le_of_eq (hframe n).2.1)
  refine ⟨fun n => ⟨(hsound n).tokens_nonneg, hlevel n, (hframe n).2.2⟩, ?_⟩
  intro m n hmn
  -- The stretch is a run of its own from the state before it.
  obtain ⟨hanswers, hafter⟩ := (new rate burst start).drop_run (ops.take n) m
  rw [List.take_take, Nat.min_eq_left hmn] at hanswers hafter
  have hstretch := (after m).grants_run_add_le ((ops.take n).drop m)
  rw [← hanswers, ← hafter, ← take_run, (hframe m).1] at hstretch
  have hpaid : (grants ((answers.take n).drop m) : Rat) ≤ (after m).tokens +
      rate * secondsBetween (after m).lastRefill (after n).lastRefill :=
    le_trans (le_add_of_nonneg_right (hsound n).tokens_nonneg) hstretch
  refine ⟨hpaid, ?_⟩
  rw [← (hframe m).2.2, ← (hframe n).2.2]
  exact le_trans hpaid (add_le_add_left (hlevel m) _)

/-- A clock that is set back and goes on again is credited once: when the first two requests
have emptied the bucket, the second that passes gives one token, however often it is seen. -/
theorem grants_between_le_set_back :
    let second : Instant := nanosPerSecond
    let ops : List Op := [.tryAcquire 0, .tryAcquire 0, .tryAcquire second, .tryAcquire 0,
      .tryAcquire second, .available 0, .tryAcquire second]
    let answers := ((new 1 2 0).run ops).1
    let after (n : Nat) : TokenBucket Rat := ((new 1 2 0).run (ops.take n)).2
    (0 : Rat) ≤ 1 ∧ (0 : Rat) ≤ 2 ∧ (after 2).tokens = 0 ∧
      grants ((answers.take 7).drop 2) = 1 ∧
      (grants ((answers.take 7).drop 2) : Rat) ≤
        (after 2).tokens + 1 * secondsBetween (after 2).lastRefill (after 7).lastRefill := by
  intro second ops answers after
  have hrate : (0 : Rat) ≤ 1 := by decide
  have hburst : (0 : Rat) ≤ 2 := by decide
  refine ⟨hrate, hburst, by decide +kernel, by decide +kernel, ?_⟩
  exact ((grants_between_le hrate hburst 0 ops).2 2 7 (by decide)).1

end TokenBucket

end Turnstile
