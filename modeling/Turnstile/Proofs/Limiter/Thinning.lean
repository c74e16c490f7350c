import Mathlib.Algebra.Order.Group.MinMax
import Turnstile.Proofs.Limiter.Conformance

/-!
# Refused requests cost nothing

Every call refills the bucket and moves its clock on, also one that is refused and one that
only asks for the level.  It makes no difference: a refill now and another one later come to
the one refill later, since what the burst cuts off now would be cut off then as well.  So as
long as the clock does not go back, such calls can be left out of a run, and the others get the
answers that they got.

Main definitions and results:

- `TokenBucket.refill_refill`: two refills in a row come to one.
- `TokenBucket.step_of_not_grant`: a call that takes no token is a refill and no more.
- `TokenBucket.exchanges`, `TokenBucket.Thinned`: the calls of a run with their answers, and
  those that stay when some are left out that took no token.
- `TokenBucket.run_of_thinned`: buckets that a refill makes the same.
- `TokenBucket.answers_of_thinned`: calls that took no token can be left out of a run.
-/

namespace Turnstile
namespace TokenBucket

variable {bucket other : TokenBucket Rat} {now later : Instant}

/-! ## Refills -/

attribute [ext] TokenBucket

/-- A refill now and another one later come to the one refill later. -/
theorem refill_refill (hrate : 0 ≤ bucket.rate) (hle : now ≤ later) :
    (bucket.refill now).refill later = bucket.refill later := by
  have hlast : ((bucket.refill now).refill later).lastRefill =
      (bucket.refill later).lastRefill := by
    rw [lastRefill_refill, lastRefill_refill, lastRefill_refill, Int.max_assoc,
      Int.max_eq_right hle]
  have htokens : ((bucket.refill now).refill later).tokens = (bucket.refill later).tokens := by
    have hforward : (bucket.refill now).lastRefill ≤ (bucket.refill later).lastRefill := by
      rw [lastRefill_refill, lastRefill_refill]
      exact max_le_max_left bucket.lastRefill hle
    let first := bucket.rate * secondsBetween bucket.lastRefill (bucket.refill now).lastRefill
    let second := bucket.rate *
      secondsBetween (bucket.refill now).lastRefill (bucket.refill later).lastRefill
    have hsecond : 0 ≤ second := mul_nonneg hrate (secondsBetween_nonneg hforward)
    have hboth : first + second = bucket.rate *
        secondsBetween bucket.lastRefill (bucket.refill later).lastRefill := by
      rw [← mul_add, secondsBetween_add]
    calc ((bucket.refill now).refill later).tokens
        = min (min (bucket.tokens + first) bucket.burst + second) bucket.burst := by
          rw [tokens_refill, hlast, tokens_refill]
          rfl
      _ = min (bucket.tokens + first + second) (min (bucket.burst + second) bucket.burst) := by
          rw [← min_add_add_right, min_assoc]
      _ = min (bucket.tokens + (first + second)) bucket.burst := by
          rw [min_eq_right (le_add_of_nonneg_right hsecond), add_assoc]
      _ = (bucket.refill later).tokens := by rw [hboth, tokens_refill]
  exact TokenBucket.ext rfl rfl htokens hlast

/-! ## One call -/

/-- When a call reads the clock. -/
def Op.time : Op → Instant
  | .tryAcquire now | .available now => now

/-- A call that takes no token is a refill and no more. -/
theorem step_of_not_grant {op : Op} (hfree : (bucket.step op).1.isGrant = false) :
    (bucket.step op).2 = bucket.refill op.time := by
  have hends := bucket.stepped op
  generalize (bucket.step op).1 = answer at hends hfree
  generalize (bucket.step op).2 = after at hends
  cases hends with
  | granted => contradiction
  | refused => rfl
  | told => rfl

/-- A call looks at the bucket after its refill only. -/
theorem step_congr {op : Op} (hsame : bucket.refill op.time = other.refill op.time) :
    bucket.step op = other.step op := by
  cases op with
  | tryAcquire now =>
      change bucket.refill now = other.refill now at hsame
      simp only [step, tryAcquire, hsame]
  | available now =>
      change bucket.refill now = other.refill now at hsame
      simp only [step, available, hsame]

/-! ## Runs -/

theorem times_cons (op : Op) (ops : List Op) : times (op :: ops) = op.time :: times ops := by
  cases op <;> rfl

/-- The calls of a run, each with its answer. -/
def exchanges (bucket : TokenBucket Rat) (ops : List Op) : List (Op × Answer Rat) :=
  ops.zip (bucket.run ops).1

theorem exchanges_cons (bucket : TokenBucket Rat) (op : Op) (ops : List Op) :
    bucket.exchanges (op :: ops) =
      (op, (bucket.step op).1) :: (bucket.step op).2.exchanges ops :=
  rfl

/-- What stays of calls and their answers when some are left out that took no token. -/
inductive Thinned : List (Op × Answer Rat) → List (Op × Answer Rat) → Prop
  | nil : Thinned [] []
  | keep (exchange : Op × Answer Rat) {exchanges fewer : List (Op × Answer Rat)}
      (h : Thinned exchanges fewer) : Thinned (exchange :: exchanges) (exchange :: fewer)
  | leave {exchange : Op × Answer Rat} (hfree : exchange.2.isGrant = false)
      {exchanges fewer : List (Op × Answer Rat)} (h : Thinned exchanges fewer) :
      Thinned (exchange :: exchanges) fewer

/-- A run of two buckets that a refill at any of its readings makes the same, the second
without some calls that took no token: the others get the answers that they got. -/
theorem run_of_thinned (hrate : 0 ≤ bucket.rate) {ops : List Op}
    (hchron : (times ops).Pairwise (· ≤ ·))
    (hsame : ∀ now ∈ times ops, bucket.refill now = other.refill now)
    {fewer : List (Op × Answer Rat)} (hthinned : Thinned (bucket.exchanges ops) fewer) :
    (other.run (fewer.map Prod.fst)).1 = fewer.map Prod.snd := by
  induction ops generalizing bucket other fewer with
  | nil =>
      cases hthinned
      rfl
  | cons op ops ih =>
      rw [times_cons] at hchron hsame
      obtain ⟨hwait, hrest⟩ := List.pairwise_cons.mp hchron
      have hrates : 0 ≤ (bucket.step op).2.rate := by
        rw [(bucket.step_frame op).1]
        exact hrate
      rw [exchanges_cons] at hthinned
      cases hthinned with
      | keep _ hthinned =>
          -- After a call on both of them the two buckets are one.
          have hstep := step_congr (hsame op.time List.mem_cons_self)
          rw [List.map_cons, run_cons, ← hstep, ih hrates hrest (fun _ _ => rfl) hthinned]
          rfl
      | leave hfree hthinned =>
          refine ih hrates hrest (fun now hnow => ?_) hthinned
          rw [step_of_not_grant hfree, refill_refill hrate (hwait now hnow)]
          exact hsame now (List.mem_cons_of_mem _ hnow)

/-! ## The law -/

/-- Let the clock not go back from call to call.  Whichever calls are left out of a run that
were refused or asked for the level only: all others get the answers that they got. -/
theorem answers_of_thinned (rate burst : Rat) (start : Instant) {ops : List Op}
    (hchron : (times ops).Pairwise (· ≤ ·)) {fewer : List (Op × Answer Rat)}
    (hthinned : Thinned ((new rate burst start).exchanges ops) fewer) :
    ((new rate burst start).run (fewer.map Prod.fst)).1 = fewer.map Prod.snd :=
  run_of_thinned (le_max_right rate 0) hchron (fun _ _ => rfl) hthinned

/-- A bucket with a burst of one is asked again before it has another token, and looked at when
it could hold more than one.  Without three refused requests and that look the second token is
handed out as before, and what was seen of the bucket is the same. -/
theorem answers_of_thinned_retries :
    let tenths (n : Int) : Instant := n * 100000000
    let bucket : TokenBucket Rat := new 2 1 0
    let ops : List Op := [.tryAcquire 0, .tryAcquire (tenths 3), .available (tenths 3),
      .tryAcquire (tenths 4), .available (tenths 9), .tryAcquire (tenths 9),
      .tryAcquire (tenths 10), .available (tenths 10)]
    let fewer : List (Op × Answer Rat) := [(.tryAcquire 0, .allowed true),
      (.available (tenths 3), .tokens (3 / 5)), (.tryAcquire (tenths 9), .allowed true),
      (.available (tenths 10), .tokens (1 / 5))]
    (bucket.run ops).1 = [.allowed true, .allowed false, .tokens (3 / 5), .allowed false,
        .tokens 1, .allowed true, .allowed false, .tokens (1 / 5)] ∧
      (bucket.run (fewer.map Prod.fst)).1 = fewer.map Prod.snd := by
  intro tenths bucket ops fewer
  have hchron : (times ops).Pairwise (· ≤ ·) := by decide
  have hanswers : (bucket.run ops).1 = [.allowed true, .allowed false, .tokens (3 / 5),
      .allowed false, .tokens 1, .allowed true, .allowed false, .tokens (1 / 5)] := by
    decide +kernel
  have hthinned : Thinned (bucket.exchanges ops) fewer := by
    rw [exchanges, hanswers]
    exact .keep _ <| .leave rfl <| .keep _ <| .leave rfl <| .leave rfl <| .keep _ <|
      .leave rfl <| .keep _ .nil
  exact ⟨hanswers, answers_of_thinned 2 1 0 hchron hthinned⟩

end TokenBucket
end Turnstile
