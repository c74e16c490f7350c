import Turnstile.Binary64.Basic
import Turnstile.Time

/-!
# The token bucket

A bucket fills at a rate up to its burst and gives one token to each request that
it lets through.  The bucket is written for any arithmetic, so that the one that
runs counts in binary64 numbers and its laws can be read over the rationals.

Main definitions:

- `TokenArithmetic`: the numbers that tokens are counted in.
- `TokenBucket.tryAcquire`, `TokenBucket.available`: the operations.
- `TokenBucket.Op`, `step`, `run`: the operations as data.
-/

namespace Turnstile

/-! ## Arithmetic -/

/-- Numbers that tokens can be counted in. -/
class TokenArithmetic (α : Type) where
  zero : α
  one : α
  add : α → α → α
  sub : α → α → α
  mul : α → α → α
  lesser : α → α → α
  greater : α → α → α
  atMost : α → α → Bool
  /-- A number of nanoseconds, in seconds. -/
  seconds : Nat → α

/-- Whole seconds and the fraction are rounded apart before they are added. -/
def Binary64.ofNanos (nanos : Nat) : Binary64 :=
  .add (.ofNat (nanos / nanosPerSecond))
    (.div (.ofNat (nanos % nanosPerSecond)) (.ofNat nanosPerSecond))

instance : TokenArithmetic Binary64 where
  zero := .zero
  one := .one
  add := .add
  sub := .sub
  mul := .mul
  lesser := Binary64.min
  greater := Binary64.max
  atMost := Binary64.le
  seconds := .ofNanos

/-! ## Buckets -/

/-- A bucket of tokens. -/
structure TokenBucket (α : Type) where
  /-- Tokens a second. -/
  rate : α
  /-- The most tokens that the bucket holds. -/
  burst : α
  tokens : α
  lastRefill : Instant
deriving DecidableEq

namespace TokenBucket

open TokenArithmetic

variable {α : Type} [TokenArithmetic α]

/-- A full bucket; a negative rate or burst counts as zero. -/
def new (rate burst : α) (now : Instant) : TokenBucket α where
  rate := greater rate zero
  burst := greater burst zero
  tokens := greater burst zero
  lastRefill := now

/-- Credits the time since the last refill.  A clock that reads earlier than that
counts as no time. -/
def refill (bucket : TokenBucket α) (now : Instant) : TokenBucket α :=
  let elapsed := seconds (bucket.lastRefill.elapsed now)
  { bucket with
    tokens := lesser (add bucket.tokens (mul elapsed bucket.rate)) bucket.burst
    lastRefill := if bucket.lastRefill < now then now else bucket.lastRefill }

/-- Takes a token away. -/
def deduct (bucket : TokenBucket α) : TokenBucket α :=
  { bucket with tokens := sub bucket.tokens one }

/-- Asks for a token, after a refill. -/
def tryAcquire (bucket : TokenBucket α) (now : Instant) : Bool × TokenBucket α :=
  let filled := bucket.refill now
  if atMost one filled.tokens then (true, filled.deduct) else (false, filled)

/-- The tokens that are there, after a refill. -/
def available (bucket : TokenBucket α) (now : Instant) : α × TokenBucket α :=
  let filled := bucket.refill now
  (filled.tokens, filled)

/-- An operation on a bucket. -/
inductive Op
  | tryAcquire (now : Instant)
  | available (now : Instant)
deriving DecidableEq, Repr

/-- What an operation answers. -/
inductive Answer (α : Type)
  | allowed (yes : Bool)
  | tokens (amount : α)
deriving DecidableEq, Repr

/-- Carries out an operation. -/
def step (bucket : TokenBucket α) : Op → Answer α × TokenBucket α
  | .tryAcquire now =>
      let (yes, bucket) := bucket.tryAcquire now
      (.allowed yes, bucket)
  | .available now =>
      let (amount, bucket) := bucket.available now
      (.tokens amount, bucket)

/-- Carries out operations one after the other. -/
def run (bucket : TokenBucket α) : List Op → List (Answer α) × TokenBucket α
  | [] => ([], bucket)
  | op :: ops =>
      let (answer, bucket) := bucket.step op
      let (answers, bucket) := bucket.run ops
      (answer :: answers, bucket)

end TokenBucket

end Turnstile
