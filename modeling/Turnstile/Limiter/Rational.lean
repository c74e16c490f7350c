import Mathlib.Algebra.Order.Field.Rat
import Turnstile.Limiter

/-!
# Exact token arithmetic

The rational numbers as a token arithmetic.  A bucket that counts in them never
rounds, so its laws are laws of the algorithm and not of its number format.

Main definitions:

- `TokenArithmetic Rat`: the instance.
-/

namespace Turnstile

instance : TokenArithmetic Rat where
  zero := 0
  one := 1
  add := (· + ·)
  sub := (· - ·)
  mul := (· * ·)
  lesser := min
  greater := max
  atMost a b := decide (a ≤ b)
  seconds nanos := nanos / nanosPerSecond

end Turnstile
