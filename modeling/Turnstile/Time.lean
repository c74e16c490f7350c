/-!
# Clocks

Two clocks are read: a wall clock, which may be set back, and a monotonic one.
Both count nanoseconds, the wall clock from the Unix epoch and the monotonic one
from its own zero.  Neither reaches further than its range, so adding a duration
can fail.

Main definitions:

- `WallTime.shift?`: a wall time moved by a signed duration.
- `Instant.later?`: a monotonic time moved on by a duration.
-/

namespace Turnstile

/-- Nanoseconds in a second. -/
def nanosPerSecond : Nat := 1000000000

/-- Nanoseconds in a millisecond. -/
def nanosPerMilli : Nat := 1000000

/-- A wall time, in nanoseconds since the Unix epoch. -/
abbrev WallTime := Int

/-- A signed duration, in nanoseconds. -/
abbrev Span := Int

/-- A monotonic time, in nanoseconds since the clock's zero. -/
abbrev Instant := Int

namespace WallTime

/-- The first instant of the calendar: the year -262143 begins. -/
def earliest : WallTime := -8334601228800 * nanosPerSecond

/-- The last instant of the calendar: the year 262142 ends. -/
def latest : WallTime := 8210266876800 * nanosPerSecond - 1

/-- Whole seconds since the epoch, rounded down. -/
def seconds (t : WallTime) : Int :=
  t / nanosPerSecond

/-- A wall time moved by a span, as far as the calendar goes. -/
def shift? (t : WallTime) (span : Span) : Option WallTime :=
  let moved := t + span
  if earliest ≤ moved ∧ moved ≤ latest then some moved else none

end WallTime

namespace Instant

/-- The greatest number of whole seconds of a monotonic time. -/
def maxSeconds : Int := 0x7FFFFFFFFFFFFFFF

/-- A monotonic time moved on by a number of nanoseconds, as far as the clock goes. -/
def later? (t : Instant) (nanos : Nat) : Option Instant :=
  let moved := t + nanos
  if moved / nanosPerSecond ≤ maxSeconds then some moved else none

/-- The nanoseconds from an earlier time to a later one, none the other way round. -/
def elapsed (earlier later : Instant) : Nat :=
  (later - earlier).toNat

end Instant

/-- Why an operation could not come to an answer. -/
inductive ClockFault
  /-- A wall time would lie outside the calendar. -/
  | calendar
  /-- A monotonic time would lie beyond its clock. -/
  | monotonic
deriving DecidableEq, Repr

/-- The sentence for a fault. -/
def ClockFault.message : ClockFault → String
  | .calendar => "\x60DateTime + TimeDelta\x60 overflowed"
  | .monotonic => "overflow when adding duration to instant"

end Turnstile
