import Turnstile.Json.Token

/-!
# JSON numbers

A number is first scanned as a literal, and its value is then computed from the
digits.  Up to the first digit that would exceed sixty-four bits the digits are
gathered in a significand.  Later digits of the whole part only count as powers
of ten, later digits of the fraction not at all.  A number that is no integer in
range is the significand, scaled by the power of ten with one rounding to
binary64 for each step.

Main definitions:

- `scanLiteral`: the grammar.
- `Literal.value`: the number, or a fault when it is out of range.
- `readNumber`: both.
-/

namespace Turnstile.Json

/-! ## Literals -/

/-- A number as it is written.  A fraction or a power that is not written has no
digits. -/
structure Literal where
  negative : Bool
  whole : List UInt8
  fraction : List UInt8
  powerNegative : Bool
  power : List UInt8
deriving DecidableEq, Repr

/-- Scans the whole part: a lone zero, or digits that do not start with one.
`ended` is the cause of a text that ends too early. -/
def scanWhole (ended : Cause) : Reader (List UInt8)
  | [] => .error (.behind ended [])
  | b :: rest =>
      if b = Byte.zero then
        match rest with
        | [] => .ok ([b], [])
        | d :: rest =>
            if Byte.isDigit d then .error (.next .invalidNumber (d :: rest))
            else .ok ([b], d :: rest)
      else if Byte.isDigit b then
        .ok (b :: rest.takeWhile Byte.isDigit, rest.dropWhile Byte.isDigit)
      else .error (.behind .invalidNumber rest)

/-- Scans a point and at least one digit, when there is a point. -/
def scanFraction (ended : Cause) : Reader (List UInt8)
  | [] => .ok ([], [])
  | b :: rest =>
      if b = Byte.point then
        match rest.takeWhile Byte.isDigit with
        | [] => .error (.next (if rest.isEmpty then ended else .invalidNumber) rest)
        | d :: digits => .ok (d :: digits, rest.dropWhile Byte.isDigit)
      else .ok ([], b :: rest)

/-- Takes the sign in front of the digits of a power. -/
def splitPowerSign : List UInt8 → Bool × List UInt8
  | [] => (false, [])
  | b :: rest =>
      if b = Byte.plus then (false, rest)
      else if b = Byte.minus then (true, rest)
      else (false, b :: rest)

/-- Scans a power of ten, sign and digits, when there is one. -/
def scanPower (ended : Cause) : Reader (Bool × List UInt8)
  | [] => .ok ((false, []), [])
  | b :: rest =>
      if Byte.isPowerMark b then
        let (negative, rest) := splitPowerSign rest
        match rest with
        | [] => .error (.behind ended [])
        | d :: rest =>
            if Byte.isDigit d then
              .ok ((negative, d :: rest.takeWhile Byte.isDigit), rest.dropWhile Byte.isDigit)
            else .error (.behind .invalidNumber rest)
      else .ok ((false, []), b :: rest)

/-- Scans a literal behind its sign. -/
def scanLiteral (ended : Cause) (negative : Bool) : Reader Literal := fun bytes => do
  let (whole, rest) ← scanWhole ended bytes
  let (fraction, rest) ← scanFraction ended rest
  let ((powerNegative, power), rest) ← scanPower ended rest
  return (⟨negative, whole, fraction, powerNegative, power⟩, rest)

/-! ## Values -/

/-- The greatest significand. -/
def significandLimit : Nat := 0xFFFFFFFFFFFFFFFF

/-- The greatest power of ten that can be written. -/
def powerLimit : Nat := 0x7FFFFFFF

/-- Gathers digits while they fit, and gives the digits that no longer did. -/
def gather (significand : Nat) : List UInt8 → Nat × List UInt8
  | [] => (significand, [])
  | d :: digits =>
      let next := significand * 10 + Byte.digitValue d
      if significandLimit < next then (significand, d :: digits) else gather next digits

/-- The digits of a power that follow the one with which it exceeds its limit. -/
def digitsBeyondPower (power : Nat) : List UInt8 → Option (List UInt8)
  | [] => none
  | d :: digits =>
      let next := power * 10 + Byte.digitValue d
      if powerLimit < next then some digits else digitsBeyondPower next digits

/-- The value of some digits. -/
def digitsValue (digits : List UInt8) : Nat :=
  digits.foldl (fun n d => n * 10 + Byte.digitValue d) 0

/-- Divides by ten to the power `308` until the power is in reach.  A significand
is below `10 ^ 20`, so that the second division leaves zero. -/
def shrink : (fuel : Nat) → (x : Binary64) → (power : Nat) → Binary64
  | 0, x, _ => x
  | fuel + 1, x, power =>
      if power ≤ 308 then x.div (.ofNat (Nat.pow 10 power))
      else if x.isZero then x
      else shrink fuel (x.div (.ofNat (Nat.pow 10 308))) (power - 308)

/-- A significand times a power of ten, each step rounded; `none` when the result
is out of range. -/
def scale? (significand : Nat) (power : Int) : Option Binary64 :=
  let x := Binary64.ofNat significand
  if power < 0 then some (shrink 3 x power.natAbs)
  else if power ≤ 308 then
    let y := x.mul (.ofNat (Nat.pow 10 power.toNat))
    if y.isInfinite then none else some y
  else if x.isZero then some x
  else none

/-- A number with the sign of its literal. -/
def Literal.signed (literal : Literal) (x : Binary64) : Number :=
  .real (if literal.negative then x.neg else x)

/-- The number of a literal with no fraction and no power whose digits all fit. -/
def Literal.integer (literal : Literal) (significand : Nat) : Number :=
  if !literal.negative then .int significand
  else if significand = 0 || 0x8000000000000000 < significand then
    literal.signed (.ofNat significand)
  else .int (-significand)

/-- The value of a literal, in front of the bytes `rest`. -/
def Literal.value (literal : Literal) (rest : List UInt8) : Except Fault Number :=
  let (significand, dropped) := gather 0 literal.whole
  if literal.fraction.isEmpty && literal.power.isEmpty && dropped.isEmpty then
    .ok (literal.integer significand)
  else
    let (significand, ignored) := gather significand literal.fraction
    let base : Int := dropped.length - (literal.fraction.length - ignored.length)
    match digitsBeyondPower 0 literal.power with
    | some beyond =>
        if significand ≠ 0 && !literal.powerNegative then
          .error (.behind .numberOutOfRange (beyond ++ rest))
        else .ok (literal.signed .zero)
    | none =>
        let power := (digitsValue literal.power : Int)
        match scale? significand (if literal.powerNegative then base - power else base + power) with
        | some x => .ok (literal.signed x)
        | none => .error (.behind .numberOutOfRange rest)

/-- Reads a number behind its sign. -/
def readNumber (negative : Bool) : Reader Number := fun bytes => do
  let (literal, rest) ← scanLiteral .endInValue negative bytes
  let number ← literal.value rest
  return (number, rest)

end Turnstile.Json
