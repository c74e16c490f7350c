/-!
# Binary floating point

The binary64 numbers as words, with every operation rounded to the nearest
number and ties to the even significand.  All of it is exact arithmetic on
natural numbers, so that a computation can be replayed inside a proof.

A finite number is a whole multiple of `2 ^ -1074`; `scaled` is that multiple,
and rounding starts from a quotient `a / d` of such units.

Main definitions:

- `Binary64.nearest`: the magnitude nearest to a quotient.
- `Binary64.add`, `sub`, `mul`, `div`: exact results, rounded once.
- `Binary64.le`, `Binary64.max`, `Binary64.min`: the order, and the two bounds
  that ignore a missing number.
-/

namespace Turnstile

/-- A binary64 number, by its sixty-four bits. -/
structure Binary64 where
  bits : UInt64
deriving DecidableEq, Repr

namespace Binary64

/-! ## Parts of a number -/

/-- The magnitude word of an infinity; every finite magnitude is below it. -/
def infinityWord : Nat := 0x7FF0000000000000

/-- The sign bit of a word. -/
def signBit : Nat := 0x8000000000000000

/-- The lowest bit of the exponent, which is the leading bit that a significand
leaves out. -/
def hiddenBit : Nat := 0x10000000000000

/-- How many units of `2 ^ -1074` there are in one. -/
def unitsInOne : Nat := 1 <<< 1074

/-- Whether the sign bit is set. -/
def negative (x : Binary64) : Bool :=
  signBit ≤ x.bits.toNat

/-- The word without its sign bit. -/
def magnitude (x : Binary64) : Nat :=
  x.bits.toNat % signBit

/-- A number from its sign and magnitude word. -/
def ofParts (negative : Bool) (word : Nat) : Binary64 :=
  ⟨UInt64.ofNat (if negative then signBit + word else word)⟩

/-- Not a number: above the infinity. -/
def isNaN (x : Binary64) : Bool :=
  infinityWord < x.magnitude

/-- One of the two infinities. -/
def isInfinite (x : Binary64) : Bool :=
  x.magnitude == infinityWord

/-- Neither infinite nor missing. -/
def isFinite (x : Binary64) : Bool :=
  x.magnitude < infinityWord

/-- One of the two zeros. -/
def isZero (x : Binary64) : Bool :=
  x.magnitude == 0

/-- The significand of a magnitude word. -/
def significand (word : Nat) : Nat :=
  if word < hiddenBit then word else hiddenBit + word % hiddenBit

/-- The power of two, in units of `2 ^ -1074`, that goes with the significand. -/
def exponent (word : Nat) : Nat :=
  word / hiddenBit - 1

/-- The magnitude of a finite number in units of `2 ^ -1074`. -/
def scaled (x : Binary64) : Nat :=
  significand x.magnitude <<< exponent x.magnitude

/-- A finite number in units of `2 ^ -1074`, with its sign. -/
def signedScaled (x : Binary64) : Int :=
  if x.negative then -(x.scaled : Int) else x.scaled

/-- The positive zero. -/
def zero : Binary64 := ⟨0⟩

/-- The number one. -/
def one : Binary64 := ⟨0x3FF0000000000000⟩

/-- The infinity of a sign. -/
def infinity (negative : Bool) : Binary64 :=
  ofParts negative infinityWord

/-- The missing number. -/
def nan : Binary64 := ⟨0x7FF8000000000000⟩

/-- The same number with the other sign. -/
def neg (x : Binary64) : Binary64 :=
  ofParts (!x.negative) x.magnitude

/-! ## Rounding -/

/-- The whole number nearest to `a / d`, a tie going to the even one. -/
def roundHalfEven (a d : Nat) : Nat :=
  let floor := a / d
  let twice := 2 * (a % d)
  if twice < d then floor
  else if d < twice then floor + 1
  else if floor % 2 = 0 then floor else floor + 1

/-- The magnitude word nearest to `a / d` units of `2 ^ -1074`.  A significand
that rounds up to `2 ^ 53` carries into the exponent by plain addition, and a
word that reaches the infinity stays there. -/
def nearest (a d : Nat) : Nat :=
  let q := (a / d).log2 - 52
  min (q * hiddenBit + roundHalfEven a (d <<< q)) infinityWord

/-- The number nearest to a natural number. -/
def ofNat (n : Nat) : Binary64 :=
  ofParts false (nearest (n * unitsInOne) 1)

/-- The number nearest to an integer. -/
def ofInt (n : Int) : Binary64 :=
  ofParts (n < 0) (nearest (n.natAbs * unitsInOne) 1)

/-! ## Arithmetic -/

/-- A sum, rounded once.  Two opposite numbers give the positive zero, and two
negative zeros the negative one. -/
def add (x y : Binary64) : Binary64 :=
  if x.isNaN || y.isNaN then nan
  else if x.isInfinite then
    if y.isInfinite && x.negative != y.negative then nan else x
  else if y.isInfinite then y
  else
    let sum := x.signedScaled + y.signedScaled
    if sum = 0 then ofParts (x.negative && y.negative) 0
    else ofParts (sum < 0) (nearest sum.natAbs 1)

/-- A difference, rounded once. -/
def sub (x y : Binary64) : Binary64 :=
  add x y.neg

/-- A product, rounded once. -/
def mul (x y : Binary64) : Binary64 :=
  let sign := x.negative != y.negative
  if x.isNaN || y.isNaN then nan
  else if x.isInfinite || y.isInfinite then
    if x.isZero || y.isZero then nan else infinity sign
  else ofParts sign (nearest (x.scaled * y.scaled) unitsInOne)

/-- A quotient, rounded once. -/
def div (x y : Binary64) : Binary64 :=
  let sign := x.negative != y.negative
  if x.isNaN || y.isNaN then nan
  else if x.isInfinite then
    if y.isInfinite then nan else infinity sign
  else if y.isInfinite then ofParts sign 0
  else if y.isZero then
    if x.isZero then nan else infinity sign
  else ofParts sign (nearest (x.scaled * unitsInOne) y.scaled)

/-! ## Order -/

/-- An integer that orders the words as their numbers are ordered, the two
zeros alike. -/
def orderKey (x : Binary64) : Int :=
  if x.negative then -(x.magnitude : Int) else x.magnitude

/-- `x` is at most `y`; a missing number compares with nothing. -/
def le (x y : Binary64) : Bool :=
  !x.isNaN && !y.isNaN && decide (x.orderKey ≤ y.orderKey)

/-- `x` is below `y`; a missing number compares with nothing. -/
def lt (x y : Binary64) : Bool :=
  !x.isNaN && !y.isNaN && decide (x.orderKey < y.orderKey)

/-- The greater of two numbers, or the one that is there.  Of the two zeros the
positive one is the greater. -/
def max (x y : Binary64) : Binary64 :=
  if x.isNaN then y
  else if y.isNaN then x
  else if x.lt y then y
  else if y.lt x then x
  else if x.negative then y
  else x

/-- The smaller of two numbers, or the one that is there.  Of the two zeros the
negative one is the smaller. -/
def min (x y : Binary64) : Binary64 :=
  if x.isNaN then y
  else if y.isNaN then x
  else if y.lt x then y
  else if x.lt y then x
  else if x.negative then x
  else y

end Binary64

end Turnstile
