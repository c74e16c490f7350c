import Turnstile.Binary64.Basic
import Turnstile.Text.Ascii

/-!
# Reading decimal numbers

The binary64 number that a decimal text names: an optional sign, digits with an
optional point, an optional power of ten, or one of the words for infinity and
for a missing number in any case.  The result is the number nearest to the
exact decimal value.

Main definitions:

- `Binary64.ofScientific`: the number nearest to `digits * 10 ^ exponent`.
- `Binary64.read?`: the number that a text names.
-/

namespace Turnstile.Binary64

open Text (isDigit lowerAscii ofDigits splitSign)

/-! ## Exact decimal values -/

/-- How many decimal digits a number has; zero has none. -/
def decimalLength : (fuel n : Nat) → Nat
  | 0, _ => 0
  | fuel + 1, n => if n = 0 then 0 else decimalLength fuel (n / 10) + 1

/-- The number nearest to `digits * 10 ^ exponent`, where `width` is the number
of decimal digits of `digits`.  Values at or above `10 ^ 310` round to the
infinity and values below `10 ^ -330` to zero, so the power need not be formed. -/
def ofScientific (negative : Bool) (digits width : Nat) (exponent : Int) : Binary64 :=
  if digits = 0 then ofParts negative 0
  else if 310 < width + exponent then infinity negative
  else if width + exponent < -330 then ofParts negative 0
  else if 0 ≤ exponent then
    ofParts negative (nearest (digits * Nat.pow 10 exponent.toNat * unitsInOne) 1)
  else ofParts negative (nearest (digits * unitsInOne) (Nat.pow 10 (-exponent).toNat))

/-! ## Texts -/

/-- The size from which a power of ten takes no more digits. -/
def powerBound : Nat := 0x10000

/-- The power of ten that some digits write.  Once it has reached the bound, the
digits that follow leave it as it is. -/
def powerOfDigits (digits : List Char) : Nat :=
  digits.foldl (fun n c => if n < powerBound then n * 10 + (c.toNat - 48) else n) 0

/-- A power of ten after its mark: a sign and at least one digit. -/
def readExponent? (text : List Char) : Option Int :=
  let (negative, digits) := splitSign text
  if digits.isEmpty || !digits.all isDigit then none
  else if negative then some (-(powerOfDigits digits : Int))
  else some (powerOfDigits digits)

/-- The power of ten that ends a number; nothing at all is the power zero. -/
def readPower? : List Char → Option Int
  | [] => some 0
  | c :: rest => if c = 'e' ∨ c = 'E' then readExponent? rest else none

/-- A decimal number without its sign.  There is a digit on at least one side
of the point. -/
def readDecimal? (negative : Bool) (text : List Char) : Option Binary64 :=
  let whole := text.takeWhile isDigit
  let rest := text.dropWhile isDigit
  let (fraction, rest) :=
    match rest with
    | '.' :: rest => (rest.takeWhile isDigit, rest.dropWhile isDigit)
    | rest => ([], rest)
  let digits := (whole ++ fraction).dropWhile (· == '0')
  if whole.isEmpty && fraction.isEmpty then none
  else (readPower? rest).map fun power =>
    ofScientific negative (ofDigits digits) digits.length (power - fraction.length)

/-- The number that a text names. -/
def read? (text : List Char) : Option Binary64 :=
  let (negative, rest) := splitSign text
  let word := rest.map lowerAscii
  if word = ['i', 'n', 'f'] ∨ word = ['i', 'n', 'f', 'i', 'n', 'i', 't', 'y'] then
    some (infinity negative)
  else if word = ['n', 'a', 'n'] then
    some (if negative then nan.neg else nan)
  else readDecimal? negative rest

end Turnstile.Binary64
