import Turnstile.Text.Ascii

/-!
# Integer numerals

Decimal numerals as an operator writes them in a setting: an optional sign and
at least one digit.  A range belongs to the numeral's type, so a numeral can be
well formed and still not fit.

Main definitions:

- `Numeral.read`: a numeral of the type with a given least and greatest value.
- `Numeral.Flaw`: what can be wrong with one, and `Flaw.message`.
-/

namespace Turnstile.Text.Numeral

/-- Why a text is no numeral of some integer type. -/
inductive Flaw
  /-- There is nothing at all. -/
  | empty
  /-- Something other than a digit stands where a digit must. -/
  | invalidDigit
  /-- The value is above the type's greatest. -/
  | tooLarge
  /-- The value is below the type's least. -/
  | tooSmall
deriving DecidableEq, Repr

/-- The sentence for a flaw. -/
def Flaw.message : Flaw → String
  | .empty => "cannot parse integer from empty string"
  | .invalidDigit => "invalid digit found in string"
  | .tooLarge => "number too large to fit in target type"
  | .tooSmall => "number too small to fit in target type"

/-- The integers that a type holds. -/
structure Range where
  least : Int
  greatest : Int
deriving DecidableEq, Repr

/-- The unsigned integers of a number of bits. -/
def Range.unsigned (bits : Nat) : Range where
  least := 0
  greatest := (Nat.pow 2 bits : Nat) - 1

/-- The signed integers of sixty-four bits. -/
def Range.signed64 : Range where
  least := -0x8000000000000000
  greatest := 0x7FFFFFFFFFFFFFFF

/-- Digits under a sign.  They are taken from the left and the value only grows, so
an exceeded range in front of a bad digit is what gets reported. -/
def readDigits (range : Range) (negative : Bool) (digits : List Char) : Except Flaw Int :=
  let value := (ofDigits (digits.takeWhile isDigit) : Int)
  if negative && -value < range.least then .error .tooSmall
  else if !negative && range.greatest < value then .error .tooLarge
  else if digits.all isDigit then .ok (if negative then -value else value)
  else .error .invalidDigit

/-- An integer of the given range: an optional plus, or a minus where the range
has negative numbers, and then digits alone. -/
def read (range : Range) (text : List Char) : Except Flaw Int :=
  match text with
  | [] => .error .empty
  | ['+'] | ['-'] => .error .invalidDigit
  | '+' :: digits => readDigits range false digits
  | '-' :: digits =>
      if range.least < 0 then readDigits range true digits else .error .invalidDigit
  | digits => readDigits range false digits

end Turnstile.Text.Numeral
