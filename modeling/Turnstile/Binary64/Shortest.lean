import Turnstile.Binary64.Decimal

/-!
# Shortest decimal digits

The fewest decimal digits that read back as a given number, and the nearest of
those; between two equally near ones the even.  The search is exact: on the
grid of one, two, up to seventeen digits it tests the two neighbours of the
number against the interval of values that round to it.

Main definitions:

- `Binary64.shortest`: the digits, and the place of the decimal point.
- `Binary64.toScientificText`: digits with a point or a power of ten.
- `Binary64.toPlainText`: digits with a point, never a power of ten.
-/

namespace Turnstile.Binary64

/-! ## The search -/

/-- Compares `c * 10 ^ e` with `a / d`. -/
def compareDecimal (c : Nat) (e : Int) (a d : Nat) : Ordering :=
  if 0 ≤ e then compare (c * Nat.pow 10 e.toNat * d) a
  else compare (c * d) (a * Nat.pow 10 (-e).toNat)

/-- The decimal exponent of a positive magnitude: it is at least
`10 ^ (result - 1)` and below `10 ^ result`. -/
def decimalExponent (scaled : Nat) : Int :=
  (decimalLength 700 (scaled * Nat.pow 10 330 / unitsInOne) : Int) - 330

/-- The interval of values that round to a magnitude word, in quarters of
`2 ^ -1074`.  The lower neighbour of a power of two is half as far away. -/
def roundingInterval (word : Nat) : Nat × Nat :=
  let q := exponent word
  let scaled := significand word <<< q
  let below := if word % hiddenBit = 0 ∧ 0 < q then 1 <<< q else 2 <<< q
  (4 * scaled - below, 4 * scaled + 2 <<< q)

/-- Whether `c * 10 ^ e` rounds to the word.  The ends of the interval belong
to an even significand. -/
def roundsTo (word c : Nat) (e : Int) : Bool :=
  let (low, high) := roundingInterval word
  let unit := 4 * unitsInOne
  match compareDecimal c e low unit, compareDecimal c e high unit with
  | .lt, _ | _, .gt => false
  | .eq, _ | _, .eq => word % 2 == 0
  | .gt, .lt => true

/-- The whole part of `a / (d * 10 ^ e)`. -/
def floorDecimal (a d : Nat) (e : Int) : Nat :=
  if 0 ≤ e then a / (d * Nat.pow 10 e.toNat) else a * Nat.pow 10 (-e).toNat / d

/-- Whether the upper neighbour `c + 1` on a grid is taken rather than `c`:
when it is nearer, or just as near and even. -/
def prefersUpper (scaled c : Nat) (e : Int) : Bool :=
  match compareDecimal (2 * c + 1) e (2 * scaled) unitsInOne with
  | .lt => true
  | .gt => false
  | .eq => c % 2 == 1

/-- A neighbour of the word's number on the grid of `10 ^ e` that rounds to it. -/
def neighbour? (word : Nat) (e : Int) : Option Nat :=
  let scaled := significand word <<< exponent word
  let c := floorDecimal scaled unitsInOne e
  match roundsTo word c e, roundsTo word (c + 1) e with
  | true, true => some (if prefersUpper scaled c e then c + 1 else c)
  | true, false => some c
  | false, true => some (c + 1)
  | false, false => none

/-- Searches the grids of `width` digits and more. -/
def searchGrids (word : Nat) (top : Int) : (fuel width : Nat) → Nat × Int
  | 0, width => (floorDecimal (significand word <<< exponent word) unitsInOne (top - width),
      top - width)
  | fuel + 1, width =>
      match neighbour? word (top - width) with
      | some c => (c, top - width)
      | none => searchGrids word top fuel (width + 1)

/-- Drops the zeros that end a decimal number. -/
def stripZeros : (fuel c : Nat) → (e : Int) → Nat × Int
  | 0, c, e => (c, e)
  | fuel + 1, c, e => if c % 10 = 0 then stripZeros fuel (c / 10) (e + 1) else (c, e)

/-- The shortest digits of a positive finite magnitude word, and the power of
ten of the last of them.  Seventeen digits tell all numbers apart, so the
search ends on a grid. -/
def shortest (word : Nat) : Nat × Int :=
  let top := decimalExponent (significand word <<< exponent word)
  let (c, e) := searchGrids word top 17 1
  stripZeros 20 c e

/-! ## Layouts -/

/-- The digits as characters, and the place of the point after the first digit's
left edge: `d.ddd * 10 ^ (point - 1)`. -/
def shortestDigits (word : Nat) : List Char × Int :=
  let (c, e) := shortest word
  let digits := Nat.toDigits 10 c
  (digits, digits.length + e)

/-- Digits around a point, zeros filling the gap to it; `ending` follows a whole
number. -/
def layPlain (digits : List Char) (point : Int) (ending : List Char) : List Char :=
  if point ≤ 0 then ['0', '.'] ++ List.replicate (-point).toNat '0' ++ digits
  else if digits.length ≤ point then
    digits ++ List.replicate (point.toNat - digits.length) '0' ++ ending
  else digits.take point.toNat ++ ['.'] ++ digits.drop point.toNat

/-- One digit, the others behind a point, and a power of ten with its sign. -/
def layScientific (digits : List Char) (power : Int) : List Char :=
  let mantissa :=
    match digits with
    | first :: second :: rest => first :: '.' :: second :: rest
    | digits => digits
  mantissa ++ ['e', if power < 0 then '-' else '+'] ++ Nat.toDigits 10 power.natAbs

/-- The minus of a negative number. -/
def signText (x : Binary64) : List Char :=
  if x.negative then ['-'] else []

/-- The text of a finite number: positional from `10 ^ -5` up to `10 ^ 16`, with
at least one digit behind the point, and with a power of ten elsewhere. -/
def toScientificText (x : Binary64) : List Char :=
  if x.isZero then x.signText ++ ['0', '.', '0']
  else
    let (digits, point) := shortestDigits x.magnitude
    x.signText ++
      if -4 ≤ point ∧ point ≤ 16 then layPlain digits point ['.', '0']
      else layScientific digits (point - 1)

/-- The text of a finite number without a power of ten, and without a point
where nothing would follow it. -/
def toPlainText (x : Binary64) : List Char :=
  if x.isZero then x.signText ++ ['0']
  else
    let (digits, point) := shortestDigits x.magnitude
    x.signText ++ layPlain digits point []

end Turnstile.Binary64
