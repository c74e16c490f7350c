import Mathlib.Algebra.Order.Field.Basic
import Mathlib.Algebra.Order.Ring.Rat
import Mathlib.Order.Monotone.Basic
import Turnstile.Binary64.Basic

/-!
# The values of binary64 numbers

A finite binary64 number is a rational number, and finite numbers are compared as the rational
numbers are.  The comparison itself looks at the words; it is right since the units that a word
stands for grow with the word, also where the exponent does.

Main definitions and results:

- `Binary64.units`, `Binary64.strictMono_units`: the units of a magnitude word grow with it.
- `Binary64.toRat`: the value of a finite number.
- `Binary64.lt_iff_toRat_lt`, `Binary64.le_iff_toRat_le`: the order of values.
-/

namespace Turnstile.Binary64

/-! ## Units -/

/-- The units of `2 ^ -1074` that a magnitude word stands for. -/
def units (word : Nat) : Nat :=
  significand word <<< exponent word

/-- Below the hidden bit a word is its own number of units. -/
theorem units_of_lt {word : Nat} (h : word < hiddenBit) : units word = word := by
  have hexponent : exponent word = 0 := by
    rw [exponent, Nat.div_eq_of_lt h]
  rw [units, hexponent, significand, if_pos h, Nat.shiftLeft_zero]

/-- From the hidden bit on the exponent says how often the significand is doubled. -/
theorem units_of_le {word : Nat} (h : hiddenBit ≤ word) :
    units word = (hiddenBit + word % hiddenBit) * 2 ^ (word / hiddenBit - 1) := by
  rw [units, significand, if_neg (Nat.not_lt.mpr h), exponent, Nat.shiftLeft_eq]

/-- The next word stands for more units. -/
theorem units_lt_units_succ (word : Nat) : units word < units (word + 1) := by
  rcases Nat.lt_or_ge word hiddenBit with hlow | hhigh
  · rw [units_of_lt hlow]
    rcases Nat.lt_or_ge (word + 1) hiddenBit with hnext | hnext
    · rw [units_of_lt hnext]
      exact Nat.lt_succ_self word
    · have hword : word + 1 = hiddenBit := Nat.le_antisymm hlow hnext
      rw [hword]
      exact Nat.lt_of_lt_of_eq hlow (by decide)
  · have hnext : hiddenBit ≤ word + 1 := Nat.le_succ_of_le hhigh
    rw [units_of_le hhigh, units_of_le hnext]
    have hdoublings : 1 ≤ word / hiddenBit := (Nat.one_le_div_iff (by decide)).mpr hhigh
    by_cases hroom : word % hiddenBit + 1 < hiddenBit
    · -- The fraction goes up by one, the exponent stays.
      have hdiv : (word + 1) / hiddenBit = word / hiddenBit := by
        unfold hiddenBit at *
        omega
      have hmod : (word + 1) % hiddenBit = word % hiddenBit + 1 := by
        unfold hiddenBit at *
        omega
      rw [hdiv, hmod]
      exact Nat.mul_lt_mul_of_pos_right (by omega) (Nat.two_pow_pos _)
    · -- The fraction is full, and the exponent goes up by one.
      have hdiv : (word + 1) / hiddenBit - 1 = word / hiddenBit - 1 + 1 := by
        unfold hiddenBit at *
        omega
      have hmod : (word + 1) % hiddenBit = 0 := by
        unfold hiddenBit at *
        omega
      have hfraction : word % hiddenBit < hiddenBit := Nat.mod_lt _ (by decide)
      rw [hdiv, hmod, Nat.pow_succ', ← Nat.mul_assoc, Nat.add_zero]
      exact Nat.mul_lt_mul_of_pos_right (by omega) (Nat.two_pow_pos _)

theorem strictMono_units : StrictMono units :=
  strictMono_nat_of_lt_succ units_lt_units_succ

theorem units_zero : units 0 = 0 := by
  decide

/-! ## Values -/

/-- The rational number that a finite number is. -/
def toRat (x : Binary64) : Rat :=
  x.signedScaled / unitsInOne

variable {x y : Binary64}

/-- Numbers are ordered as their keys are. -/
theorem signedScaled_lt_iff : x.signedScaled < y.signedScaled ↔ x.orderKey < y.orderKey := by
  have hx : x.scaled = units x.magnitude := rfl
  have hy : y.scaled = units y.magnitude := rfl
  have hlt := strictMono_units.lt_iff_lt (a := x.magnitude) (b := y.magnitude)
  have hgt := strictMono_units.lt_iff_lt (a := y.magnitude) (b := x.magnitude)
  have hzeroX := strictMono_units.lt_iff_lt (a := 0) (b := x.magnitude)
  have hzeroY := strictMono_units.lt_iff_lt (a := 0) (b := y.magnitude)
  rw [units_zero] at hzeroX hzeroY
  unfold signedScaled orderKey
  rw [hx, hy]
  split <;> split <;> omega

theorem unitsInOne_pos : 0 < unitsInOne := by
  decide +kernel

theorem toRat_lt_iff : x.toRat < y.toRat ↔ x.orderKey < y.orderKey := by
  have hunits : (0 : Rat) < unitsInOne := by exact_mod_cast unitsInOne_pos
  rw [toRat, toRat, div_lt_div_iff_of_pos_right hunits, Int.cast_lt, signedScaled_lt_iff]

theorem isNaN_of_isFinite (h : x.isFinite = true) : x.isNaN = false := by
  unfold isFinite isNaN at *
  grind

/-- Finite numbers are compared as their values are. -/
theorem lt_iff_toRat_lt (hx : x.isFinite = true) (hy : y.isFinite = true) :
    x.lt y = true ↔ x.toRat < y.toRat := by
  rw [toRat_lt_iff, lt, isNaN_of_isFinite hx, isNaN_of_isFinite hy]
  simp

theorem le_iff_toRat_le (hx : x.isFinite = true) (hy : y.isFinite = true) :
    x.le y = true ↔ x.toRat ≤ y.toRat := by
  rw [← not_lt, toRat_lt_iff, le, isNaN_of_isFinite hx, isNaN_of_isFinite hy]
  simp

theorem toRat_zero : zero.toRat = 0 := by
  decide +kernel

theorem toRat_one : one.toRat = 1 := by
  decide +kernel

end Turnstile.Binary64
