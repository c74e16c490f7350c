import Mathlib.Data.List.TakeWhile
import Turnstile.Text.Numeral

/-!
# What numerals write

An integer numeral is digits, with a plus in front or without, and where the type has negative
numbers it may have a minus in front.  Exactly those are read, as far as their value fits the
type.

Main definitions and results:

- `Numeral.Writes`: the integer that a text writes.
- `Numeral.Range.Holds`: the integers of a type.
- `Numeral.read_eq_ok_iff`: what is read.
-/

namespace Turnstile.Text.Numeral

/-! ## Numerals -/

/-- Digits and nothing else, and not nothing. -/
structure IsDigits (digits : List Char) : Prop where
  ne_nil : digits ≠ []
  all : ∀ c ∈ digits, isDigit c = true

/-- The integer that a text writes, where a minus may be part of it or not. -/
inductive Writes (signed : Bool) : List Char → Int → Prop
  | plain {digits : List Char} (h : IsDigits digits) : Writes signed digits (ofDigits digits)
  | plus {digits : List Char} (h : IsDigits digits) :
      Writes signed ('+' :: digits) (ofDigits digits)
  | minus {digits : List Char} (hsigned : signed = true) (h : IsDigits digits) :
      Writes signed ('-' :: digits) (-ofDigits digits)

/-- The integers of a type. -/
def Range.Holds (range : Range) (n : Int) : Prop :=
  range.least ≤ n ∧ n ≤ range.greatest

variable {signed : Bool} {digits text : List Char} {n : Int} {range : Range}

theorem writes_plus_iff :
    Writes signed ('+' :: digits) n ↔ IsDigits digits ∧ n = ofDigits digits := by
  constructor
  · intro h
    cases h with
    | plain h => exact absurd (h.all '+' List.mem_cons_self) (by decide)
    | plus h => exact ⟨h, rfl⟩
  · rintro ⟨h, rfl⟩
    exact .plus h

theorem writes_minus_iff :
    Writes signed ('-' :: digits) n ↔
      signed = true ∧ IsDigits digits ∧ n = -ofDigits digits := by
  constructor
  · intro h
    cases h with
    | plain h => exact absurd (h.all '-' List.mem_cons_self) (by decide)
    | minus hsigned h => exact ⟨hsigned, h, rfl⟩
  · rintro ⟨hsigned, h, rfl⟩
    exact .minus hsigned h

/-- Without a sign there are digits only. -/
theorem writes_unsigned_iff (hplus : ∀ digits, text ≠ '+' :: digits)
    (hminus : ∀ digits, text ≠ '-' :: digits) :
    Writes signed text n ↔ IsDigits text ∧ n = ofDigits text := by
  constructor
  · intro h
    cases h with
    | plain h => exact ⟨h, rfl⟩
    | plus => exact absurd rfl (hplus _)
    | minus => exact absurd rfl (hminus _)
  · rintro ⟨h, rfl⟩
    exact .plain h

/-- A text writes one integer at most. -/
theorem Writes.unique {m : Int} (h : Writes signed text n) (hother : Writes signed text m) :
    n = m := by
  cases h with
  | plain h =>
      cases hother with
      | plain => rfl
      | plus => exact absurd (h.all '+' List.mem_cons_self) (by decide)
      | minus => exact absurd (h.all '-' List.mem_cons_self) (by decide)
  | plus => exact (writes_plus_iff.mp hother).2.symm
  | minus => exact (writes_minus_iff.mp hother).2.2.symm

/-! ## Reading -/

/-- What stands under a sign is read when it is digits, and their value fits. -/
theorem readDigits_eq_ok_iff (hzero : range.Holds 0) (hne : digits ≠ []) {negative : Bool} :
    readDigits range negative digits = .ok n ↔
      (IsDigits digits ∧ n = if negative then -(ofDigits digits : Int) else ofDigits digits) ∧
        range.Holds n := by
  obtain ⟨hleast, hgreatest⟩ := hzero
  unfold readDigits Range.Holds
  by_cases hall : ∀ c ∈ digits, isDigit c = true
  · have hwritten : IsDigits digits := ⟨hne, hall⟩
    have htake : digits.takeWhile isDigit = digits := List.takeWhile_eq_self_iff.mpr hall
    have hdigits : digits.all isDigit = true := List.all_eq_true.mpr hall
    rw [htake, hdigits]
    cases negative <;> grind
  · have hstray : ¬IsDigits digits := fun h => hall h.all
    have hdigits : digits.all isDigit = false :=
      Bool.eq_false_iff.mpr fun h => hall (List.all_eq_true.mp h)
    rw [hdigits]
    grind

/-- A sign alone writes nothing. -/
theorem not_isDigits_nil : ¬IsDigits [] := fun h => h.ne_nil rfl

/-- A numeral is read exactly when it writes an integer of the type. -/
theorem read_eq_ok_iff (hzero : range.Holds 0) :
    read range text = .ok n ↔ Writes (range.least < 0) text n ∧ range.Holds n := by
  unfold read
  split
  · rw [writes_unsigned_iff (by simp) (by simp)]
    simp [not_isDigits_nil]
  · simp [writes_plus_iff, not_isDigits_nil]
  · simp [writes_minus_iff, not_isDigits_nil]
  · rename_i digits hdigits
    have hne : digits ≠ [] := fun h => hdigits (by rw [h])
    rw [writes_plus_iff, readDigits_eq_ok_iff hzero hne, if_neg (by decide)]
  · rename_i digits hdigits
    have hne : digits ≠ [] := fun h => hdigits (by rw [h])
    rw [writes_minus_iff]
    split
    · rename_i hsigned
      rw [readDigits_eq_ok_iff hzero hne, if_pos rfl]
      simp [hsigned]
    · rename_i hunsigned
      simp [hunsigned]
  · rename_i hne _ _ hplus hminus
    rw [writes_unsigned_iff hplus hminus, readDigits_eq_ok_iff hzero hne, if_neg (by decide)]

end Turnstile.Text.Numeral
