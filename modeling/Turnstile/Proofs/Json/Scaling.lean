import Turnstile.Proofs.Binary64.Tenths
import Turnstile.Proofs.Json.Reals

/-!
# Digits scaled to a number

A reader turns the digits of a number into a binary64 number and multiplies or divides it by a
power of ten, with a rounding at each step.  When neither the digits nor the power have to be
rounded there is one rounding only, and the number that was written is read back.  A whole
number is written with a zero behind its point, so it is read as a tenth of its tenfold.

Main results:

- `scale?_of_attracts`: digits and a power that are exact are rounded once.
- `readBack?_of_exact`: a number with such digits is read back.
- `readBack?_ofInt_eq_iff`: which whole numbers are read back.
-/

namespace Turnstile.Json

open Binary64

/-! ## One rounding -/

variable {m word : Nat} {e : Int} {x : Binary64}

/-- Digits that are divided by a power of ten within reach. -/
theorem scale?_of_neg (he : e < 0) (hreach : e.natAbs ≤ 308) :
    scale? m e = some ((ofNat m).div (ofNat (10 ^ e.natAbs))) := by
  rw [scale?, if_pos he, shrink, if_pos hreach]
  rfl

/-- Digits that are multiplied by a power of ten within reach. -/
theorem scale?_of_nonneg (he : 0 ≤ e) (hreach : e.natAbs ≤ 308) :
    scale? m e =
      if ((ofNat m).mul (ofNat (10 ^ e.natAbs))).isInfinite then none
      else some ((ofNat m).mul (ofNat (10 ^ e.natAbs))) := by
  have htoNat : e.toNat = e.natAbs := by omega
  rw [scale?, if_neg (Int.not_lt.mpr he), if_pos (by omega), htoNat]
  rfl

/-- Digits and a power that are exact give the number that their value is rounded to. -/
theorem scale?_of_attracts (hm : Representable m) (hpower : Representable (10 ^ e.natAbs))
    (hreach : e.natAbs ≤ 308) (hword : word < infinityWord)
    (h : Attracts word (decimalUnits m e)) : scale? m e = some (ofParts false word) := by
  obtain ⟨a, ha, hunitsA⟩ := hm
  obtain ⟨b, hb, hunitsB⟩ := hpower
  have hbpos : 0 < b := pos_of_units (Nat.pow_pos (by decide)) hunitsB
  have hone := cast_unitsInOne_pos
  rcases lt_or_ge e 0 with he | he
  · have hvalue : ((units a * unitsInOne : Nat) / (units b : Nat) : Rat) = decimalUnits m e := by
      rw [hunitsA, hunitsB, decimalUnits_of_neg he]
      push_cast
      field_simp
    rw [scale?_of_neg he hreach, ofNat_of_units ha hunitsA, ofNat_of_units hb hunitsB,
      div_ofParts ha hb hbpos]
    congr 2
    rw [nearest_eq_iff (by rw [hunitsB]; exact Nat.mul_pos (Nat.pow_pos (by decide)) unitsInOne_pos)
      hword, hvalue]
    exact h
  · have hvalue : ((units a * units b : Nat) / (unitsInOne : Nat) : Rat) = decimalUnits m e := by
      rw [hunitsA, hunitsB, decimalUnits_of_nonneg he]
      push_cast
      field_simp
    have hnearest : nearest (units a * units b) unitsInOne = word := by
      rw [nearest_eq_iff unitsInOne_pos hword, hvalue]
      exact h
    rw [scale?_of_nonneg he hreach, ofNat_of_units ha hunitsA, ofNat_of_units hb hunitsB,
      mul_ofParts ha hb, hnearest]
    simp [(class_ofParts (s := false) hword).2.1]

/-! ## Written digits -/

/-- What is written for a decimal value has that value. -/
theorem decimalUnits_writtenDecimal (c : Nat) (e : Int) :
    decimalUnits (writtenDecimal c e).1 (writtenDecimal c e).2 = decimalUnits c e := by
  unfold writtenDecimal
  split
  · rw [decimalUnits_mul_pow]
    congr 1
    omega
  · rfl

/-- What is written for a decimal value has no larger power. -/
theorem writtenDecimal_exponent (c : Nat) {e : Int} (hleast : -346 ≤ e) (hmost : e ≤ 308) :
    -346 ≤ (writtenDecimal c e).2 ∧ (writtenDecimal c e).2 ≤ 308 := by
  unfold writtenDecimal
  split
  · exact ⟨(by decide : (-346 : Int) ≤ -1), (by decide : (-1 : Int) ≤ 308)⟩
  · exact ⟨hleast, hmost⟩

/-- The digits that are written for a finite number, and their power, are limited, and have a
value that is rounded to the number. -/
theorem written_spec (hx : x.isFinite = true) :
    x.written.1 ≤ 10 ^ 17 ∧ -346 ≤ x.written.2 ∧ x.written.2 ≤ 308 ∧
      Attracts x.magnitude (decimalUnits x.written.1 x.written.2) := by
  cases hzero : x.isZero with
  | true =>
      have hword : x.magnitude = 0 := by simpa [isZero] using hzero
      have hnothing : decimalUnits 0 (-1) = units 0 := by simp [decimalUnits, units_zero]
      rw [written, if_pos hzero, hword, hnothing]
      exact ⟨by decide, by decide, by decide, attracts_units 0⟩
  | false =>
      have hword : 0 < x.magnitude := by
        simpa [isZero, Nat.pos_iff_ne_zero] using hzero
      obtain ⟨c, e, hshortest, -, hc, hleast, hmost, hattracts⟩ :=
        attracts_shortest hword (isFinite_iff.mp hx)
      obtain ⟨hleast, hmost⟩ := writtenDecimal_exponent c hleast hmost
      rw [written_of_shortest hzero hshortest, decimalUnits_writtenDecimal]
      exact ⟨writtenDecimal_le hc, hleast, hmost, hattracts⟩

/-- A number whose digits and power are exact is read back. -/
theorem readBack?_of_exact (hx : x.isFinite = true) (hdigits : x.written.1 ≤ 2 ^ 53)
    (hpower : x.written.2.natAbs ≤ 22) : readBack? x = some x := by
  have hfinite := isFinite_iff.mp hx
  rw [readBack?, scale?_of_attracts (representable_of_le hdigits) (representable_pow_ten hpower)
    (by omega) hfinite (written_spec hx).2.2.2, Option.map_some]
  conv_rhs => rw [← ofParts_negative_magnitude x]
  cases x.negative
  · rfl
  · rw [if_pos rfl, neg_ofParts x.magnitude_lt]
    rfl

/-! ## Range -/

/-- The number that a product of a whole number and a power is rounded to, when both of them are
rounded before. -/
def productWord (m p : Nat) : Nat :=
  nearest (units (nearest (m * unitsInOne) 1) * units (nearest (p * unitsInOne) 1)) unitsInOne

/-- Products of greater numbers are not less. -/
theorem productWord_le {m m' p p' : Nat} (hm : m ≤ m') (hp : p ≤ p') :
    productWord m p ≤ productWord m' p' := by
  have hunits {n n' : Nat} (h : n ≤ n') :
      units (nearest (n * unitsInOne) 1) ≤ units (nearest (n' * unitsInOne) 1) := by
    refine strictMono_units.monotone (nearest_le_nearest Nat.one_pos Nat.one_pos ?_)
    rw [Nat.cast_one, div_one, div_one]
    exact_mod_cast Nat.mul_le_mul_right unitsInOne h
  refine nearest_le_nearest unitsInOne_pos unitsInOne_pos ?_
  rw [div_le_div_iff_of_pos_right cast_unitsInOne_pos]
  exact_mod_cast Nat.mul_le_mul (hunits hm) (hunits hp)

/-- The digits with which a power of ten goes up to the midpoint below the greatest number. -/
def mostDigits (k : Nat) : Nat :=
  (units (infinityWord - 2) + units (infinityWord - 1)) / (2 * (10 ^ k * unitsInOne))

/-- From `10 ^ 292` on there are fewer than seventeen digits below the greatest number, and their
products stay below the infinity. -/
theorem productWord_mostDigits_lt :
    ∀ i < 17, productWord (mostDigits (292 + i)) (10 ^ (292 + i)) < infinityWord := by
  decide +kernel

/-- Below `10 ^ 292` the products of seventeen digits are far from the infinity. -/
theorem productWord_lt : productWord (10 ^ 17) (10 ^ 291) < infinityWord := by
  decide +kernel

/-- Digits with a value below the greatest number give a number. -/
theorem scale?_isSome (hm : m ≤ 10 ^ 17) (he : e ≤ 308)
    (hvalue : decimalUnits m e ≤ Binary64.midpoint (infinityWord - 2)) :
    (scale? m e).isSome = true := by
  rcases lt_or_ge e 0 with hneg | hnonneg
  · rw [scale?, if_pos hneg]
    rfl
  obtain ⟨k, rfl⟩ := Int.eq_ofNat_of_zero_le hnonneg
  have hk : k ≤ 308 := by omega
  have ha := nearest_lt_of_le_pow_ten hm (by decide)
  have hb := nearest_lt_of_le_pow_ten (Nat.le_refl (10 ^ k)) hk
  have hproduct : productWord m (10 ^ k) < infinityWord := by
    rcases Nat.lt_or_ge k 292 with hshort | hlong
    · exact Nat.lt_of_le_of_lt
        (productWord_le hm (Nat.pow_le_pow_right (by decide) (by omega))) productWord_lt
    · have hmost : m ≤ mostDigits k := by
        rw [mostDigits, Nat.le_div_iff_mul_le
          (Nat.mul_pos (by decide) (Nat.mul_pos (Nat.pow_pos (by decide)) unitsInOne_pos))]
        rw [Binary64.midpoint, le_div_iff₀ two_pos, decimalUnits, zpow_natCast] at hvalue
        have hsucc : infinityWord - 2 + 1 = infinityWord - 1 := rfl
        rw [hsucc] at hvalue
        calc m * (2 * (10 ^ k * unitsInOne)) = m * 10 ^ k * unitsInOne * 2 := by ring
          _ ≤ _ := by exact_mod_cast hvalue
      have htable := productWord_mostDigits_lt (k - 292) (by omega)
      rw [Nat.add_sub_cancel' hlong] at htable
      exact Nat.lt_of_le_of_lt (productWord_le hmost (Nat.le_refl _)) htable
  have hfinite : ((ofNat m).mul (ofNat (10 ^ k))).isInfinite = false := by
    rw [ofNat, ofNat, mul_ofParts ha hb]
    exact (class_ofParts hproduct).2.1
  rw [scale?_of_nonneg hnonneg (by omega), Int.natAbs_natCast, hfinite, if_neg Bool.false_ne_true]
  rfl

/-- The digits of the greatest number. -/
theorem shortest_greatest : shortest (infinityWord - 1) = (17976931348623157, 292) := by
  decide +kernel

/-- What is written for a finite number is in range. -/
theorem readBack?_isSome (hx : x.isFinite = true) : (readBack? x).isSome = true := by
  rw [readBack?, Option.isSome_map]
  have hfinite := isFinite_iff.mp hx
  obtain ⟨hdigits, -, hmost, hattracts⟩ := written_spec hx
  rcases Nat.lt_or_ge x.magnitude (infinityWord - 1) with hless | hgreatest
  · refine scale?_isSome hdigits hmost (hattracts.le_midpoint.trans ?_)
    exact strictMono_midpoint.monotone (by omega)
  · -- The greatest number is near enough to the infinity that its digits count.
    have hword : x.magnitude = infinityWord - 1 := by omega
    have hzero : x.isZero = false := by
      rw [isZero, hword]
      rfl
    rw [written_of_shortest hzero (hword ▸ shortest_greatest)]
    decide +kernel

/-! ## Whole numbers -/

/-- An integer up to `2 ^ 53` is a sign and an exact whole number. -/
theorem exists_ofInt {n : Int} (hn : n.natAbs ≤ 2 ^ 53) :
    ∃ word < infinityWord, units word = n.natAbs * unitsInOne ∧
      ofInt n = ofParts (n < 0) word ∧ ofNat n.natAbs = ofParts false word := by
  obtain ⟨word, hword, hunits⟩ := representable_of_le hn
  have hnat := ofNat_of_units hword hunits
  rw [ofNat, ofParts_inj (nearest_le_infinityWord _ _) hword.le] at hnat
  exact ⟨word, hword, hunits, by rw [ofInt, hnat], by rw [ofNat, hnat]⟩

/-- The first digit of a number is not zero. -/
theorem pow_length_le {c : Nat} (hc : 0 < c) : 10 ^ ((Nat.toDigits 10 c).length - 1) ≤ c := by
  rcases Nat.eq_zero_or_pos ((Nat.toDigits 10 c).length - 1) with hone | hmore
  · rw [hone]
    exact hc
  · have hlength := Nat.length_toDigits_le_iff (n := c) (by decide : 1 < 10) hmore
    omega

/-- A whole number is written with a zero behind its point. -/
theorem written_ofInt {n : Int} (hn : n.natAbs ≤ 2 ^ 53) :
    (ofInt n).written = (10 * n.natAbs, -1) := by
  obtain ⟨word, hword, hunits, hparts, -⟩ := exists_ofInt hn
  have hmagnitude : (ofInt n).magnitude = word := by
    rw [hparts, magnitude_ofParts (lt_signBit_of_le hword.le)]
  rcases Nat.eq_zero_or_pos n.natAbs with hnone | hpos
  · rw [hnone, Nat.zero_mul, ← units_zero, strictMono_units.injective.eq_iff] at hunits
    rw [written, if_pos (by simp [isZero, hmagnitude, hunits]), hnone]
  · have hzero : (ofInt n).isZero = false := by
      simpa [isZero, hmagnitude] using (pos_of_units hpos hunits).ne'
    obtain ⟨c, k, hshortest, hc, hvalue⟩ := shortest_of_integer hpos hn hunits
    have hpoint : (Nat.toDigits 10 c).length + k ≤ 16 := by
      by_contra hlong
      have hsize : 10 ^ 16 ≤ 10 ^ ((Nat.toDigits 10 c).length - 1) * 10 ^ k := by
        rw [← Nat.pow_add]
        exact Nat.pow_le_pow_right (by decide) (by omega)
      have hdigits := Nat.mul_le_mul_right (10 ^ k) (pow_length_le hc)
      omega
    rw [written_of_shortest hzero (hmagnitude ▸ hshortest), writtenDecimal,
      if_pos ⟨Int.natCast_nonneg k, by exact_mod_cast hpoint⟩, Int.toNat_natCast, Nat.pow_succ,
      ← Nat.mul_assoc, hvalue, Nat.mul_comm]

/-- An integer up to `2 ^ 53` is read back unless it is lost by a tenth of its tenfold. -/
theorem readBack?_ofInt_eq_iff {n : Int} (hn : n.natAbs ≤ 2 ^ 53) :
    readBack? (ofInt n) = some (ofInt n) ↔ ¬LosesTenth n.natAbs := by
  obtain ⟨word, hword, -, hparts, hnat⟩ := exists_ofInt hn
  have hsign := lt_signBit_of_le hword.le
  have hscale : scale? (10 * n.natAbs) (-1) =
      some ((ofNat (10 * n.natAbs)).div (ofNat 10)) := scale?_of_neg (by decide) (by decide)
  rw [readBack?, written_ofInt hn, hscale, ← div_ten_eq_iff hn, Option.map_some, Option.some_inj,
    hnat, hparts, negative_ofParts hsign]
  by_cases hn : n < 0
  · rw [decide_eq_true hn, if_pos rfl, ← Bool.not_false, ← neg_ofParts hsign, Binary64.neg_inj]
  · rw [decide_eq_false hn, if_neg Bool.false_ne_true]

end Turnstile.Json
