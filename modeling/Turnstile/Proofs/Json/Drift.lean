import Turnstile.Proofs.Binary64.Nearness
import Turnstile.Proofs.Json.Scaling

/-!
# How far a number that is read may drift

The number that digits make up is computed with a few roundings, each by a unit in the last
place.  None of them comes near the infinity, since a power of ten that is divided by is no less
than one and a product out of range is a fault.  So a number that is written and read again is
finite, and near the one that was written.

Main results:

- `scale?_isFinite`: digits in range make up a finite number.
- `near_of_scale?`: which is near their value.
- `readBack?_near`: a number that is read back is near the one that was written.
-/

namespace Turnstile.Json

open Binary64

/-! ## Finite numbers -/

/-- A whole number that fits in sixty-four bits is not rounded to the infinity. -/
theorem nearest_lt_of_fits {n : Nat} (hn : n ≤ significandLimit) :
    nearest (n * unitsInOne) 1 < infinityWord :=
  nearest_lt_of_le_pow_ten (hn.trans (by decide : significandLimit ≤ 10 ^ 20)) (by decide)

/-- A positive number that is divided by a power of ten does not grow, and is rounded once. -/
theorem div_pow_ten {word k : Nat} (hword : word < infinityWord) (hk : k ≤ 308) :
    ∃ less < infinityWord,
      (ofParts false word).div (ofNat (Nat.pow 10 k)) = ofParts false less ∧
      Attracts less (units word * unitsInOne / units (nearest (10 ^ k * unitsInOne) 1)) := by
  have hpower : nearest (10 ^ k * unitsInOne) 1 < infinityWord :=
    nearest_lt_of_le_pow_ten (Nat.le_refl _) hk
  have hone : unitsInOne ≤ units (nearest (10 ^ k * unitsInOne) 1) := by
    obtain ⟨one, hfinite, hunits⟩ := representable_of_le (by decide : 1 ≤ 2 ^ 53)
    have hle : nearest (units one) 1 ≤ nearest (10 ^ k * unitsInOne) 1 := by
      refine nearest_le_nearest Nat.one_pos Nat.one_pos ?_
      rw [Nat.cast_one, div_one, div_one, Nat.cast_le, hunits]
      exact Nat.mul_le_mul_right _ (Nat.one_le_pow _ _ (by decide))
    rw [nearest_units hfinite] at hle
    calc unitsInOne = units one := by rw [hunits, Nat.one_mul]
      _ ≤ _ := strictMono_units.monotone hle
  have hpos : 0 < units (nearest (10 ^ k * unitsInOne) 1) := Nat.lt_of_lt_of_le unitsInOne_pos hone
  have hdivisor : 0 < nearest (10 ^ k * unitsInOne) 1 := by
    rwa [← strictMono_units.lt_iff_lt, units_zero]
  have hless : nearest (units word * unitsInOne) (units (nearest (10 ^ k * unitsInOne) 1)) <
      infinityWord := by
    refine Nat.lt_of_le_of_lt (nearest_le_of_le_units hpos hword ?_) hword
    rw [div_le_iff₀ (by exact_mod_cast hpos)]
    exact_mod_cast Nat.mul_le_mul_left (units word) hone
  refine ⟨_, hless, ?_, ?_⟩
  · rw [Nat.pow_eq, ofNat, div_ofParts hword hpower hdivisor]
    rfl
  · have h := (nearest_eq_iff hpos hless).mp rfl
    rwa [Nat.cast_mul] at h

/-- A product with a power of ten that is not out of range is finite, and is rounded once. -/
theorem mul_pow_ten {word k : Nat} (hword : word < infinityWord) (hk : k ≤ 308)
    (h : ((ofParts false word).mul (ofNat (10 ^ k))).isInfinite = false) :
    ∃ more < infinityWord, (ofParts false word).mul (ofNat (10 ^ k)) = ofParts false more ∧
      Attracts more (units word * units (nearest (10 ^ k * unitsInOne) 1) / unitsInOne) := by
  have hpower := nearest_lt_of_le_pow_ten (Nat.le_refl (10 ^ k)) hk
  rw [ofNat, mul_ofParts hword hpower] at h ⊢
  have hle := nearest_le_infinityWord
    (units word * units (nearest (10 ^ k * unitsInOne) 1)) unitsInOne
  rw [isInfinite, magnitude_ofParts (lt_signBit_of_le hle), beq_eq_false_iff_ne] at h
  have hfinite := Nat.lt_of_le_of_ne hle h
  have hattracts := (nearest_eq_iff unitsInOne_pos hfinite).mp rfl
  rw [Nat.cast_mul] at hattracts
  exact ⟨_, hfinite, rfl, hattracts⟩

/-- Divisions by powers of ten end in a finite number. -/
theorem shrink_isFinite {word : Nat} (hword : word < infinityWord) (fuel power : Nat) :
    (shrink fuel (ofParts false word) power).isFinite = true := by
  induction fuel generalizing word power with
  | zero => exact isFinite_ofParts hword
  | succ fuel ih =>
      rw [shrink]
      split
      · obtain ⟨less, hless, hdiv, -⟩ := div_pow_ten hword ‹_›
        rw [hdiv]
        exact isFinite_ofParts hless
      split
      · exact isFinite_ofParts hword
      · obtain ⟨k, hk⟩ : ∃ k, k = 308 := ⟨_, rfl⟩
        obtain ⟨less, hless, hdiv, -⟩ := div_pow_ten hword hk.le
        rw [← hk, hdiv]
        exact ih hless _

/-- Digits that are scaled without a fault are a finite number. -/
theorem scale?_isFinite {m : Nat} {e : Int} {x : Binary64} (hm : m ≤ significandLimit)
    (h : scale? m e = some x) : x.isFinite = true := by
  have hword := nearest_lt_of_fits hm
  unfold scale? at h
  dsimp only at h
  split at h
  · obtain rfl := Option.some.inj h
    exact shrink_isFinite hword _ _
  split at h
  · split at h
    · contradiction
    · rename_i hreach hproduct
      obtain rfl := Option.some.inj h
      obtain ⟨more, hmore, hmul, -⟩ := mul_pow_ten hword (by omega : e.toNat ≤ 308)
        (Bool.eq_false_iff.mpr hproduct)
      exact hmul ▸ isFinite_ofParts hmore
  split at h
  · obtain rfl := Option.some.inj h
    exact isFinite_ofParts hword
  · contradiction

/-! ## Near numbers -/

/-- A division by a power of ten is as near as the number and six units in the last place. -/
theorem near_div_pow_ten {word k : Nat} (hword : word < infinityWord) (hk : k ≤ 308)
    {part distance v : Rat} (h : Near part distance v (units word)) (hv : 0 ≤ v)
    (hpart : 0 ≤ part) (hpart₁ : part ≤ 1 / 2) (hdistance : 0 ≤ distance) :
    ∃ less < infinityWord,
      (ofParts false word).div (ofNat (Nat.pow 10 k)) = ofParts false less ∧
      Near (part + 6 * roundoff) (4 * (distance / 10 ^ k) + 1) (v / 10 ^ k) (units less) := by
  obtain ⟨less, hless, hdiv, hattracts⟩ := div_pow_ten hword hk
  refine ⟨less, hless, hdiv, ?_⟩
  have hone := cast_unitsInOne_pos
  have hroundoff := roundoff_le
  have hpower := near_whole (nearest_lt_of_le_pow_ten (Nat.le_refl (10 ^ k)) hk)
  push_cast at hpower
  have hquotient := (h.mul_right hone.le).div hpower (mul_nonneg hv hone.le) (by positivity)
    (mul_nonneg (Nat.cast_nonneg _) hone.le) hpart (by linarith only [hpart₁]) roundoff_nonneg
    (by linarith only [hroundoff]) (mul_nonneg hdistance hone.le)
  rw [mul_div_mul_right _ _ hone.ne', mul_div_mul_right _ _ hone.ne'] at hquotient
  have hrounded := hquotient.trans
    (hattracts.near (div_nonneg (mul_nonneg (Nat.cast_nonneg _) hone.le) (Nat.cast_nonneg _)))
    (by positivity) (by linarith only [hpart, roundoff_nonneg])
    (by linarith only [hpart₁, hroundoff]) roundoff_nonneg (by linarith only [hroundoff])
    (by positivity)
  refine hrounded.weaken (by positivity) ?_ ?_
  · linarith only []
  · linarith only []

/-- A quotient by a power out of reach is divided twice, and its second divisor leaves a tenth
of what the first rounding went wrong at most. -/
theorem near_shrink_of_lt {word m k : Nat} (hword : word < infinityWord)
    (h : Near roundoff 0 (m * unitsInOne) (units word)) (hlong : 308 < k) (hk : k ≤ 346)
    (hzero : (ofParts false word).isZero = false) :
    ∃ less < infinityWord, shrink 3 (ofParts false word) k = ofParts false less ∧
      Near (13 * roundoff) (7 / 5) (m * unitsInOne / 10 ^ k) (units less) := by
  have hvalue : (0 : Rat) ≤ m * unitsInOne := mul_nonneg (Nat.cast_nonneg _) (Nat.cast_nonneg _)
  have hroundoff := roundoff_le
  -- The reach has a name so that its power of ten is not computed.
  obtain ⟨reach, hreach⟩ : ∃ reach, reach = 308 := ⟨_, rfl⟩
  obtain ⟨between, hbetween, hdiv, hnear⟩ := near_div_pow_ten hword hreach.le h hvalue
    roundoff_nonneg (by linarith only [hroundoff]) le_rfl
  obtain ⟨less, hless, hdiv', hnear⟩ := near_div_pow_ten hbetween (by omega : k - reach ≤ 308) hnear
    (div_nonneg hvalue (by positivity)) (by linarith only [roundoff_nonneg])
    (by linarith only [hroundoff]) (by norm_num)
  refine ⟨less, hless, ?_, ?_⟩
  · rw [shrink, if_neg (Nat.not_le.mpr hlong), if_neg (by simp [hzero]), ← hreach, hdiv,
      shrink, if_pos (by omega), hdiv']
  · have hten : (10 : Rat) ≤ 10 ^ (k - reach) := by
      calc (10 : Rat) = 10 ^ 1 := (pow_one _).symm
        _ ≤ 10 ^ (k - reach) := pow_le_pow_right₀ (by norm_num) (by omega)
    have htenth : (1 / 10 ^ (k - reach) : Rat) ≤ 1 / 10 :=
      one_div_le_one_div_of_le (by norm_num) hten
    rw [div_div, ← pow_add, Nat.add_sub_cancel' (by omega)] at hnear
    refine hnear.weaken (div_nonneg hvalue (by positivity)) ?_ ?_
    · linarith only []
    · rw [zero_div, mul_zero, zero_add]
      linarith only [htenth]

/-- Digits that are divided by powers of ten are near their quotient. -/
theorem near_shrink {word m k : Nat} (hword : word < infinityWord)
    (h : Near roundoff 0 (m * unitsInOne) (units word)) (hk : k ≤ 346) :
    ∃ less < infinityWord, shrink 3 (ofParts false word) k = ofParts false less ∧
      Near (13 * roundoff) (7 / 5) (m * unitsInOne / 10 ^ k) (units less) := by
  have hvalue : (0 : Rat) ≤ m * unitsInOne := mul_nonneg (Nat.cast_nonneg _) (Nat.cast_nonneg _)
  have hroundoff := roundoff_le
  rcases Nat.lt_or_ge 308 k with hlong | hshort
  · cases hzero : (ofParts false word).isZero with
    | true =>
        obtain rfl : word = 0 := (class_ofParts hword).2.2.mp hzero
        have hnothing : (m * unitsInOne : Rat) = 0 := by
          have hlower := h.lower
          rw [units_zero, Nat.cast_zero, sub_zero] at hlower
          nlinarith only [hlower, hvalue, hroundoff]
        refine ⟨0, hword, ?_, ?_⟩
        · rw [shrink, if_neg (Nat.not_le.mpr hlong), if_pos hzero]
        · rw [hnothing, units_zero]
          constructor <;> norm_num
    | false => exact near_shrink_of_lt hword h hlong hk hzero
  · obtain ⟨less, hless, hdiv, hnear⟩ := near_div_pow_ten hword hshort h hvalue roundoff_nonneg
      (by linarith only [hroundoff]) le_rfl
    refine ⟨less, hless, ?_, ?_⟩
    · rw [shrink, if_pos hshort, hdiv]
    · refine hnear.weaken (div_nonneg hvalue (by positivity)) ?_ ?_
      · linarith only [roundoff_nonneg]
      · norm_num

/-- Digits that are multiplied by a power of ten are near their product. -/
theorem near_mul_pow_ten {word m k : Nat} (hword : word < infinityWord) (hk : k ≤ 308)
    (h : Near roundoff 0 (m * unitsInOne) (units word))
    (hrange : ((ofParts false word).mul (ofNat (10 ^ k))).isInfinite = false) :
    ∃ more < infinityWord, (ofParts false word).mul (ofNat (10 ^ k)) = ofParts false more ∧
      Near (5 * roundoff) 1 (m * 10 ^ k * unitsInOne) (units more) := by
  obtain ⟨more, hmore, hmul, hattracts⟩ := mul_pow_ten hword hk hrange
  refine ⟨more, hmore, hmul, ?_⟩
  have hone := cast_unitsInOne_pos
  have hroundoff := roundoff_le
  have hdigits : (0 : Rat) ≤ m * unitsInOne := mul_nonneg (Nat.cast_nonneg _) hone.le
  have hpower : (0 : Rat) ≤ 10 ^ k * unitsInOne := mul_nonneg (by positivity) hone.le
  have hfactor := near_whole (nearest_lt_of_le_pow_ten (Nat.le_refl (10 ^ k)) hk)
  push_cast at hfactor
  have hproduct := (h.mul hfactor hdigits (Nat.cast_nonneg _) hpower roundoff_nonneg
    (by linarith only [hroundoff]) roundoff_nonneg (by linarith only [hroundoff])).mul_right
    (inv_nonneg.mpr hone.le)
  simp only [← div_eq_mul_inv, zero_div] at hproduct
  have hrounded := hproduct.trans
    (hattracts.near (div_nonneg (mul_nonneg (Nat.cast_nonneg _) (Nat.cast_nonneg _)) hone.le))
    (div_nonneg (mul_nonneg hdigits hpower) hone.le) (by linarith only [roundoff_nonneg])
    (by linarith only [hroundoff]) roundoff_nonneg (by linarith only [hroundoff]) le_rfl
  have hvalue : (m * 10 ^ k * unitsInOne : Rat) =
      m * unitsInOne * (10 ^ k * unitsInOne) / unitsInOne := by
    field_simp
  rw [hvalue]
  refine hrounded.weaken (div_nonneg (mul_nonneg hdigits hpower) hone.le) ?_ ?_
  · linarith only []
  · norm_num

/-- Digits that are scaled are near their value. -/
theorem near_of_scale? {m : Nat} {e : Int} {y : Binary64} (hm : m ≤ 10 ^ 17) (hleast : -346 ≤ e)
    (hmost : e ≤ 308) (h : scale? m e = some y) :
    ∃ word < infinityWord, y = ofParts false word ∧
      Near (13 * roundoff) (7 / 5) (decimalUnits m e) (units word) := by
  have hdigits := nearest_lt_of_le_pow_ten hm (by decide)
  have hnear := near_whole hdigits
  rcases lt_or_ge e 0 with hneg | hnonneg
  · obtain ⟨less, hless, hshrink, hnear⟩ := near_shrink hdigits hnear (by omega : e.natAbs ≤ 346)
    rw [scale?, if_pos hneg] at h
    exact ⟨less, hless, (Option.some.inj h).symm.trans hshrink, decimalUnits_of_neg hneg ▸ hnear⟩
  · have hreach : e.natAbs ≤ 308 := by omega
    rw [scale?_of_nonneg hnonneg hreach] at h
    split at h
    · contradiction
    rename_i hrange
    obtain ⟨more, hmore, hmul, hnear⟩ :=
      near_mul_pow_ten hdigits hreach hnear (Bool.eq_false_iff.mpr hrange)
    refine ⟨more, hmore, (Option.some.inj h).symm.trans hmul, ?_⟩
    rw [decimalUnits_of_nonneg hnonneg]
    refine hnear.weaken (mul_nonneg (by positivity) cast_unitsInOne_pos.le) ?_ ?_
    · linarith only [roundoff_nonneg]
    · norm_num

/-! ## Numbers that are read back -/

/-- The value of a number by its sign and its word. -/
theorem toRat_ofParts {s : Bool} {word : Nat} (hword : word < infinityWord) :
    (ofParts s word).toRat = (if s then -1 else 1) * (units word / unitsInOne) := by
  rw [toRat, signedScaled, scaled_ofParts hword.le, negative_ofParts (lt_signBit_of_le hword.le)]
  cases s
  · simp
  · simp [neg_div]

/-- A number that is read back is finite, and near the one that was written. -/
theorem readBack?_near {x y : Binary64} (hx : x.isFinite = true) (h : readBack? x = some y) :
    y.isFinite = true ∧ |y.toRat - x.toRat| ≤ |x.toRat| / 2 ^ 48 + 4 / unitsInOne := by
  have hfinite := isFinite_iff.mp hx
  obtain ⟨hdigits, hleast, hmost, hattracts⟩ := written_spec hx
  obtain ⟨z, hscale, hsign⟩ := Option.map_eq_some_iff.mp h
  obtain ⟨word, hword, rfl, hnear⟩ := near_of_scale? hdigits hleast hmost hscale
  obtain rfl : ofParts x.negative word = y := by
    rw [← hsign]
    cases x.negative
    · rfl
    · rw [if_pos rfl, neg_ofParts (lt_signBit_of_le hword.le)]
      rfl
  refine ⟨isFinite_ofParts hword, ?_⟩
  have hone := cast_unitsInOne_pos
  have hvalue : 0 ≤ decimalUnits x.written.1 x.written.2 := by
    unfold decimalUnits
    exact mul_nonneg (mul_nonneg (Nat.cast_nonneg _) (by positivity)) hone.le
  have hunits : |(units word : Rat) - units x.magnitude| ≤ units x.magnitude / 2 ^ 48 + 4 := by
    obtain ⟨hlow, hhigh⟩ := hnear
    obtain ⟨hlow', hhigh'⟩ := hattracts.near hvalue
    have hpos : (0 : Rat) ≤ units x.magnitude := Nat.cast_nonneg _
    unfold roundoff at *
    rw [abs_le]
    constructor
    · linarith only [hlow, hhigh', hpos]
    · linarith only [hhigh, hlow', hpos]
  have hx' : x.toRat = (if x.negative then -1 else 1) * (units x.magnitude / unitsInOne) := by
    rw [← toRat_ofParts hfinite, ofParts_negative_magnitude]
  have hparts : |(if x.negative then -1 else 1 : Rat)| = 1 := by
    cases x.negative <;> simp
  rw [toRat_ofParts hword, hx', ← mul_sub, abs_mul, abs_mul, hparts, one_mul, one_mul, ← sub_div,
    abs_div, abs_div, abs_of_pos hone, Nat.abs_cast, div_right_comm, ← add_div]
  exact div_le_div_of_nonneg_right hunits hone.le

end Turnstile.Json
