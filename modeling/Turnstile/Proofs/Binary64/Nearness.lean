import Turnstile.Proofs.Binary64.Arithmetic

/-!
# How far rounding goes

Rounding moves a value by a part of it, and by a part of the lowest unit where there is no room
for more bits.  Both parts add up when one rounded value is worked on and the result is rounded
again.

Main definitions:

- `Binary64.Near`: a value near another one, by a relative and an absolute part.

Main results:

- `Binary64.Attracts.near`, `Binary64.near_whole`: how far rounding goes.
- `Binary64.Near.trans`, `Binary64.Near.mul`, `Binary64.Near.div`: how the parts add up.
-/

namespace Turnstile.Binary64

/-! ## Nearness -/

/-- A value is near another one: within a part of it and an absolute distance. -/
structure Near (part distance v r : Rat) : Prop where
  lower : (1 - part) * v - distance ≤ r
  upper : r ≤ (1 + part) * v + distance

namespace Near

variable {p p' q q' v r z a b : Rat}

/-- Nearness may be told with larger parts. -/
theorem weaken (h : Near p q v r) (hv : 0 ≤ v) (hp : p ≤ p') (hq : q ≤ q') : Near p' q' v r where
  lower := by
    have := mul_le_mul_of_nonneg_right hp hv
    linarith only [h.lower, this, hq]
  upper := by
    have := mul_le_mul_of_nonneg_right hp hv
    linarith only [h.upper, this, hq]

/-- A value near one that is near a third is near the third, with larger parts. -/
theorem trans (h : Near p q v r) (h' : Near p' q' r z) (hv : 0 ≤ v) (hp : 0 ≤ p) (hp₁ : p ≤ 1)
    (hp' : 0 ≤ p') (hp₁' : p' ≤ 1) (hq : 0 ≤ q) : Near (p + 2 * p') (2 * q + q') v z where
  lower := by
    have hscaled := mul_le_mul_of_nonneg_left h.lower (sub_nonneg.mpr hp₁')
    have hmixed := mul_nonneg (mul_nonneg hp hp') hv
    have hpart := mul_nonneg hp' hv
    have hshare := mul_nonneg hp' hq
    linarith only [hscaled, hmixed, hpart, hshare, h'.lower, hq]
  upper := by
    have hscaled := mul_le_mul_of_nonneg_left h.upper (add_nonneg zero_le_one hp')
    have hmixed := mul_le_mul_of_nonneg_right (mul_le_mul_of_nonneg_right hp₁ hp') hv
    have hshare := mul_le_mul_of_nonneg_right hp₁' hq
    linarith only [hscaled, hmixed, hshare, h'.upper]

/-- Near values stay near when both are multiplied by a number. -/
theorem mul_right (h : Near p q v r) (ha : 0 ≤ a) : Near p (q * a) (v * a) (r * a) where
  lower := by
    have := mul_le_mul_of_nonneg_right h.lower ha
    linarith only [this]
  upper := by
    have := mul_le_mul_of_nonneg_right h.upper ha
    linarith only [this]

/-- Products of near values are near. -/
theorem mul (h : Near p 0 v r) (h' : Near p' 0 a b) (hv : 0 ≤ v) (hr : 0 ≤ r) (ha : 0 ≤ a)
    (hp : 0 ≤ p) (hp₁ : p ≤ 1) (hp' : 0 ≤ p') (hp₁' : p' ≤ 1) :
    Near (p + 2 * p') 0 (v * a) (r * b) := by
  have hleft : Near p 0 (v * a) (r * a) := by simpa using h.mul_right ha
  have hright : Near p' 0 (r * a) (r * b) := by
    simpa [mul_comm] using h'.mul_right hr
  simpa using hleft.trans hright (mul_nonneg hv ha) hp hp₁ hp' hp₁' le_rfl

/-- One over a value is near one over a near value. -/
theorem inv (h : Near p 0 a b) (ha : 0 < a) (hp : 0 ≤ p) (hp₂ : p ≤ 1 / 2) :
    Near (2 * p) 0 a⁻¹ b⁻¹ := by
  have hb : 0 < b := by
    have := mul_pos (show 0 < 1 - p by linarith only [hp₂]) ha
    linarith only [this, h.lower]
  have hlow := h.lower
  have hhigh := h.upper
  simp only [sub_zero, add_zero] at hlow hhigh
  have hmost : (1 - 2 * p) * b ≤ a := by
    calc (1 - 2 * p) * b ≤ (1 - 2 * p) * ((1 + p) * a) :=
          mul_le_mul_of_nonneg_left hhigh (by linarith only [hp₂])
      _ = ((1 - 2 * p) * (1 + p)) * a := by ring
      _ ≤ 1 * a := mul_le_mul_of_nonneg_right (by nlinarith only [hp]) ha.le
      _ = a := one_mul a
  have hleast : a ≤ (1 + 2 * p) * b := by
    calc a = 1 * a := (one_mul a).symm
      _ ≤ ((1 + 2 * p) * (1 - p)) * a :=
          mul_le_mul_of_nonneg_right (by nlinarith only [hp, hp₂]) ha.le
      _ = (1 + 2 * p) * ((1 - p) * a) := by ring
      _ ≤ (1 + 2 * p) * b := mul_le_mul_of_nonneg_left hlow (by linarith only [hp])
  constructor
  · rw [sub_zero, ← div_eq_mul_inv, div_le_iff₀ ha, inv_mul_eq_div, le_div_iff₀ hb]
    exact hmost
  · rw [add_zero, ← div_eq_mul_inv, le_div_iff₀ ha, inv_mul_eq_div, div_le_iff₀ hb]
    exact hleast

/-- Quotients of near values are near. -/
theorem div (h : Near p q v r) (h' : Near p' 0 a b) (hv : 0 ≤ v) (ha : 0 < a) (hr : 0 ≤ r)
    (hp : 0 ≤ p) (hp₁ : p ≤ 1) (hp' : 0 ≤ p') (hp₂' : p' ≤ 1 / 2) (hq : 0 ≤ q) :
    Near (p + 4 * p') (2 * (q / a)) (v / a) (r / b) := by
  have hleft : Near p (q / a) (v / a) (r / a) := by
    simpa only [div_eq_mul_inv] using h.mul_right (inv_nonneg.mpr ha.le)
  have hright : Near (2 * p') 0 (r / a) (r / b) := by
    simpa [div_eq_mul_inv, mul_comm] using (h'.inv ha hp' hp₂').mul_right hr
  have hboth := hleft.trans hright (div_nonneg hv ha.le) hp hp₁ (by linarith only [hp'])
    (by linarith only [hp₂']) (div_nonneg hq ha.le)
  refine hboth.weaken (div_nonneg hv ha.le) ?_ ?_
  · linarith only []
  · linarith only []

end Near

/-! ## Rounding -/

/-- The part by which rounding moves a value: a unit in the last of fifty-three bits. -/
def roundoff : Rat := 1 / 2 ^ 52

theorem roundoff_nonneg : 0 ≤ roundoff := by
  unfold roundoff
  norm_num

theorem roundoff_le : roundoff ≤ 1 / 64 := by
  unfold roundoff
  norm_num

variable {word : Nat} {v : Rat}

/-- Half the distance to the next number bounds how far a value is rounded. -/
theorem Attracts.bounds (h : Attracts word v) (hv : 0 ≤ v) :
    v ≤ units word + 2 ^ exponent word / 2 ∧ (units word : Rat) ≤ v + 2 ^ exponent word / 2 := by
  have hstep : (units (word + 1) : Rat) = units word + 2 ^ exponent word := by
    exact_mod_cast units_succ word
  constructor
  · have hle := h.le_midpoint
    rw [midpoint, hstep] at hle
    linarith only [hle]
  · cases word with
    | zero =>
        have hplace : (0 : Rat) < 2 ^ exponent 0 := by positivity
        rw [units_zero, Nat.cast_zero]
        linarith only [hv, hplace]
    | succ earlier =>
        have hle := h.midpoint_le
        have hstep : (units (earlier + 1) : Rat) = units earlier + 2 ^ exponent earlier := by
          exact_mod_cast units_succ earlier
        have hplace : (2 : Rat) ^ exponent earlier ≤ 2 ^ exponent (earlier + 1) := by
          refine pow_le_pow_right₀ one_le_two ?_
          unfold exponent
          exact Nat.sub_le_sub_right (Nat.div_le_div_right (Nat.le_succ _)) 1
        rw [midpoint] at hle
        linarith only [hle, hstep, hplace]

/-- A value that is rounded to a number with all its bits moves by a part of it alone. -/
theorem Attracts.near_of_hiddenBit_le (h : Attracts word v) (hv : 0 ≤ v)
    (hword : hiddenBit ≤ word) : Near roundoff 0 v (units word) := by
  obtain ⟨habove, hbelow⟩ := h.bounds hv
  have hplace : (2 ^ 52 * 2 ^ exponent word : Rat) ≤ units word := by
    have hle : hiddenBit * 2 ^ exponent word ≤ units word := by
      rw [units_eq, significand, if_neg (Nat.not_lt.mpr hword)]
      exact Nat.mul_le_mul_right _ (Nat.le_add_right _ _)
    exact_mod_cast hle
  unfold roundoff
  constructor
  · linarith only [habove, hplace, hv]
  · linarith only [hbelow, hplace, hv]

/-- A number without all its bits has the lowest unit as its last place. -/
theorem Attracts.bounds_of_lt (h : Attracts word v) (hv : 0 ≤ v) (hword : word < hiddenBit) :
    v ≤ word + 1 / 2 ∧ (word : Rat) ≤ v + 1 / 2 := by
  have hplace : exponent word = 0 := by
    rw [exponent, Nat.div_eq_of_lt hword]
  simpa [units_of_lt hword, hplace] using h.bounds hv

/-- A value is rounded to a near number. -/
theorem Attracts.near (h : Attracts word v) (hv : 0 ≤ v) : Near roundoff 1 v (units word) := by
  rcases Nat.lt_or_ge word hiddenBit with hlow | hfull
  · obtain ⟨habove, hbelow⟩ := h.bounds_of_lt hv hlow
    rw [units_of_lt hlow]
    unfold roundoff
    constructor
    · linarith only [habove, hv]
    · linarith only [hbelow, hv]
  · exact (h.near_of_hiddenBit_le hv hfull).weaken hv le_rfl zero_le_one

/-- A value with enough bits is rounded by a part of it alone. -/
theorem Attracts.near_of_large (h : Attracts word v) (hv : 2 ^ 52 ≤ v) :
    Near roundoff 0 v (units word) := by
  have hpos : 0 ≤ v := by linarith only [hv]
  refine h.near_of_hiddenBit_le hpos (Nat.not_lt.mp fun hlow => ?_)
  have habove := (h.bounds_of_lt hpos hlow).1
  have hword : (word : Rat) + 1 ≤ 2 ^ 52 := by exact_mod_cast hlow
  linarith only [habove, hword, hv]

/-- A whole number is rounded to a near one. -/
theorem near_whole {n : Nat} (hfinite : nearest (n * unitsInOne) 1 < infinityWord) :
    Near roundoff 0 (n * unitsInOne) (units (nearest (n * unitsInOne) 1)) := by
  have h := (nearest_eq_iff Nat.one_pos hfinite).mp rfl
  rw [Nat.cast_one, div_one] at h
  rcases Nat.eq_zero_or_pos n with rfl | hpos
  · rw [Nat.zero_mul] at h ⊢
    have hzero : nearest 0 1 = 0 := by decide
    rw [hzero, units_zero]
    constructor <;> simp
  · have hlarge : 2 ^ 52 ≤ n * unitsInOne :=
      (two_pow_le_unitsInOne (by decide)).trans (Nat.le_mul_of_pos_left _ hpos)
    rw [← Nat.cast_mul]
    exact h.near_of_large (by exact_mod_cast hlarge)

end Turnstile.Binary64
