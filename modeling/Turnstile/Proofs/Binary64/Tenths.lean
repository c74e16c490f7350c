import Turnstile.Proofs.Binary64.Arithmetic

/-!
# A tenth of ten times a whole number

Ten times a whole number may need more than the fifty-three bits of a significand.  Then it is
rounded, and a tenth of what it is rounded to is rounded once more.  Up to `2 ^ 53` it can be
said exactly for which whole numbers the result is not the number itself: the tenfold has to be
rounded by more than half a unit in the last place of the number.

Main definitions:

- `Binary64.LosesTenth`: the whole numbers that are lost.

Main results:

- `Binary64.div_ten_eq_iff`: a tenth of the tenfold is the number, unless it is lost.
-/

namespace Turnstile.Binary64

/-- A whole number up to `2 ^ 53` of which the tenfold is rounded to a number with another tenth.
With a tenfold beyond `2 ^ 54` this happens to the odd numbers with fifty-one bits, beyond
`2 ^ 55` to the odd halves of numbers with fifty-two, and beyond `2 ^ 56` to three of eight. -/
def LosesTenth (n : Nat) : Prop :=
  (2 ^ 54 < 10 * n ∧ n < 2 ^ 51 ∧ n % 2 = 1) ∨
    (2 ^ 55 < 10 * n ∧ n < 2 ^ 52 ∧ n % 4 = 2) ∨
      (2 ^ 56 < 10 * n ∧ (n % 8 = 1 ∨ n % 8 = 4 ∨ n % 8 = 7))

instance (n : Nat) : Decidable (LosesTenth n) :=
  inferInstanceAs (Decidable (_ ∨ _ ∨ _))

variable {n : Nat}

/-- The quotient by ten, by way of the word of the tenfold. -/
theorem div_ten_eq_iff_attracts {word tenfold : Nat} (hword : word < infinityWord)
    (hunits : units word = n * unitsInOne) (htenfold : tenfold < infinityWord)
    (hten : ofNat (10 * n) = ofParts false tenfold) :
    (ofNat (10 * n)).div (ofNat 10) = ofNat n ↔ Attracts word (units tenfold / 10) := by
  obtain ⟨ten, hfinite, hunitsTen⟩ := representable_of_le (by decide : 10 ≤ 2 ^ 53)
  have hpos : 0 < ten := pos_of_units (by decide) hunitsTen
  have hquotient : ((units tenfold * unitsInOne : Nat) / (10 * unitsInOne : Nat) : Rat) =
      units tenfold / 10 := by
    have := cast_unitsInOne_pos
    push_cast
    field_simp
  rw [hten, ofNat_of_units hfinite hunitsTen, ofNat_of_units hword hunits,
    div_ofParts htenfold hfinite hpos, hunitsTen]
  simp only [bne_self_eq_false]
  rw [ofParts_inj (nearest_le_infinityWord _ _) hword.le,
    nearest_eq_iff (Nat.mul_pos (by decide) unitsInOne_pos) hword, hquotient]

/-- An exact tenfold has the number as its tenth. -/
theorem div_ten_of_representable (hn : Representable n) (hten : Representable (10 * n)) :
    (ofNat (10 * n)).div (ofNat 10) = ofNat n := by
  obtain ⟨word, hword, hunits⟩ := hn
  obtain ⟨tenfold, htenfold, hunitsTen⟩ := hten
  rw [div_ten_eq_iff_attracts hword hunits htenfold (ofNat_of_units htenfold hunitsTen)]
  have hsame : (units tenfold / 10 : Rat) = units word := by
    rw [hunitsTen, hunits]
    push_cast
    ring
  exact hsame ▸ attracts_units word

/-- Which even multiples of a tenth of the last place a word inside its binade attracts. -/
theorem attracts_tenth_iff {q s m : Nat} (hlow : hiddenBit < s) (hhigh : s < 2 * hiddenBit)
    (heven : m % 2 = 0) :
    Attracts (q * hiddenBit + s) ((m * 2 ^ q : Nat) / 10) ↔
      10 * s < m + 5 ∧ m < 10 * s + 5 := by
  have hbeyond (t : Nat) (ht : hiddenBit ≤ t) (ht' : t < 2 * hiddenBit) :
      Beyond ((m * 2 ^ q : Nat) / 10) (q * hiddenBit + t) ↔ 5 * (2 * t + 1) < m := by
    have hcross : midpoint (q * hiddenBit + t) = (5 * (2 * t + 1) : Nat) * (2 ^ q / 10) := by
      rw [midpoint_binade (Or.inl ht) ht']
      push_cast
      ring
    have hvalue : ((m * 2 ^ q : Nat) / 10 : Rat) = m * (2 ^ q / 10) := by
      push_cast
      ring
    have hplace : (0 : Rat) < 2 ^ q / 10 := by positivity
    rw [Beyond, hcross, hvalue, mul_lt_mul_iff_left₀ hplace, mul_left_inj' hplace.ne', Nat.cast_lt,
      Nat.cast_inj]
    omega
  obtain ⟨earlier, rfl⟩ := Nat.exists_eq_add_one.mpr (Nat.lt_of_le_of_lt (Nat.zero_le _) hlow)
  have hlower := hbeyond earlier (Nat.lt_succ_iff.mp hlow) (by omega)
  have hupper := hbeyond (earlier + 1) hlow.le hhigh
  constructor
  · intro h
    have habove := hlower.mp (h.lower (q * hiddenBit + earlier) (by omega))
    have hbelow := mt hupper.mpr h.upper
    omega
  · intro h
    refine ⟨fun before hbefore => ?_, fun hover => absurd (hupper.mp hover) (by omega)⟩
    obtain rfl : before = q * hiddenBit + earlier := by omega
    exact hlower.mpr (by omega)

/-- A whole number with `53 + k` bits is rounded to a multiple of `2 ^ k`. -/
theorem units_nearest_whole {k : Nat} (hlow : 2 ^ (52 + k) ≤ n) (hhigh : n < 2 ^ (53 + k))
    (hfinite : nearest (n * unitsInOne) 1 < infinityWord) :
    units (nearest (n * unitsInOne) 1) = roundHalfEven n (2 ^ k) * 2 ^ k * unitsInOne := by
  obtain ⟨i, -, hone⟩ := exists_unitsInOne_eq
  have hpow (b : Nat) : b * 2 ^ (k + i) = b * 2 ^ k * unitsInOne := by
    rw [Nat.pow_add, ← hone, Nat.mul_assoc]
  rw [Nat.pow_add] at hlow hhigh
  have hleast : hiddenBit * 2 ^ (k + i) ≤ n * unitsInOne / 1 := by
    rw [Nat.div_one, hpow]
    exact Nat.mul_le_mul_right _ hlow
  have hmost : n * unitsInOne / 1 < 2 * hiddenBit * 2 ^ (k + i) := by
    rw [Nat.div_one, hpow]
    exact Nat.mul_lt_mul_of_pos_right hhigh unitsInOne_pos
  rw [units_nearest Nat.one_pos hleast hmost hfinite, hpow, hpow, Nat.one_mul,
    roundHalfEven_mul_right unitsInOne_pos]

/-- The tenth of a tenfold that is rounded, for a number with `53 - j` bits and a tenfold with
`53 + k` bits. -/
theorem div_ten_eq_iff_roundHalfEven {j k : Nat} (hj : j ≤ 2) (hk : 0 < k) (hk' : k ≤ 4)
    (hlow : 2 ^ (52 - j) < n) (hhigh : n < 2 ^ (53 - j))
    (hlow' : 2 ^ (52 + k) ≤ 10 * n) (hhigh' : 10 * n < 2 ^ (53 + k)) :
    (ofNat (10 * n)).div (ofNat 10) = ofNat n ↔
      10 * (n * 2 ^ j) < roundHalfEven (10 * n) (2 ^ k) * 2 ^ k * 2 ^ j + 5 ∧
        roundHalfEven (10 * n) (2 ^ k) * 2 ^ k * 2 ^ j < 10 * (n * 2 ^ j) + 5 := by
  obtain ⟨i, hi, hone⟩ := exists_unitsInOne_eq
  have hplace : unitsInOne = 2 ^ j * 2 ^ (i - j) := by
    rw [hone, ← Nat.pow_add, Nat.add_sub_cancel' (by omega)]
  have hbit : hiddenBit = 2 ^ (52 - j) * 2 ^ j := by
    rw [← Nat.pow_add, Nat.sub_add_cancel (by omega)]
    rfl
  have hbits : 2 * hiddenBit = 2 ^ (53 - j) * 2 ^ j := by
    rw [← Nat.pow_add, Nat.sub_add_cancel (by omega)]
    rfl
  have hs : hiddenBit < n * 2 ^ j := hbit ▸ Nat.mul_lt_mul_of_pos_right hlow (Nat.two_pow_pos j)
  have hs' : n * 2 ^ j < 2 * hiddenBit :=
    hbits ▸ Nat.mul_lt_mul_of_pos_right hhigh (Nat.two_pow_pos j)
  have hunits : units ((i - j) * hiddenBit + n * 2 ^ j) = n * unitsInOne := by
    rw [units_binade (Or.inl hs.le) hs'.le, hplace, Nat.mul_assoc]
  have hword : (i - j) * hiddenBit + n * 2 ^ j < infinityWord := by
    have hn : n ≤ 2 ^ 53 :=
      Nat.le_trans hhigh.le (Nat.pow_le_pow_right (by decide) (Nat.sub_le 53 j))
    obtain ⟨word, hword, hsame⟩ := representable_of_le hn
    rwa [strictMono_units.injective (hunits.trans hsame.symm)]
  have hfinite : nearest (10 * n * unitsInOne) 1 < infinityWord := by
    have hmost : 2 ^ (53 + k) ≤ 2 ^ 57 := Nat.pow_le_pow_right (by decide) (by omega)
    exact nearest_lt_of_le_pow_ten (hhigh'.le.trans (hmost.trans (by decide : 2 ^ 57 ≤ 10 ^ 18)))
      (by decide)
  have htenfold : units (nearest (10 * n * unitsInOne) 1) =
      roundHalfEven (10 * n) (2 ^ k) * 2 ^ k * 2 ^ j * 2 ^ (i - j) := by
    rw [units_nearest_whole hlow' hhigh' hfinite, hplace]
    ring
  have heven : roundHalfEven (10 * n) (2 ^ k) * 2 ^ k * 2 ^ j % 2 = 0 := by
    obtain ⟨l, rfl⟩ := Nat.exists_eq_add_one.mpr hk
    rw [Nat.pow_succ, ← Nat.mul_assoc, Nat.mul_right_comm, Nat.mul_mod_left]
  rw [div_ten_eq_iff_attracts hword hunits hfinite rfl, htenfold, attracts_tenth_iff hs hs' heven]

/-- A tenth of the tenfold of a whole number up to `2 ^ 53` is the number, unless it is lost. -/
theorem div_ten_eq_iff (hn : n ≤ 2 ^ 53) :
    (ofNat (10 * n)).div (ofNat 10) = ofNat n ↔ ¬LosesTenth n := by
  have hrepresentable := representable_of_le hn
  by_cases hexact : 10 * n ≤ 2 ^ 54 ∨ n % 8 = 0
  · have hten : Representable (10 * n) := by
      rcases hexact with hsmall | height
      · rw [show 10 * n = 5 * n * 2 ^ 1 by ring]
        exact representable_mul_two_pow (by omega) (by decide)
      · obtain ⟨m, rfl⟩ := Nat.dvd_of_mod_eq_zero height
        rw [show 10 * (8 * m) = 5 * m * 2 ^ 4 by ring]
        exact representable_mul_two_pow (by omega) (by decide)
    refine iff_of_true (div_ten_of_representable hrepresentable hten) ?_
    unfold LosesTenth
    omega
  · -- What is left has a tenfold of more bits than fit, and is no power of two.
    have hcase {j k : Nat} := div_ten_eq_iff_roundHalfEven (n := n) (j := j) (k := k)
    have hnear (k : Nat) := roundHalfEven_near (a := 10 * n) (Nat.two_pow_pos k)
    unfold LosesTenth
    rcases Nat.lt_or_ge n (2 ^ 51) with h51 | h51
    · rw [hcase (j := 2) (k := 2)] <;> try omega
      have := hnear 2
      omega
    rcases Nat.lt_or_ge n (2 ^ 52) with h52 | h52
    · rcases Nat.lt_or_ge (10 * n) (2 ^ 55) with h55 | h55
      · rw [hcase (j := 1) (k := 2)] <;> try omega
        have := hnear 2
        omega
      · rw [hcase (j := 1) (k := 3)] <;> try omega
        have := hnear 3
        omega
    · rcases Nat.lt_or_ge (10 * n) (2 ^ 56) with h56 | h56
      · rw [hcase (j := 0) (k := 3)] <;> try omega
        have := hnear 3
        omega
      · rw [hcase (j := 0) (k := 4)] <;> try omega
        have := hnear 4
        have hresidue : n % 8 = 1 ∨ n % 8 = 2 ∨ n % 8 = 3 ∨ n % 8 = 4 ∨ n % 8 = 5 ∨ n % 8 = 6 ∨
            n % 8 = 7 := by omega
        rcases hresidue with h | h | h | h | h | h | h <;> omega

end Turnstile.Binary64
