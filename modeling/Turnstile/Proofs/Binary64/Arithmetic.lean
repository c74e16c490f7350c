import Turnstile.Proofs.Binary64.Rounding

/-!
# Products and quotients of positive numbers

A positive finite number is given by its word.  A product or a quotient of two of them is the
exact result, rounded once.  A whole number that is itself a binary64 number is not rounded at
all; these are all up to `2 ^ 53`, and multiples of powers of two beyond.

Main definitions:

- `Binary64.Representable`: a whole number that is a binary64 number.

Main results:

- `Binary64.mul_ofParts`, `Binary64.div_ofParts`: products and quotients by words.
- `Binary64.representable_mul_two_pow`: whole numbers that are not rounded.
- `Binary64.ofNat_of_units`: such a number is exact.
-/

namespace Turnstile.Binary64

variable {a b n word : Nat} {s t : Bool}

/-! ## Parts -/

/-- A sign and a word below the sign bit make up the bits. -/
theorem toNat_bits_ofParts (hword : word < signBit) :
    (ofParts s word).bits.toNat = if s then signBit + word else word := by
  unfold ofParts
  rw [UInt64.toNat_ofNat']
  unfold signBit at *
  split <;> omega

theorem magnitude_ofParts (hword : word < signBit) : (ofParts s word).magnitude = word := by
  unfold magnitude
  rw [toNat_bits_ofParts hword]
  unfold signBit at *
  split <;> omega

theorem negative_ofParts (hword : word < signBit) : (ofParts s word).negative = s := by
  unfold negative
  rw [toNat_bits_ofParts hword]
  cases s
  · simpa using hword
  · simp

theorem lt_signBit_of_le (hword : word ≤ infinityWord) : word < signBit :=
  Nat.lt_of_le_of_lt hword (by decide)

/-- A number is its sign and its word. -/
theorem ofParts_negative_magnitude (x : Binary64) : ofParts x.negative x.magnitude = x := by
  obtain ⟨bits⟩ := x
  have hbits : bits.toNat < 2 * signBit := bits.toNat_lt
  unfold ofParts negative magnitude
  congr 1
  rw [← UInt64.toNat_inj, UInt64.toNat_ofNat']
  simp only [decide_eq_true_eq]
  unfold signBit at *
  split <;> omega

/-- Numbers with one sign are told apart by their words. -/
theorem ofParts_inj (ha : a ≤ infinityWord) (hb : b ≤ infinityWord) :
    ofParts s a = ofParts s b ↔ a = b := by
  refine ⟨fun h => ?_, fun h => h ▸ rfl⟩
  rw [← magnitude_ofParts (s := s) (lt_signBit_of_le ha), h,
    magnitude_ofParts (lt_signBit_of_le hb)]

theorem neg_ofParts (hword : word < signBit) : (ofParts s word).neg = ofParts (!s) word := by
  rw [neg, negative_ofParts hword, magnitude_ofParts hword]

theorem magnitude_lt (x : Binary64) : x.magnitude < signBit :=
  Nat.mod_lt _ (by decide)

/-- The other sign of the other sign is the sign. -/
theorem neg_neg (x : Binary64) : x.neg.neg = x := by
  rw [neg, neg, negative_ofParts x.magnitude_lt, magnitude_ofParts x.magnitude_lt, Bool.not_not,
    ofParts_negative_magnitude]

theorem neg_inj {x y : Binary64} : x.neg = y.neg ↔ x = y :=
  ⟨fun h => by rw [← neg_neg x, h, neg_neg], fun h => h ▸ rfl⟩

theorem isFinite_iff {x : Binary64} : x.isFinite = true ↔ x.magnitude < infinityWord :=
  decide_eq_true_iff

/-- A number whose word is below the infinity is finite. -/
theorem isFinite_ofParts (hword : word < infinityWord) : (ofParts s word).isFinite = true := by
  rwa [isFinite_iff, magnitude_ofParts (lt_signBit_of_le hword.le)]

theorem isFinite_neg {x : Binary64} (hx : x.isFinite = true) : x.neg.isFinite = true :=
  isFinite_ofParts (isFinite_iff.mp hx)

/-- A finite word is neither the infinity nor beyond it. -/
theorem class_ofParts (hword : word < infinityWord) :
    (ofParts s word).isNaN = false ∧ (ofParts s word).isInfinite = false ∧
      ((ofParts s word).isZero = true ↔ word = 0) := by
  unfold isNaN isInfinite isZero
  rw [magnitude_ofParts (lt_signBit_of_le hword.le)]
  refine ⟨?_, ?_, ?_⟩
  · simpa using hword.le
  · simpa using hword.ne
  · simp

/-! ## Products and quotients -/

theorem scaled_ofParts (hword : word ≤ infinityWord) : (ofParts s word).scaled = units word := by
  unfold scaled units
  rw [magnitude_ofParts (lt_signBit_of_le hword)]

/-- A product is rounded once. -/
theorem mul_ofParts (ha : a < infinityWord) (hb : b < infinityWord) :
    (ofParts s a).mul (ofParts t b) =
      ofParts (s != t) (nearest (units a * units b) unitsInOne) := by
  obtain ⟨hnanA, hinfA, -⟩ := class_ofParts (s := s) ha
  obtain ⟨hnanB, hinfB, -⟩ := class_ofParts (s := t) hb
  unfold mul
  simp [hnanA, hinfA, hnanB, hinfB, scaled_ofParts, negative_ofParts, lt_signBit_of_le, ha.le,
    hb.le]

/-- A quotient by a number other than zero is rounded once. -/
theorem div_ofParts (ha : a < infinityWord) (hb : b < infinityWord) (hpos : 0 < b) :
    (ofParts s a).div (ofParts t b) =
      ofParts (s != t) (nearest (units a * unitsInOne) (units b)) := by
  obtain ⟨hnanA, hinfA, -⟩ := class_ofParts (s := s) ha
  obtain ⟨hnanB, hinfB, hzeroB⟩ := class_ofParts (s := t) hb
  have hzeroB : (ofParts t b).isZero = false := by simpa [hpos.ne'] using hzeroB
  unfold div
  simp [hnanA, hinfA, hnanB, hinfB, hzeroB, scaled_ofParts, negative_ofParts, lt_signBit_of_le,
    ha.le, hb.le]

/-! ## Whole numbers -/

/-- A whole number that is itself a binary64 number. -/
def Representable (n : Nat) : Prop :=
  ∃ word < infinityWord, units word = n * unitsInOne

/-- A number of at most fifty-three bits times a power of two is the number of a word. -/
theorem exists_units_eq {m q : Nat} (hm : m ≤ 2 * hiddenBit) : ∃ word, units word = m * 2 ^ q := by
  induction q generalizing m with
  | zero => exact ⟨0 * hiddenBit + m, units_binade (Or.inr rfl) hm⟩
  | succ q ih =>
      rcases Nat.lt_or_ge m hiddenBit with hsmall | hlarge
      · -- There is room for one more bit in the significand.
        obtain ⟨word, hword⟩ := ih (m := 2 * m) (by omega)
        exact ⟨word, by rw [hword, Nat.pow_succ]; ring⟩
      · exact ⟨(q + 1) * hiddenBit + m, units_binade (Or.inl hlarge) hm⟩

/-- A number of at most fifty-three bits is exact, and so are its first doubles. -/
theorem representable_mul_two_pow {m k : Nat} (hm : m ≤ 2 ^ 53) (hk : k ≤ 64) :
    Representable (m * 2 ^ k) := by
  obtain ⟨i, -, hi⟩ := exists_unitsInOne_eq
  obtain ⟨word, hword⟩ := exists_units_eq (q := k + i) (show m ≤ 2 * hiddenBit from hm)
  have hunits : units word = m * 2 ^ k * unitsInOne := by
    rw [hword, hi, Nat.pow_add, Nat.mul_assoc]
  refine ⟨word, ?_, hunits⟩
  have hlimit : 2 ^ 53 * 2 ^ 64 * unitsInOne < units infinityWord := by decide +kernel
  rw [← strictMono_units.lt_iff_lt, hunits]
  refine Nat.lt_of_le_of_lt (Nat.mul_le_mul_right _ ?_) hlimit
  exact Nat.mul_le_mul hm (Nat.pow_le_pow_right (by decide) hk)

theorem representable_of_le (hn : n ≤ 2 ^ 53) : Representable n := by
  simpa using representable_mul_two_pow hn (Nat.zero_le 64)

/-- The first powers of ten are exact, since those of five have few bits. -/
theorem representable_pow_ten {k : Nat} (hk : k ≤ 22) : Representable (10 ^ k) := by
  have hfive : 5 ^ k ≤ 2 ^ 53 :=
    Nat.le_trans (Nat.pow_le_pow_right (by decide) hk) (by decide : 5 ^ 22 ≤ 2 ^ 53)
  have h := representable_mul_two_pow hfive (by omega : k ≤ 64)
  rwa [← Nat.mul_pow] at h

/-- A whole number with at most as many digits as fit is not rounded to the infinity. -/
theorem nearest_lt_of_le_pow_ten {k : Nat} (hn : n ≤ 10 ^ k) (hk : k ≤ 308) :
    nearest (n * unitsInOne) 1 < infinityWord := by
  have hmost : nearest (10 ^ 308 * unitsInOne) 1 < infinityWord := by decide +kernel
  have hpow {i j : Nat} (h : i ≤ j) : 10 ^ i ≤ 10 ^ j := Nat.pow_le_pow_right (by decide) h
  refine Nat.lt_of_le_of_lt (nearest_le_nearest Nat.one_pos Nat.one_pos ?_) hmost
  rw [Nat.cast_one, div_one, div_one, Nat.cast_le]
  exact Nat.mul_le_mul_right unitsInOne (hn.trans (hpow hk))

/-- A whole number that is exact is not rounded. -/
theorem ofNat_of_units (hword : word < infinityWord) (hunits : units word = n * unitsInOne) :
    ofNat n = ofParts false word := by
  rw [ofNat, ← hunits, nearest_units hword]

end Turnstile.Binary64
