import Mathlib.Algebra.Order.Field.Basic
import Mathlib.Tactic.FieldSimp
import Mathlib.Tactic.Linarith
import Mathlib.Tactic.Positivity
import Mathlib.Tactic.Ring
import Turnstile.Proofs.Binary64.Value

/-!
# Rounding to the nearest number

Halfway between the numbers of two words in a row lies their midpoint.  A value is rounded to a
word when it lies between the two midpoints around it, and of a value that is a midpoint the
even word is the nearest.  It is enough to know of each word whether a value goes beyond it:
rounding gives the first word that the value does not go beyond.

Main definitions:

- `Binary64.midpoint`, `Binary64.Beyond`: a value goes beyond a word.
- `Binary64.Attracts`: a word is the nearest to a value.

Main results:

- `Binary64.units_binade`, `Binary64.units_succ`: the units of words in a row.
- `Binary64.lt_nearest_iff`, `Binary64.nearest_eq_iff`: what rounding comes to.
- `Binary64.nearest_le_nearest`: rounding is monotone.
- `Binary64.nearest_units`: a number is rounded to itself.
-/

namespace Turnstile.Binary64

/-! ## Words in a row -/

theorem significand_lt (word : Nat) : significand word < 2 * hiddenBit := by
  have hmod : word % hiddenBit < hiddenBit := Nat.mod_lt _ (by decide)
  unfold significand
  split <;> omega

/-- Only the numbers of the lowest exponent have a significand without the hidden bit. -/
theorem hiddenBit_le_significand (word : Nat) :
    hiddenBit ≤ significand word ∨ exponent word = 0 := by
  unfold significand exponent
  split
  · rename_i hlow
    exact Or.inr (by rw [Nat.div_eq_of_lt hlow])
  · exact Or.inl (Nat.le_add_right _ _)

/-- A word is its exponent and its significand one behind the other, where the hidden bit of
the significand counts as one more in the exponent. -/
theorem exponent_mul_add_significand (word : Nat) :
    exponent word * hiddenBit + significand word = word := by
  unfold significand exponent hiddenBit
  split <;> omega

/-- The units of the words with one exponent are the multiples of its power of two.  The word
behind the last of them carries on. -/
theorem units_binade {q s : Nat} (hlow : hiddenBit ≤ s ∨ q = 0) (hhigh : s ≤ 2 * hiddenBit) :
    units (q * hiddenBit + s) = s * 2 ^ q := by
  rcases Nat.lt_or_ge s hiddenBit with hsmall | hlarge
  · obtain rfl : q = 0 := hlow.resolve_left (Nat.not_le.mpr hsmall)
    rw [Nat.zero_mul, Nat.zero_add, units_of_lt hsmall, Nat.pow_zero, Nat.mul_one]
  · rw [units_of_le (Nat.le_trans hlarge (Nat.le_add_left _ _))]
    rcases Nat.lt_or_ge s (2 * hiddenBit) with hroom | hfull
    · have hdiv : (q * hiddenBit + s) / hiddenBit - 1 = q := by
        unfold hiddenBit at *
        omega
      have hmod : (q * hiddenBit + s) % hiddenBit = s - hiddenBit := by
        unfold hiddenBit at *
        omega
      rw [hdiv, hmod, Nat.add_sub_cancel' hlarge]
    · obtain rfl : s = 2 * hiddenBit := Nat.le_antisymm hhigh hfull
      have hdiv : (q * hiddenBit + 2 * hiddenBit) / hiddenBit - 1 = q + 1 := by
        unfold hiddenBit
        omega
      have hmod : (q * hiddenBit + 2 * hiddenBit) % hiddenBit = 0 := by
        unfold hiddenBit
        omega
      rw [hdiv, hmod]
      ring

theorem units_eq (word : Nat) : units word = significand word * 2 ^ exponent word := by
  rw [units, Nat.shiftLeft_eq]

/-- The next word stands for one unit more in the last place. -/
theorem units_succ (word : Nat) : units (word + 1) = units word + 2 ^ exponent word := by
  have hlow := hiddenBit_le_significand word
  have hhigh := significand_lt word
  conv_lhs => rw [← exponent_mul_add_significand word, Nat.add_assoc]
  rw [units_binade (by omega) (by omega), units_eq]
  ring

/-- A number is a whole multiple of its last place, and not so large a one. -/
theorem units_lt (word : Nat) : units word < 2 * hiddenBit * 2 ^ exponent word := by
  rw [units_eq]
  exact Nat.mul_lt_mul_of_pos_right (significand_lt word) (Nat.two_pow_pos _)

theorem cast_unitsInOne_pos : (0 : Rat) < unitsInOne := by
  exact_mod_cast unitsInOne_pos

theorem two_pow_le_unitsInOne {k : Nat} (h : k ≤ 1074) : 2 ^ k ≤ unitsInOne := by
  have hshift (i : Nat) (hi : k ≤ i) : 2 ^ k ≤ 1 <<< i := by
    rw [Nat.one_shiftLeft]
    exact Nat.pow_le_pow_right (by decide) hi
  exact hshift 1074 h

/-- The units in one are a power of two, with room for small factors. -/
theorem exists_unitsInOne_eq : ∃ i, 64 ≤ i ∧ unitsInOne = 2 ^ i := by
  have hshift : ∃ i, 64 ≤ i ∧ unitsInOne = 1 <<< i := ⟨1074, by decide, rfl⟩
  simpa only [Nat.one_shiftLeft] using hshift

/-- A whole number other than zero has a word other than zero. -/
theorem pos_of_units {n word : Nat} (hn : 0 < n) (hunits : units word = n * unitsInOne) :
    0 < word := by
  rw [← strictMono_units.lt_iff_lt, units_zero, hunits]
  exact Nat.mul_pos hn unitsInOne_pos

/-! ## Midpoints -/

/-- The value halfway from a word to the next, in units of `2 ^ -1074`. -/
def midpoint (word : Nat) : Rat :=
  (units word + units (word + 1)) / 2

theorem units_lt_midpoint (word : Nat) : (units word : Rat) < midpoint word := by
  have hnext : (units word : Rat) < units (word + 1) := by
    exact_mod_cast units_lt_units_succ word
  unfold midpoint
  linarith

theorem midpoint_lt_units_succ (word : Nat) : midpoint word < units (word + 1) := by
  have hnext : (units word : Rat) < units (word + 1) := by
    exact_mod_cast units_lt_units_succ word
  unfold midpoint
  linarith

theorem strictMono_midpoint : StrictMono midpoint :=
  strictMono_nat_of_lt_succ fun word =>
    (midpoint_lt_units_succ word).trans (units_lt_midpoint (word + 1))

/-- The midpoint behind a word is its significand and a half, times its power of two. -/
theorem midpoint_binade {q s : Nat} (hlow : hiddenBit ≤ s ∨ q = 0) (hhigh : s < 2 * hiddenBit) :
    midpoint (q * hiddenBit + s) = (2 * s + 1) * 2 ^ q / 2 := by
  rw [midpoint, Nat.add_assoc, units_binade hlow (Nat.le_of_lt hhigh),
    units_binade (by omega) hhigh]
  push_cast
  ring

/-- A value goes beyond a word when it is rounded to a later one. -/
def Beyond (v : Rat) (word : Nat) : Prop :=
  midpoint word < v ∨ midpoint word = v ∧ word % 2 = 1

theorem beyond_of_lt {v : Rat} {word : Nat} (h : midpoint word < v) : Beyond v word :=
  Or.inl h

theorem Beyond.midpoint_le {v : Rat} {word : Nat} (h : Beyond v word) : midpoint word ≤ v := by
  rcases h with hlt | ⟨heq, -⟩
  · exact le_of_lt hlt
  · exact le_of_eq heq

theorem not_beyond_of_lt {v : Rat} {word : Nat} (h : v < midpoint word) : ¬Beyond v word :=
  fun hbeyond => absurd hbeyond.midpoint_le (not_le.mpr h)

/-- A greater value goes beyond as many words at least. -/
theorem Beyond.of_le {v u : Rat} {word : Nat} (h : Beyond v word) (hle : v ≤ u) :
    Beyond u word := by
  rcases hle.lt_or_eq with hlt | rfl
  · exact beyond_of_lt (lt_of_le_of_lt h.midpoint_le hlt)
  · exact h

/-! ## Rounding to a whole number -/

/-- Rounding goes beyond a whole number when the quotient is past the half behind it, or is that
half and the number is odd. -/
theorem lt_roundHalfEven_iff {a d s : Nat} (hd : 0 < d) :
    s < roundHalfEven a d ↔
      (2 * s + 1) * d < 2 * a ∨ (2 * s + 1) * d = 2 * a ∧ s % 2 = 1 := by
  have hdivision := Nat.div_add_mod a d
  have hremainder := Nat.mod_lt a hd
  have hexpand : (2 * s + 1) * d = 2 * (d * s) + d := by ring
  have hbounds : a / d ≤ roundHalfEven a d ∧ roundHalfEven a d ≤ a / d + 1 := by
    unfold roundHalfEven
    grind
  rw [hexpand]
  rcases Nat.lt_trichotomy s (a / d) with hbelow | hsame | habove
  · have hproduct : d * s + d ≤ d * (a / d) := Nat.mul_le_mul_left d hbelow
    omega
  · -- The quotient lies between the number and the next, and its remainder decides.
    unfold roundHalfEven
    rw [hsame]
    grind
  · have hproduct : d * (a / d) + d ≤ d * s := Nat.mul_le_mul_left d habove
    omega

/-- Rounding moves a quotient by half at most. -/
theorem roundHalfEven_near {a d : Nat} (hd : 0 < d) :
    2 * (roundHalfEven a d * d) ≤ 2 * a + d ∧ 2 * a ≤ 2 * (roundHalfEven a d * d) + d := by
  have hdivision : a / d * d + a % d = a := by rw [Nat.mul_comm, Nat.div_add_mod]
  have hremainder := Nat.mod_lt a hd
  have hsucc : (a / d + 1) * d = a / d * d + d := Nat.succ_mul _ _
  unfold roundHalfEven
  dsimp only
  split_ifs <;> omega

/-! ## Rounding to a word -/

variable {a d word : Nat}

/-- The exponent that rounding takes from the whole part of the quotient. -/
theorem log2_sub_bounds (m : Nat) :
    (m.log2 - 52 = 0 ∨ hiddenBit * 2 ^ (m.log2 - 52) ≤ m) ∧
      m < 2 * hiddenBit * 2 ^ (m.log2 - 52) := by
  have hupper : m < 2 ^ (m.log2 + 1) := Nat.lt_log2_self
  rcases Nat.lt_or_ge m.log2 53 with hsmall | hlarge
  · have hzero : m.log2 - 52 = 0 := by omega
    have hpow : 2 ^ (m.log2 + 1) ≤ 2 ^ 53 := Nat.pow_le_pow_right (by decide) (by omega)
    rw [hzero]
    exact ⟨Or.inl rfl, Nat.lt_of_lt_of_le hupper hpow⟩
  · have hne : m ≠ 0 := by
      rintro rfl
      simp at hlarge
    have hlower : 2 ^ m.log2 ≤ m := Nat.log2_self_le hne
    have hsplit : 2 ^ m.log2 = hiddenBit * 2 ^ (m.log2 - 52) := by
      rw [show hiddenBit = 2 ^ 52 from rfl, ← Nat.pow_add, Nat.add_sub_cancel' (by omega)]
    rw [hsplit] at hlower
    rw [Nat.pow_succ', hsplit, ← Nat.mul_assoc] at hupper
    exact ⟨Or.inr hlower, hupper⟩

/-- The significand that is rounded has fifty-three bits, or is the next power of two. -/
theorem roundHalfEven_le (hd : 0 < d) {q : Nat} (hhigh : a / d < 2 * hiddenBit * 2 ^ q) :
    roundHalfEven a (d * 2 ^ q) ≤ 2 * hiddenBit := by
  have hunit : 0 < d * 2 ^ q := Nat.mul_pos hd (Nat.two_pow_pos q)
  by_contra hover
  have hpast := (lt_roundHalfEven_iff hunit).mp (Nat.not_le.mp hover)
  have hless : a < 2 * hiddenBit * 2 ^ q * d := (Nat.div_lt_iff_lt_mul hd).mp hhigh
  have hexpand : (2 * (2 * hiddenBit) + 1) * (d * 2 ^ q) =
      2 * (2 * hiddenBit * 2 ^ q * d) + d * 2 ^ q := by ring
  omega

theorem le_roundHalfEven {q : Nat} (hlow : hiddenBit * 2 ^ q ≤ a / d) :
    hiddenBit ≤ roundHalfEven a (d * 2 ^ q) := by
  have hquotient : hiddenBit ≤ a / (d * 2 ^ q) := by
    rw [← Nat.div_div_eq_div_mul]
    exact (Nat.le_div_iff_mul_le (Nat.two_pow_pos q)).mpr hlow
  unfold roundHalfEven
  grind

/-- Among words of one exponent the significand that is rounded lies behind just those that the
value goes beyond. -/
theorem lt_roundHalfEven_iff_beyond (hd : 0 < d) {q s : Nat} (hs : hiddenBit ≤ s ∨ q = 0)
    (hbelow : s < 2 * hiddenBit) :
    s < roundHalfEven a (d * 2 ^ q) ↔ Beyond (a / d) (q * hiddenBit + s) := by
  have hunit : 0 < d * 2 ^ q := Nat.mul_pos hd (Nat.two_pow_pos q)
  have hdRat : (0 : Rat) < d := by exact_mod_cast hd
  have hparity : (q * hiddenBit + s) % 2 = s % 2 := by
    unfold hiddenBit
    omega
  have hcross : midpoint (q * hiddenBit + s) = ((2 * s + 1) * (d * 2 ^ q) : Nat) / (2 * d) := by
    rw [midpoint_binade hs hbelow]
    push_cast
    field_simp
  have hvalue : (a / d : Rat) = (2 * a : Nat) / (2 * d) := by
    push_cast
    field_simp
  rw [lt_roundHalfEven_iff hunit, Beyond, hparity, hcross, hvalue,
    div_lt_div_iff_of_pos_right (by positivity), div_left_inj' (by positivity)]
  norm_cast

/-- A value goes beyond the words with a lower exponent. -/
theorem beyond_of_lt_binade (hd : 0 < d) {q : Nat} (hlow : hiddenBit * 2 ^ q ≤ a / d)
    (hword : word < q * hiddenBit + hiddenBit) : Beyond (a / d) word := by
  have hdRat : (0 : Rat) < d := by exact_mod_cast hd
  have hunits : units (word + 1) ≤ hiddenBit * 2 ^ q := by
    rw [← units_binade (Or.inl (Nat.le_refl hiddenBit)) (by omega)]
    exact strictMono_units.monotone hword
  have hvalue : (units (word + 1) : Rat) ≤ a / d := by
    rw [le_div_iff₀ hdRat]
    exact_mod_cast (Nat.le_div_iff_mul_le hd).mp (Nat.le_trans hunits hlow)
  exact beyond_of_lt (lt_of_lt_of_le (midpoint_lt_units_succ word) hvalue)

/-- A value does not go beyond the words with a higher exponent. -/
theorem not_beyond_of_binade_le (hd : 0 < d) {q : Nat} (hhigh : a / d < 2 * hiddenBit * 2 ^ q)
    (hword : q * hiddenBit + 2 * hiddenBit ≤ word) : ¬Beyond (a / d) word := by
  have hdRat : (0 : Rat) < d := by exact_mod_cast hd
  have hunits : 2 * hiddenBit * 2 ^ q ≤ units word := by
    rw [← units_binade (Or.inl (by omega)) (Nat.le_refl _)]
    exact strictMono_units.monotone hword
  have hvalue : (a / d : Rat) < units word := by
    rw [div_lt_iff₀ hdRat]
    exact_mod_cast (Nat.div_lt_iff_lt_mul hd).mp (Nat.lt_of_lt_of_le hhigh hunits)
  exact not_beyond_of_lt (hvalue.trans (units_lt_midpoint word))

/-- The word that rounding comes to before it is kept from going past the infinity lies behind
just those words that the value goes beyond. -/
theorem lt_rounded_iff (hd : 0 < d) {q : Nat} (hlow : q = 0 ∨ hiddenBit * 2 ^ q ≤ a / d)
    (hhigh : a / d < 2 * hiddenBit * 2 ^ q) :
    word < q * hiddenBit + roundHalfEven a (d <<< q) ↔ Beyond (a / d) word := by
  rw [Nat.shiftLeft_eq]
  have hceil := roundHalfEven_le hd hhigh
  rcases Nat.lt_or_ge word (q * hiddenBit + 2 * hiddenBit) with hbelow | habove
  · by_cases hbinade : q * hiddenBit + hiddenBit ≤ word ∨ q = 0
    · obtain ⟨s, rfl⟩ : ∃ s, word = q * hiddenBit + s := by
        refine Nat.exists_eq_add_of_le (hbinade.elim (by omega) fun hq => ?_)
        rw [hq, Nat.zero_mul]
        exact Nat.zero_le _
      rw [Nat.add_lt_add_iff_left]
      exact lt_roundHalfEven_iff_beyond hd (by omega) (by omega)
    · have hq : hiddenBit * 2 ^ q ≤ a / d := hlow.resolve_left (by omega)
      have hfloor := le_roundHalfEven hq
      exact iff_of_true (by omega) (beyond_of_lt_binade hd hq (by omega))
  · exact iff_of_false (by omega) (not_beyond_of_binade_le hd hhigh habove)

/-- Rounding goes past just those words that the value goes beyond, as far as the infinity. -/
theorem lt_nearest_iff (hd : 0 < d) (hword : word < infinityWord) :
    word < nearest a d ↔ Beyond (a / d) word := by
  obtain ⟨hlow, hhigh⟩ := log2_sub_bounds (a / d)
  unfold nearest
  rw [← lt_rounded_iff hd hlow hhigh]
  simp only [Nat.lt_min]
  exact and_iff_left hword

/-- A value that does not exceed a number is not rounded past it. -/
theorem nearest_le_of_le_units (hd : 0 < d) (hword : word < infinityWord)
    (h : (a / d : Rat) ≤ units word) : nearest a d ≤ word := by
  rw [← Nat.not_lt, lt_nearest_iff hd hword]
  exact not_beyond_of_lt (lt_of_le_of_lt h (units_lt_midpoint word))

theorem nearest_le_infinityWord (a d : Nat) : nearest a d ≤ infinityWord :=
  Nat.min_le_right _ _

/-- The number that a quotient with a known exponent is rounded to. -/
theorem units_nearest (hd : 0 < d) {q : Nat} (hlow : hiddenBit * 2 ^ q ≤ a / d)
    (hhigh : a / d < 2 * hiddenBit * 2 ^ q) (hfinite : nearest a d < infinityWord) :
    units (nearest a d) = roundHalfEven a (d * 2 ^ q) * 2 ^ q := by
  have hpos : 0 < a / d := Nat.lt_of_lt_of_le (Nat.mul_pos (by decide) (Nat.two_pow_pos q)) hlow
  have hlog : (a / d).log2 = 52 + q := by
    rw [Nat.log2_eq_iff hpos.ne', Nat.pow_succ', Nat.pow_add, ← Nat.mul_assoc]
    exact ⟨hlow, hhigh⟩
  unfold nearest at hfinite ⊢
  simp only [hlog, Nat.add_sub_cancel_left, Nat.shiftLeft_eq] at hfinite ⊢
  rw [Nat.min_eq_left (by omega),
    units_binade (Or.inl (le_roundHalfEven hlow)) (roundHalfEven_le hd hhigh)]

/-- A common factor makes no difference to rounding. -/
theorem roundHalfEven_mul_right {k : Nat} (hk : 0 < k) :
    roundHalfEven (a * k) (d * k) = roundHalfEven a d := by
  have hless (x y : Nat) : x * k < y * k ↔ x < y := Nat.mul_lt_mul_right hk
  unfold roundHalfEven
  simp only [Nat.mul_div_mul_right _ _ hk, Nat.mul_mod_mul_right, ← Nat.mul_assoc, hless]

/-! ## The nearest word -/

/-- A word is the nearest to a value: the value goes beyond the words before it, and beyond no
other. -/
structure Attracts (word : Nat) (v : Rat) : Prop where
  lower : ∀ earlier, earlier + 1 = word → Beyond v earlier
  upper : ¬Beyond v word

/-- The values that round to a word lie between the midpoints around it. -/
theorem Attracts.le_midpoint {v : Rat} (h : Attracts word v) : v ≤ midpoint word :=
  not_lt.mp fun hlt => h.upper (beyond_of_lt hlt)

theorem Attracts.midpoint_le {v : Rat} (h : Attracts (word + 1) v) : midpoint word ≤ v :=
  (h.lower word rfl).midpoint_le

/-- Zero is not rounded to another word. -/
theorem Attracts.pos {v : Rat} (h : Attracts word v) (hword : 0 < word) : 0 < v := by
  obtain ⟨earlier, rfl⟩ := Nat.exists_eq_add_one.mpr hword
  exact lt_of_lt_of_le (lt_of_le_of_lt (Nat.cast_nonneg _) (units_lt_midpoint earlier))
    h.midpoint_le

/-- Rounding gives the nearest word. -/
theorem nearest_eq_iff (hd : 0 < d) (hword : word < infinityWord) :
    nearest a d = word ↔ Attracts word (a / d) := by
  have hupper := lt_nearest_iff (a := a) hd hword
  constructor
  · rintro rfl
    refine ⟨fun earlier hearlier => ?_, fun hbeyond => Nat.lt_irrefl _ (hupper.mpr hbeyond)⟩
    exact (lt_nearest_iff hd (by omega)).mp (by omega)
  · intro h
    refine Nat.le_antisymm (Nat.not_lt.mp (mt hupper.mp h.upper)) ?_
    cases word with
    | zero => exact Nat.zero_le _
    | succ earlier => exact (lt_nearest_iff hd (by omega)).mpr (h.lower earlier rfl)

/-- A greater value is not rounded to a lesser number. -/
theorem nearest_le_nearest {a' d' : Nat} (hd : 0 < d) (hd' : 0 < d')
    (h : (a / d : Rat) ≤ a' / d') : nearest a d ≤ nearest a' d' := by
  by_contra hless
  have hword : nearest a' d' < infinityWord :=
    Nat.lt_of_lt_of_le (Nat.not_le.mp hless) (nearest_le_infinityWord a d)
  have hbeyond := (lt_nearest_iff hd hword).mp (Nat.not_le.mp hless)
  exact Nat.lt_irrefl _ ((lt_nearest_iff hd' hword).mpr (hbeyond.of_le h))

/-- A word is the nearest to its own number. -/
theorem attracts_units (word : Nat) : Attracts word (units word) where
  lower := by
    rintro earlier rfl
    exact beyond_of_lt (midpoint_lt_units_succ earlier)
  upper := not_beyond_of_lt (units_lt_midpoint word)

/-- A number is rounded to itself. -/
theorem nearest_units (hword : word < infinityWord) : nearest (units word) 1 = word := by
  rw [nearest_eq_iff Nat.one_pos hword, Nat.cast_one, div_one]
  exact attracts_units word

end Turnstile.Binary64
