import Mathlib.Algebra.Order.Field.Power
import Mathlib.Tactic.LinearCombination
import Turnstile.Binary64.Shortest
import Turnstile.Proofs.Binary64.Rounding

/-!
# Shortest digits round to their number

The digits that are written for a number stand for a decimal value that is rounded to it.  The
interval of such values is longer than a step of the grid of seventeen digits, so one of the two
neighbours on that grid lies in it, and the search comes to an end there or before.

Main definitions:

- `Binary64.decimalUnits`: a decimal value in units of `2 ^ -1074`.

Main results:

- `Binary64.roundsTo_iff`: the test for a candidate.
- `Binary64.attracts_shortest`: the digits of a finite number are rounded to the number.
- `Binary64.shortest_of_integer`: the digits of a whole number are its own.
-/

namespace Turnstile.Binary64

/-! ## Decimal values -/

/-- The value `c * 10 ^ e` in units of `2 ^ -1074`. -/
def decimalUnits (c : Nat) (e : Int) : Rat :=
  c * 10 ^ e * unitsInOne

variable {c a d word : Nat} {e : Int}

/-- A power of ten is a whole number or one over a whole number. -/
theorem eq_toNat_or_neg_toNat (e : Int) :
    (0 ≤ e ∧ (10 : Rat) ^ e = (Nat.pow 10 e.toNat : Nat)) ∨
      (¬0 ≤ e ∧ (10 : Rat) ^ e * (Nat.pow 10 (-e).toNat : Nat) = 1) := by
  by_cases he : 0 ≤ e
  · obtain ⟨k, rfl⟩ := Int.eq_ofNat_of_zero_le he
    exact Or.inl ⟨he, by simp⟩
  · obtain ⟨k, hk⟩ := Int.eq_ofNat_of_zero_le (Int.le_of_lt (Int.neg_pos_of_neg (Int.not_le.mp he)))
    obtain rfl : e = -k := by omega
    exact Or.inr ⟨he, by simp⟩

/-- Decimal values are compared exactly. -/
theorem compareDecimal_eq_cmp (hd : 0 < d) :
    compareDecimal c e a d = cmp (c * 10 ^ e : Rat) (a / d) := by
  have hdRat : (0 : Rat) < d := by exact_mod_cast hd
  have hcast (m n : Nat) : compare m n = cmp (m : Rat) n := by
    rw [← cmp_eq_compare, (Nat.strictMono_cast (α := Rat)).cmp_map_eq]
  unfold compareDecimal
  rcases eq_toNat_or_neg_toNat e with ⟨he, hpow⟩ | ⟨he, hpow⟩
  · have hleft : ((c * Nat.pow 10 e.toNat * d : Nat) : Rat) = c * 10 ^ e * d := by
      rw [hpow]
      push_cast
      rfl
    rw [if_pos he, hcast, hleft, ← cmp_mul_pos_right hdRat (c * 10 ^ e),
      div_mul_cancel₀ _ hdRat.ne']
  · rw [if_neg he, hcast]
    generalize Nat.pow 10 (-e).toNat = p at hpow ⊢
    have hp : (0 : Rat) < d * p := by
      have : (0 : Rat) < p := by
        by_contra hzero
        obtain rfl : p = 0 := by simpa using hzero
        simp at hpow
      positivity
    have hleft : ((c * d : Nat) : Rat) = c * 10 ^ e * (d * p) := by
      push_cast
      linear_combination (-(c : Rat) * d) * hpow
    have hright : ((a * p : Nat) : Rat) = a / d * (d * p) := by
      push_cast
      field_simp
    rw [← cmp_mul_pos_right hp (c * 10 ^ e), hleft, hright]

/-- The whole part of a quotient by a power of ten. -/
theorem floorDecimal_spec (hd : 0 < d) :
    (floorDecimal a d e * 10 ^ e : Rat) ≤ a / d ∧
      (a / d : Rat) < (floorDecimal a d e + 1) * 10 ^ e := by
  have hdRat : (0 : Rat) < d := by exact_mod_cast hd
  have hfloor (m n : Nat) (hn : 0 < n) :
      ((m / n : Nat) * n : Rat) ≤ m ∧ (m : Rat) < ((m / n : Nat) + 1) * n := by
    exact ⟨by exact_mod_cast Nat.div_mul_le_self m n,
      by exact_mod_cast Nat.lt_mul_of_div_lt (Nat.lt_succ_self _) hn⟩
  rw [le_div_iff₀ hdRat, div_lt_iff₀ hdRat]
  unfold floorDecimal
  rcases eq_toNat_or_neg_toNat e with ⟨he, hpow⟩ | ⟨he, hpow⟩
  · rw [if_pos he, hpow]
    have h := hfloor a (d * Nat.pow 10 e.toNat) (Nat.mul_pos hd (Nat.pow_pos (by decide)))
    push_cast at h ⊢
    constructor
    · linarith only [h.1]
    · linarith only [h.2]
  · rw [if_neg he]
    have h := hfloor (a * Nat.pow 10 (-e).toNat) d hd
    have hp : (0 : Rat) < (10 : Rat) ^ e := by positivity
    generalize Nat.pow 10 (-e).toNat = p at hpow h ⊢
    generalize a * p / d = q at h ⊢
    push_cast at h ⊢
    constructor
    · have := mul_le_mul_of_nonneg_right h.1 hp.le
      nlinarith only [this, hpow]
    · have := mul_lt_mul_of_pos_right h.2 hp
      nlinarith only [this, hpow]

/-- A decimal value with a power that divides. -/
theorem decimalUnits_of_neg (he : e < 0) :
    decimalUnits c e = c * unitsInOne / 10 ^ e.natAbs := by
  have hpow : (10 : Rat) ^ e = ((10 : Rat) ^ e.natAbs)⁻¹ := by
    rw [← zpow_natCast, ← zpow_neg]
    congr 1
    omega
  rw [decimalUnits, hpow]
  ring

/-- A decimal value with a power that multiplies. -/
theorem decimalUnits_of_nonneg (he : 0 ≤ e) :
    decimalUnits c e = c * 10 ^ e.natAbs * unitsInOne := by
  rw [decimalUnits, ← zpow_natCast, Int.natAbs_of_nonneg he]

/-! ## Values that round to a word -/

/-- The exponent goes up by one where the units double. -/
theorem exponent_succ (word : Nat) :
    exponent (word + 1) =
      if (word + 1) % hiddenBit = 0 ∧ 0 < exponent (word + 1) then exponent word + 1
      else exponent word := by
  unfold exponent hiddenBit
  split <;> omega

/-- The interval of values that round to a word goes from midpoint to midpoint. -/
theorem roundingInterval_succ (word : Nat) :
    ((roundingInterval (word + 1)).1 / (4 * unitsInOne : Nat) : Rat) =
        midpoint word / unitsInOne ∧
      ((roundingInterval (word + 1)).2 / (4 * unitsInOne : Nat) : Rat) =
        midpoint (word + 1) / unitsInOne := by
  have hstep := units_succ word
  have hnext := units_succ (word + 1)
  have hunits : significand (word + 1) <<< exponent (word + 1) = units (word + 1) := rfl
  have hbelow : (if (word + 1) % hiddenBit = 0 ∧ 0 < exponent (word + 1)
      then 1 <<< exponent (word + 1) else 2 <<< exponent (word + 1)) = 2 * 2 ^ exponent word := by
    have hexponent := exponent_succ word
    split at hexponent
    · rw [if_pos ‹_›, hexponent, Nat.shiftLeft_eq, Nat.pow_succ', Nat.one_mul]
    · rw [if_neg ‹_›, hexponent, Nat.shiftLeft_eq]
  have hlow : (roundingInterval (word + 1)).1 = 2 * (units word + units (word + 1)) := by
    rw [roundingInterval, hunits, hbelow]
    omega
  have hhigh : (roundingInterval (word + 1)).2 = 2 * (units (word + 1) + units (word + 1 + 1)) := by
    rw [roundingInterval, hunits, Nat.shiftLeft_eq 2]
    omega
  rw [hlow, hhigh, midpoint, midpoint]
  push_cast
  constructor <;> field_simp <;> ring

/-- The test for a candidate: whether the word is the nearest to it. -/
theorem roundsTo_iff (hword : 0 < word) :
    roundsTo word c e = true ↔ Attracts word (decimalUnits c e) := by
  obtain ⟨earlier, rfl⟩ := Nat.exists_eq_add_one.mpr hword
  have hunit : 0 < 4 * unitsInOne := Nat.mul_pos (by decide) unitsInOne_pos
  obtain ⟨hlow, hhigh⟩ := roundingInterval_succ earlier
  have hattracts (v : Rat) : Attracts (earlier + 1) v ↔
      Beyond v earlier ∧ ¬Beyond v (earlier + 1) :=
    ⟨fun h => ⟨h.lower earlier rfl, h.upper⟩,
      fun h => ⟨fun _ hsame => Nat.succ_inj.mp hsame ▸ h.1, h.2⟩⟩
  have hscaled (m : Nat) : cmp (c * 10 ^ e : Rat) (midpoint m / unitsInOne) =
      cmp (decimalUnits c e) (midpoint m) := by
    rw [← cmp_mul_pos_right cast_unitsInOne_pos, div_mul_cancel₀ _ cast_unitsInOne_pos.ne']
    rfl
  have hbelow : compareDecimal c e (roundingInterval (earlier + 1)).1 (4 * unitsInOne) =
      cmp (decimalUnits c e) (midpoint earlier) := by
    rw [compareDecimal_eq_cmp hunit, hlow, hscaled]
  have habove : compareDecimal c e (roundingInterval (earlier + 1)).2 (4 * unitsInOne) =
      cmp (decimalUnits c e) (midpoint (earlier + 1)) := by
    rw [compareDecimal_eq_cmp hunit, hhigh, hscaled]
  have horder : midpoint earlier < midpoint (earlier + 1) :=
    strictMono_midpoint (Nat.lt_succ_self _)
  unfold roundsTo
  dsimp only
  rw [hbelow, habove, hattracts, Beyond, Beyond]
  generalize decimalUnits c e = v
  rcases lt_trichotomy v (midpoint earlier) with hless | rfl | hmore
  · rw [hless.cmp_eq_lt, (hless.trans horder).cmp_eq_lt]
    simp [hless.not_gt, hless.ne']
  · rw [cmp_self_eq_eq, horder.cmp_eq_lt]
    simp [horder.not_gt, horder.ne']
    omega
  rw [hmore.cmp_eq_gt]
  rcases lt_trichotomy v (midpoint (earlier + 1)) with hless | rfl | hmore'
  · rw [hless.cmp_eq_lt]
    simp [hmore, hless.not_gt, hless.ne']
  · rw [cmp_self_eq_eq]
    simp [hmore]
  · rw [hmore'.cmp_eq_gt]
    simp [hmore']

/-! ## The grid of seventeen digits -/

/-- The values that round to a number spread over more than `2 ^ -53` of it. -/
theorem units_lt_spread (word : Nat) :
    (units (word + 1) : Rat) < 2 ^ 53 * (midpoint (word + 1) - midpoint word) := by
  have hstep := units_succ word
  have hnext := units_succ (word + 1)
  have hunits : 2 * units (word + 1) < 2 ^ 53 * (2 ^ exponent word + 2 ^ exponent (word + 1)) := by
    have hlt := units_lt (word + 1)
    have heq := units_eq (word + 1)
    have hcarry := exponent_succ word
    unfold hiddenBit at hlt
    split at hcarry
    · rename_i hfull
      -- The lower half of the interval is half as long, and the significand is the least one.
      have hleast : significand (word + 1) = hiddenBit := by
        rw [significand, if_neg, hfull.1, Nat.add_zero]
        have hexponent : exponent (word + 1) = (word + 1) / hiddenBit - 1 := rfl
        have hdiv := Nat.div_eq_zero_iff (a := word + 1) (b := hiddenBit)
        omega
      rw [heq, hleast, hcarry, Nat.pow_succ']
      unfold hiddenBit
      have := Nat.two_pow_pos (exponent word)
      omega
    · rw [hcarry] at hlt ⊢
      omega
  have hcast : (2 * units (word + 1) : Rat) <
      2 ^ 53 * (2 ^ exponent word + 2 ^ exponent (word + 1)) := by
    exact_mod_cast hunits
  rw [midpoint, midpoint, hnext, hstep]
  push_cast
  rw [hstep] at hcast
  push_cast at hcast
  linarith only [hcast]

/-- A neighbour that is found is the lower or the upper one, and rounds to the word. -/
theorem of_neighbour?_eq_some (h : neighbour? word e = some c) :
    roundsTo word c e = true ∧ c ≤ floorDecimal (units word) unitsInOne e + 1 := by
  unfold neighbour? at h
  have hunits : significand word <<< exponent word = units word := rfl
  simp only [hunits] at h
  split at h
  · rename_i hlower hupper
    obtain rfl := Option.some.inj h
    split
    · exact ⟨hupper, Nat.le_refl _⟩
    · exact ⟨hlower, Nat.le_succ _⟩
  · rename_i hlower hupper
    obtain rfl := Option.some.inj h
    exact ⟨hlower, Nat.le_succ _⟩
  · rename_i hlower hupper
    obtain rfl := Option.some.inj h
    exact ⟨hupper, Nat.le_refl _⟩
  · contradiction

/-- A neighbour is found where the lower or the upper one rounds to the word. -/
theorem isSome_neighbour? (h : roundsTo word (floorDecimal (units word) unitsInOne e) e = true ∨
    roundsTo word (floorDecimal (units word) unitsInOne e + 1) e = true) :
    (neighbour? word e).isSome = true := by
  have hunits : significand word <<< exponent word = units word := rfl
  unfold neighbour?
  simp only [hunits]
  split
  · rfl
  · rfl
  · rfl
  · simp_all

/-- A value strictly between the midpoints around a word rounds to it. -/
theorem attracts_of_between {earlier : Nat} {v : Rat} (hlow : midpoint earlier < v)
    (hhigh : v < midpoint (earlier + 1)) : Attracts (earlier + 1) v where
  lower := by
    rintro _ hsame
    obtain rfl := Nat.succ_inj.mp hsame
    exact beyond_of_lt hlow
  upper := not_beyond_of_lt hhigh

/-- A grid finer than the values that round to the word has a neighbour. -/
theorem isSome_neighbour?_of_fine {earlier : Nat}
    (hfine : 10 ^ e * unitsInOne < midpoint (earlier + 1) - midpoint earlier) :
    (neighbour? (earlier + 1) e).isSome = true := by
  obtain ⟨hfloor, hceil⟩ := floorDecimal_spec (a := units (earlier + 1)) (e := e) unitsInOne_pos
  rw [le_div_iff₀ cast_unitsInOne_pos] at hfloor
  rw [div_lt_iff₀ cast_unitsInOne_pos] at hceil
  have hlow := midpoint_lt_units_succ earlier
  have hhigh := units_lt_midpoint (earlier + 1)
  refine isSome_neighbour? ?_
  simp only [roundsTo_iff (Nat.succ_pos earlier)]
  generalize floorDecimal (units (earlier + 1)) unitsInOne e = f at hfloor hceil ⊢
  have hsucc : decimalUnits (f + 1) e = decimalUnits f e + 10 ^ e * unitsInOne := by
    unfold decimalUnits
    push_cast
    ring
  have hf : decimalUnits f e ≤ units (earlier + 1) := hfloor
  have hf' : (units (earlier + 1) : Rat) < decimalUnits (f + 1) e := by
    unfold decimalUnits
    push_cast
    exact hceil
  rcases lt_or_ge (midpoint earlier) (decimalUnits f e) with hin | hout
  · exact Or.inl (attracts_of_between hin (lt_of_le_of_lt hf hhigh))
  · refine Or.inr (attracts_of_between (hlow.trans hf') ?_)
    linarith only [hsucc, hout, hfine]

/-! ## The decimal exponent -/

/-- The decimal digits of a number, counted. -/
theorem decimalLength_spec {fuel n : Nat} (hpos : 0 < n) (hfuel : n < 10 ^ fuel) :
    ∃ length, decimalLength fuel n = length + 1 ∧ 10 ^ length ≤ n ∧ n < 10 ^ (length + 1) := by
  induction fuel generalizing n with
  | zero => omega
  | succ fuel ih =>
      rw [decimalLength, if_neg hpos.ne']
      rcases Nat.lt_or_ge n 10 with hlast | hmore
      · refine ⟨0, ?_, hpos, by omega⟩
        rw [Nat.div_eq_of_lt hlast]
        cases fuel <;> rfl
      · obtain ⟨length, hlength, hlow, hhigh⟩ := ih (n := n / 10) (by omega) (by
          rw [Nat.pow_succ] at hfuel
          omega)
        refine ⟨length + 1, by rw [hlength], ?_, ?_⟩
        · rw [Nat.pow_succ]
          omega
        · rw [Nat.pow_succ]
          omega

/-- How far the decimal exponent is shifted while the digits are counted. -/
theorem exists_shift : ∃ k : Nat, k = 330 ∧ unitsInOne ≤ 10 ^ k ∧
    units infinityWord * 10 ^ k < 10 ^ 700 * unitsInOne :=
  ⟨_, rfl, by decide +kernel, by decide +kernel⟩

/-- The decimal exponent of a finite number, and how low it can be. -/
theorem decimalExponent_spec (hword : 0 < word) (hfinite : word < infinityWord) :
    -329 ≤ decimalExponent (units word) ∧
      (10 : Rat) ^ (decimalExponent (units word) - 1) ≤ units word / unitsInOne ∧
      (units word / unitsInOne : Rat) < 10 ^ decimalExponent (units word) := by
  have hunits : 0 < units word := by
    rw [← units_zero]
    exact strictMono_units hword
  have hbound : units word < units infinityWord := strictMono_units hfinite
  obtain ⟨k, hk, hsmall, hlarge⟩ := exists_shift
  have hpos : 0 < units word * 10 ^ k / unitsInOne :=
    Nat.div_pos (Nat.le_trans hsmall (Nat.le_mul_of_pos_left _ hunits)) unitsInOne_pos
  have hfuel : units word * 10 ^ k / unitsInOne < 10 ^ 700 := by
    rw [Nat.div_lt_iff_lt_mul unitsInOne_pos]
    exact Nat.lt_of_le_of_lt (Nat.mul_le_mul_right _ hbound.le) hlarge
  obtain ⟨length, hlength, hlow, hhigh⟩ := decimalLength_spec hpos hfuel
  have htop : decimalExponent (units word) = (length : Int) + 1 - k := by
    unfold decimalExponent
    rw [← hk, Nat.pow_eq, hlength, hk]
    rfl
  rw [Nat.le_div_iff_mul_le unitsInOne_pos] at hlow
  rw [Nat.div_lt_iff_lt_mul unitsInOne_pos] at hhigh
  have hlow : (10 ^ length * unitsInOne : Rat) ≤ units word * 10 ^ k := by exact_mod_cast hlow
  have hhigh : (units word * 10 ^ k : Rat) < 10 ^ (length + 1) * unitsInOne := by
    exact_mod_cast hhigh
  have hten : (10 : Rat) ≠ 0 := by norm_num
  have hleast : -329 ≤ (length : Int) + 1 - k := by
    clear * - hk
    omega
  rw [htop, le_div_iff₀ cast_unitsInOne_pos, div_lt_iff₀ cast_unitsInOne_pos,
    show (length : Int) + 1 - k - 1 = length - k by omega,
    show (length : Int) + 1 - k = (length + 1 : Nat) - k by omega,
    zpow_sub₀ hten, zpow_sub₀ hten, zpow_natCast, zpow_natCast, zpow_natCast]
  refine ⟨hleast, ?_, ?_⟩
  · rw [div_mul_eq_mul_div, div_le_iff₀ (by positivity)]
    exact hlow
  · rw [div_mul_eq_mul_div, lt_div_iff₀ (by positivity)]
    exact hhigh

/-! ## The search -/

/-- The search ends on a grid where a neighbour is found, at the latest on one of which it is
known. -/
theorem searchGrids_spec {top : Int} {last fuel width : Nat}
    (hlast : (neighbour? word (top - last)).isSome = true) (hwidth : width ≤ last)
    (hfuel : last < width + fuel) :
    ∃ k ≤ last, ∃ c, searchGrids word top fuel width = (c, top - k) ∧
      neighbour? word (top - k) = some c := by
  induction fuel generalizing width with
  | zero => omega
  | succ fuel ih =>
      rw [searchGrids]
      cases hfound : neighbour? word (top - width) with
      | some c => exact ⟨width, hwidth, c, rfl, hfound⟩
      | none =>
          have hne : width ≠ last := by
            rintro rfl
            simp [hfound] at hlast
          exact ih (by omega) (by omega)

/-- Dropping the zeros at the end does not change a decimal value. -/
theorem stripZeros_spec (fuel : Nat) (hc : 0 < c) :
    ∃ m k : Nat, stripZeros fuel c e = (m, e + k) ∧ 0 < m ∧ m * 10 ^ k = c := by
  induction fuel generalizing c e with
  | zero => exact ⟨c, 0, by simp [stripZeros], hc, by simp⟩
  | succ fuel ih =>
      rw [stripZeros]
      split
      · obtain ⟨m, k, hstrip, hm, hvalue⟩ := ih (c := c / 10) (e := e + 1) (by omega)
        refine ⟨m, k + 1, ?_, hm, ?_⟩
        · rw [hstrip]
          congr 1
          push_cast
          ring
        · rw [Nat.pow_succ, ← Nat.mul_assoc, hvalue]
          omega
      · exact ⟨c, 0, by simp, hc, by simp⟩

/-- A decimal value with zeros at its end. -/
theorem decimalUnits_mul_pow (c k : Nat) (e : Int) :
    decimalUnits (c * 10 ^ k) e = decimalUnits c (e + k) := by
  unfold decimalUnits
  rw [zpow_add₀ (by norm_num), zpow_natCast]
  push_cast
  ring

/-- The function as a whole, since comparing values of it runs the search. -/
theorem shortest_eq_fun : shortest = fun word =>
    let (c, e) := searchGrids word (decimalExponent (significand word <<< exponent word)) 17 1
    stripZeros 20 c e :=
  rfl

/-- The digits are those of the grid on which the search ends, less the zeros at their end. -/
theorem shortest_eq_of_searchGrids
    (h : searchGrids word (decimalExponent (units word)) 17 1 = (c, e)) :
    shortest word = stripZeros 20 c e := by
  rw [units] at h
  refine (congrFun shortest_eq_fun word).trans ?_
  rw [h]

/-- What is written for a number, when the search is known to end by a width. -/
theorem shortest_spec {last : Nat} (hword : 0 < word) (hfinite : word < infinityWord)
    (hlast : (neighbour? word (decimalExponent (units word) - last)).isSome = true)
    (hpos : 0 < last) (hle : last ≤ 17) :
    ∃ c e, shortest word = (c, e) ∧ 0 < c ∧ c ≤ 10 ^ 17 ∧
      decimalExponent (units word) - last ≤ e ∧ Attracts word (decimalUnits c e) := by
  obtain ⟨k, hk, c, hsearch, hfound⟩ := searchGrids_spec hlast hpos (by omega : last < 1 + 17)
  obtain ⟨hrounds, hc⟩ := of_neighbour?_eq_some hfound
  rw [roundsTo_iff hword] at hrounds
  have hcpos : 0 < c := by
    rcases Nat.eq_zero_or_pos c with rfl | hpositive
    · simpa [decimalUnits] using hrounds.pos hword
    · exact hpositive
  have hfloor : floorDecimal (units word) unitsInOne (decimalExponent (units word) - k) <
      10 ^ k := by
    have hle := (floorDecimal_spec (a := units word)
      (e := decimalExponent (units word) - k) unitsInOne_pos).1
    have htop := (decimalExponent_spec hword hfinite).2.2
    have hpow : (10 : Rat) ^ decimalExponent (units word) =
        10 ^ k * 10 ^ (decimalExponent (units word) - k) := by
      rw [← zpow_natCast, ← zpow_add₀ (by norm_num), add_sub_cancel]
    rw [hpow] at htop
    exact_mod_cast lt_of_mul_lt_mul_right (lt_of_le_of_lt hle htop) (by positivity)
  obtain ⟨m, j, hstrip, hm, rfl⟩ := stripZeros_spec 20 (e := decimalExponent (units word) - k) hcpos
  refine ⟨m, _, (shortest_eq_of_searchGrids hsearch).trans hstrip, hm, ?_, by omega,
    decimalUnits_mul_pow m j _ ▸ hrounds⟩
  calc m ≤ m * 10 ^ j := Nat.le_mul_of_pos_right m (Nat.pow_pos (by decide))
    _ ≤ 10 ^ k := by omega
    _ ≤ 10 ^ 17 := Nat.pow_le_pow_right (by decide) (by omega)

/-- A decimal value that rounds to a finite number has no larger power of ten. -/
theorem exponent_le_of_attracts (hc : 0 < c) (hfinite : word < infinityWord)
    (h : Attracts word (decimalUnits c e)) : e ≤ 308 := by
  have hmost : units infinityWord ≤ 10 ^ 309 * unitsInOne := by decide +kernel
  have hnext : units (word + 1) ≤ units infinityWord := strictMono_units.monotone hfinite
  have hone : (10 : Rat) ^ e * unitsInOne ≤ decimalUnits c e := by
    unfold decimalUnits
    rw [mul_assoc]
    exact le_mul_of_one_le_left (mul_nonneg (by positivity) cast_unitsInOne_pos.le)
      (Nat.one_le_cast.mpr hc)
  have hless : (10 : Rat) ^ e * unitsInOne < 10 ^ ((309 : Nat) : Int) * unitsInOne := by
    calc (10 : Rat) ^ e * unitsInOne ≤ midpoint word := hone.trans h.le_midpoint
      _ < units (word + 1) := midpoint_lt_units_succ word
      _ ≤ 10 ^ ((309 : Nat) : Int) * unitsInOne := by
        rw [zpow_natCast]
        exact_mod_cast hnext.trans hmost
  have := (zpow_lt_zpow_iff_right₀ (by norm_num : (1 : Rat) < 10)).mp
    (lt_of_mul_lt_mul_right hless cast_unitsInOne_pos.le)
  omega

/-- The digits of a finite number, which are at most seventeen or a one with zeros, have a decimal
value that is rounded to the number. -/
theorem attracts_shortest (hword : 0 < word) (hfinite : word < infinityWord) :
    ∃ c e, shortest word = (c, e) ∧ 0 < c ∧ c ≤ 10 ^ 17 ∧ -346 ≤ e ∧ e ≤ 308 ∧
      Attracts word (decimalUnits c e) := by
  obtain ⟨earlier, rfl⟩ := Nat.exists_eq_add_one.mpr hword
  obtain ⟨htop, hlow, -⟩ := decimalExponent_spec hword hfinite
  have hfine : (10 : Rat) ^ (decimalExponent (units (earlier + 1)) - (17 : Nat)) * unitsInOne <
      midpoint (earlier + 1) - midpoint earlier := by
    have hspread := units_lt_spread earlier
    have hsplit : (10 : Rat) ^ (decimalExponent (units (earlier + 1)) - 1) =
        10 ^ 16 * 10 ^ (decimalExponent (units (earlier + 1)) - (17 : Nat)) := by
      rw [← zpow_natCast, ← zpow_add₀ (by norm_num)]
      congr 1
      omega
    rw [hsplit, le_div_iff₀ cast_unitsInOne_pos] at hlow
    linarith only [hlow, hspread]
  obtain ⟨c, e, hshortest, hc, hle, he, hattracts⟩ :=
    shortest_spec hword hfinite (isSome_neighbour?_of_fine hfine) (by decide) (Nat.le_refl _)
  have hhigh : e ≤ 308 := exponent_le_of_attracts hc hfinite hattracts
  exact ⟨c, e, hshortest, hc, hle, by omega, hhigh, hattracts⟩

/-! ## Whole numbers -/

/-- The word of `2 ^ 53`. -/
theorem units_two_pow_53 : units (1076 * hiddenBit) = 2 ^ 53 * unitsInOne := by
  decide +kernel

/-- Numbers below `2 ^ 53` are no further apart than whole numbers are. -/
theorem two_pow_exponent_le (h : units word < 2 ^ 53 * unitsInOne) :
    2 ^ exponent word ≤ unitsInOne := by
  rw [← units_two_pow_53, strictMono_units.lt_iff_lt] at h
  refine two_pow_le_unitsInOne ?_
  unfold exponent hiddenBit at *
  omega

/-- Of the whole numbers only the number itself rounds to it. -/
theorem eq_of_attracts {n m : Nat} (hn : n < 2 ^ 53) (hunits : units word = n * unitsInOne)
    (hword : 0 < word) (h : Attracts word (m * unitsInOne)) : m = n := by
  obtain ⟨earlier, rfl⟩ := Nat.exists_eq_add_one.mpr hword
  have hsmall : units (earlier + 1) < 2 ^ 53 * unitsInOne := by
    rw [hunits]
    exact Nat.mul_lt_mul_of_pos_right hn unitsInOne_pos
  have hgap := two_pow_exponent_le hsmall
  have hgap' : 2 ^ exponent earlier ≤ unitsInOne :=
    two_pow_exponent_le (Nat.lt_trans (units_lt_units_succ earlier) hsmall)
  have hstep := units_succ earlier
  have hnext := units_succ (earlier + 1)
  have hupper : 2 * (m * unitsInOne) ≤ units (earlier + 1) + units (earlier + 1 + 1) := by
    have := h.le_midpoint
    rw [midpoint, le_div_iff₀ two_pos, mul_comm] at this
    exact_mod_cast this
  have hlower : units earlier + units (earlier + 1) ≤ 2 * (m * unitsInOne) := by
    have := h.midpoint_le
    rw [midpoint, div_le_iff₀ two_pos, mul_comm _ (2 : Rat)] at this
    exact_mod_cast this
  have hmore : 2 * m * unitsInOne ≤ (2 * n + 1) * unitsInOne := by
    calc 2 * m * unitsInOne = 2 * (m * unitsInOne) := Nat.mul_assoc _ _ _
      _ ≤ 2 * (n * unitsInOne) + unitsInOne := by omega
      _ = (2 * n + 1) * unitsInOne := by ring
  have hless : 2 * n * unitsInOne ≤ (2 * m + 1) * unitsInOne := by
    calc 2 * n * unitsInOne = 2 * (n * unitsInOne) := Nat.mul_assoc _ _ _
      _ ≤ 2 * (m * unitsInOne) + unitsInOne := by omega
      _ = (2 * m + 1) * unitsInOne := by ring
  have hmore := Nat.le_of_mul_le_mul_right hmore unitsInOne_pos
  have hless := Nat.le_of_mul_le_mul_right hless unitsInOne_pos
  omega

/-- A whole number below `2 ^ 53` has one to sixteen digits in front of its point. -/
theorem decimalExponent_of_integer {n : Nat} (hpos : 0 < n) (hn : n < 2 ^ 53)
    (hunits : units word = n * unitsInOne) (hword : 0 < word) (hfinite : word < infinityWord) :
    0 < decimalExponent (units word) ∧ decimalExponent (units word) ≤ 16 := by
  have hquotient : (units word / unitsInOne : Rat) = n := by
    rw [hunits, Nat.cast_mul, mul_div_cancel_right₀ _ cast_unitsInOne_pos.ne']
  obtain ⟨-, hlow, hhigh⟩ := decimalExponent_spec hword hfinite
  rw [hquotient] at hlow hhigh
  have hmono {i j : Int} : (10 : Rat) ^ i < 10 ^ j ↔ i < j :=
    zpow_lt_zpow_iff_right₀ (by norm_num)
  constructor
  · refine hmono.mp (lt_of_le_of_lt ?_ hhigh)
    rw [zpow_zero]
    exact_mod_cast hpos
  · have hbound : (10 : Rat) ^ (decimalExponent (units word) - 1) < 10 ^ (16 : Int) := by
      refine lt_of_le_of_lt hlow (lt_of_lt_of_le (b := (2 : Rat) ^ 53) ?_ (by norm_num))
      exact_mod_cast hn
    have := hmono.mp hbound
    omega

/-- On the grid of the whole numbers a whole number is its own neighbour. -/
theorem isSome_neighbour?_of_integer {n : Nat} (hunits : units word = n * unitsInOne)
    (hword : 0 < word) : (neighbour? word 0).isSome = true := by
  have hfloor : floorDecimal (units word) unitsInOne 0 = n := by
    rw [floorDecimal, if_pos (Int.le_refl 0), hunits, Int.toNat_zero, Nat.pow_eq, Nat.pow_zero,
      Nat.mul_one, Nat.mul_div_cancel _ unitsInOne_pos]
  refine isSome_neighbour? (Or.inl ?_)
  rw [hfloor, roundsTo_iff hword, decimalUnits, zpow_zero, mul_one, ← Nat.cast_mul, ← hunits]
  exact attracts_units word

/-- The digits of a whole number are its own, less the zeros at their end. -/
theorem shortest_of_integer {n : Nat} (hpos : 0 < n) (hn : n ≤ 2 ^ 53)
    (hunits : units word = n * unitsInOne) :
    ∃ c k : Nat, shortest word = (c, (k : Int)) ∧ 0 < c ∧ c * 10 ^ k = n := by
  rcases Nat.lt_or_eq_of_le hn with hless | rfl
  · have hword : 0 < word := pos_of_units hpos hunits
    have hfinite : word < infinityWord := by
      have hlarge : 2 ^ 53 * unitsInOne ≤ units infinityWord := by decide +kernel
      rw [← strictMono_units.lt_iff_lt, hunits]
      exact Nat.lt_of_lt_of_le (Nat.mul_lt_mul_of_pos_right hless unitsInOne_pos) hlarge
    obtain ⟨htop, hdigits⟩ := decimalExponent_of_integer hpos hless hunits hword hfinite
    -- The search comes to the grid of the whole numbers, if it does not end before.
    obtain ⟨last, hlast⟩ := Int.eq_ofNat_of_zero_le htop.le
    have hfound : (neighbour? word (decimalExponent (units word) - last)).isSome = true := by
      rw [hlast, Int.sub_self]
      exact isSome_neighbour?_of_integer hunits hword
    obtain ⟨c, e, hshortest, hc, -, he, hattracts⟩ :=
      shortest_spec hword hfinite hfound (by omega) (by omega)
    obtain ⟨k, rfl⟩ := Int.eq_ofNat_of_zero_le (by omega : 0 ≤ e)
    refine ⟨c, k, hshortest, hc, eq_of_attracts hless hunits hword ?_⟩
    rw [decimalUnits, zpow_natCast] at hattracts
    exact_mod_cast hattracts
  · -- Here the next whole number rounds to the word as well, but is further away.
    obtain rfl : word = 1076 * hiddenBit :=
      strictMono_units.injective (hunits.trans units_two_pow_53.symm)
    exact ⟨2 ^ 53, 0, by decide +kernel, by decide, by decide⟩

end Turnstile.Binary64
