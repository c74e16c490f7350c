import Turnstile.Proofs.Text.Characters
import Turnstile.Text.Hex

/-!
# Hexadecimal digits read and written

A text is read as some bytes exactly when it consists of hexadecimal digits that are, once
they are in lower case, those that are written for the bytes.  So what is written is read
back, and the only freedom of a reader is the case of the letters.

Main definitions and results:

- `Hex.IsDigit`, `Hex.Spells`: digits of either case, and the texts for some bytes.
- `Hex.value?_eq_some_iff`: one digit.
- `Hex.decode?_eq_some_iff`: a text.
- `Hex.spells_encode`: what is written spells the bytes.
-/

namespace Turnstile.Text.Hex

/-! ## One digit -/

/-- A hexadecimal digit: `0` to `9`, `A` to `F` or `a` to `f`. -/
def IsDigit (c : Char) : Prop :=
  (48 ≤ c.toNat ∧ c.toNat ≤ 57) ∨ (65 ≤ c.toNat ∧ c.toNat ≤ 70) ∨ (97 ≤ c.toNat ∧ c.toNat ≤ 102)

instance (c : Char) : Decidable (IsDigit c) :=
  inferInstanceAs (Decidable (_ ∨ _))

/-- The code of a digit that is written. -/
theorem toNat_digit {n : Nat} (h : n < 16) :
    (digit n).toNat = if n < 10 then 48 + n else 87 + n := by
  unfold digit
  split <;> exact toNat_ofNat (by omega)

/-- A character has a value exactly when it is a digit, in either case, of that value. -/
theorem value?_eq_some_iff {c : Char} {n : Nat} :
    value? c = some n ↔ IsDigit c ∧ n < 16 ∧ lowerAscii c = digit n := by
  have hsame (h : n < 16) :
      lowerAscii c = digit n ↔
        (if 65 ≤ c.toNat ∧ c.toNat ≤ 90 then c.toNat + 32 else c.toNat) =
          if n < 10 then 48 + n else 87 + n := by
    rw [← Char.toNat_inj, toNat_lowerAscii, toNat_digit h]
  unfold value? IsDigit
  by_cases h : n < 16
  · rw [hsame h]
    grind
  · grind

/-- What is written for a value is its digit. -/
theorem value?_digit {n : Nat} (h : n < 16) : value? (digit n) = some n := by
  have hcode := toNat_digit h
  unfold value?
  grind

/-- A digit is no blank. -/
theorem IsDigit.isBlank_eq_false {c : Char} (h : IsDigit c) : isBlank c = false := by
  unfold IsDigit at h
  rw [← Bool.not_eq_true]
  intro hblank
  simp only [isBlank, Bool.or_eq_true, Bool.and_eq_true, decide_eq_true_eq, beq_iff_eq] at hblank
  omega

/-! ## One byte -/

/-- The byte of two values has their digits. -/
theorem encodeByte_ofNat {high low : Nat} (hhigh : high < 16) (hlow : low < 16) :
    encodeByte (UInt8.ofNat (high * 16 + low)) = [digit high, digit low] := by
  have hbyte : (UInt8.ofNat (high * 16 + low)).toNat = high * 16 + low := by
    rw [UInt8.toNat_ofNat']
    omega
  have hquotient : (high * 16 + low) / 16 = high := by omega
  have hremainder : (high * 16 + low) % 16 = low := by omega
  rw [encodeByte, hbyte, hquotient, hremainder]

/-- The values of the digits of a byte make up the byte. -/
theorem ofNat_halves (b : UInt8) : UInt8.ofNat (b.toNat / 16 * 16 + b.toNat % 16) = b := by
  rw [Nat.div_add_mod', UInt8.ofNat_toNat]

/-! ## Texts -/

@[simp]
theorem encode_nil : encode [] = [] :=
  rfl

@[simp]
theorem encode_cons (b : UInt8) (bytes : List UInt8) :
    encode (b :: bytes) = digit (b.toNat / 16) :: digit (b.toNat % 16) :: encode bytes :=
  rfl

/-- A byte is written with two digits. -/
theorem length_encode (bytes : List UInt8) : (encode bytes).length = 2 * bytes.length := by
  induction bytes with
  | nil => rfl
  | cons b bytes ih =>
      rw [encode_cons, List.length_cons, List.length_cons, List.length_cons, ih]
      omega

/-- A text spells some bytes: it consists of digits, which in lower case are those that are
written for the bytes. -/
structure Spells (text : List Char) (bytes : List UInt8) : Prop where
  digits : ∀ c ∈ text, IsDigit c
  lower : text.map lowerAscii = encode bytes

/-- A text has two digits for each byte that it spells. -/
theorem Spells.length_eq {text : List Char} {bytes : List UInt8} (h : Spells text bytes) :
    text.length = 2 * bytes.length := by
  rw [← length_encode, ← h.lower, List.length_map]

/-- The empty text spells no bytes, and nothing else. -/
theorem spells_nil_iff {bytes : List UInt8} : Spells [] bytes ↔ bytes = [] := by
  constructor
  · intro h
    cases bytes with
    | nil => rfl
    | cons b bytes =>
        have hlower := h.lower
        rw [encode_cons] at hlower
        contradiction
  · rintro rfl
    exact ⟨by simp, rfl⟩

/-- A text of two characters and more spells a byte by these two, and further bytes by the
others. -/
theorem spells_cons_cons_iff {a b : Char} {text : List Char} {bytes : List UInt8} :
    Spells (a :: b :: text) bytes ↔
      ∃ high low more, value? a = some high ∧ value? b = some low ∧ Spells text more ∧
        bytes = UInt8.ofNat (high * 16 + low) :: more := by
  constructor
  · intro h
    obtain ⟨ha, hb, hdigits⟩ : IsDigit a ∧ IsDigit b ∧ ∀ c ∈ text, IsDigit c := by
      simpa using h.digits
    have hlower := h.lower
    cases bytes with
    | nil => simp at hlower
    | cons byte more =>
        have hlt := byte.toNat_lt
        simp only [List.map_cons, encode_cons, List.cons.injEq] at hlower
        obtain ⟨hhigh, hlow, hlower⟩ := hlower
        refine ⟨byte.toNat / 16, byte.toNat % 16, more, ?_, ?_, ⟨hdigits, hlower⟩, ?_⟩
        · exact value?_eq_some_iff.mpr ⟨ha, by omega, hhigh⟩
        · exact value?_eq_some_iff.mpr ⟨hb, by omega, hlow⟩
        · rw [ofNat_halves]
  · rintro ⟨high, low, more, hhigh, hlow, hspells, rfl⟩
    obtain ⟨ha, hhigh, hfirst⟩ := value?_eq_some_iff.mp hhigh
    obtain ⟨hb, hlow, hsecond⟩ := value?_eq_some_iff.mp hlow
    constructor
    · simpa using ⟨ha, hb, hspells.digits⟩
    · have hbyte := encodeByte_ofNat hhigh hlow
      rw [encode, List.flatMap_cons, hbyte, List.map_cons, List.map_cons, hfirst, hsecond,
        hspells.lower]
      rfl

/-- What is read onto the bytes that were seen before is what the text spells. -/
theorem decodeOnto_eq_some_iff {seen : List UInt8} {text : List Char} {bytes : List UInt8} :
    decodeOnto seen text = some bytes ↔
      ∃ more, Spells text more ∧ bytes = seen.reverse ++ more := by
  fun_induction decodeOnto seen text with
  | case1 seen => simp [spells_nil_iff, eq_comm]
  | case2 seen c =>
      constructor
      · intro h
        contradiction
      · rintro ⟨more, hspells, -⟩
        have hlength := hspells.length_eq
        simp only [List.length_cons, List.length_nil] at hlength
        omega
  | case3 seen a b text high low hhigh hlow ih =>
      rw [ih]
      simp only [spells_cons_cons_iff, hhigh, hlow, Option.some.injEq]
      constructor
      · rintro ⟨more, hspells, rfl⟩
        exact ⟨_, ⟨high, low, more, rfl, rfl, hspells, rfl⟩, by simp⟩
      · rintro ⟨_, ⟨_, _, more, rfl, rfl, hspells, rfl⟩, rfl⟩
        exact ⟨more, hspells, by simp⟩
  | case4 seen a b text hnone =>
      constructor
      · intro h
        contradiction
      · rintro ⟨bytes, hspells, -⟩
        obtain ⟨high, low, -, hhigh, hlow, -⟩ := spells_cons_cons_iff.mp hspells
        exact absurd hlow (hnone high low hhigh)

/-- A text is read as the bytes that it spells. -/
theorem decode?_eq_some_iff {text : List Char} {bytes : List UInt8} :
    decode? text = some bytes ↔ Spells text bytes := by
  rw [decode?, decodeOnto_eq_some_iff]
  simp

/-- What is written for some bytes spells them. -/
theorem spells_encode (bytes : List UInt8) : Spells (encode bytes) bytes := by
  induction bytes with
  | nil => exact spells_nil_iff.mpr rfl
  | cons b bytes ih =>
      have hlt := b.toNat_lt
      rw [encode_cons, spells_cons_cons_iff]
      refine ⟨b.toNat / 16, b.toNat % 16, bytes, ?_, ?_, ih, ?_⟩
      · exact value?_digit (by omega)
      · exact value?_digit (by omega)
      · rw [ofNat_halves]

end Turnstile.Text.Hex
