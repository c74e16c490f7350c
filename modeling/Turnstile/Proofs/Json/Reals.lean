import Turnstile.Proofs.Binary64.Arithmetic
import Turnstile.Proofs.Binary64.Shortest
import Turnstile.Proofs.Json.Compact

/-!
# Real numbers in a text

A binary64 number is written with its shortest digits, laid out around a point or in front of a
power of ten.  What a reader makes of the text depends on the digits that it gathers and on the
power that is left for them, and those are the shortest digits and their power, but that a whole
number that is written out has a zero behind its point.

Main definitions:

- `RealLayout`, `RealLayout.numeral`: a number with digits around a point.
- `Binary64.written`: the digits that a reader gathers, and their power.

Main results:

- `RealLayout.number?_numeral`: a layout is read by its digits.
- `Number.exists_numeral_real`: the text of a finite number is read by its digits.
-/

namespace Turnstile.Json

open Text

/-! ## Digits -/

/-- The value of digits is gathered from the left. -/
theorem le_ofDigitChars (digits : List Char) (init : Nat) :
    init ≤ Nat.ofDigitChars 10 digits init := by
  rw [Nat.ofDigitChars_eq_ofDigitChars_zero]
  exact Nat.le_trans (Nat.le_mul_of_pos_left init (Nat.pow_pos (by decide))) (Nat.le_add_right _ _)

/-- One digit more, as a reader counts it. -/
theorem encode_digit_cons {c : Char} (hc : c.isDigit = true) (digits : List Char) :
    ∃ b, Utf8.encode (c :: digits) = b :: Utf8.encode digits ∧ Byte.isDigit b = true ∧
      ∀ init, Nat.ofDigitChars 10 (c :: digits) init =
        Nat.ofDigitChars 10 digits (init * 10 + Byte.digitValue b) := by
  obtain ⟨hbyte, hdigit, hvalue⟩ := encodeChar_of_isDigit hc
  refine ⟨UInt8.ofNat c.toNat, ?_, hdigit, fun init => ?_⟩
  · rw [Utf8.encode_cons, hbyte, List.singleton_append]
  · rw [Nat.ofDigitChars_cons, hvalue, Nat.mul_comm]
    rfl

/-- The power of digits is not beyond its limit when their value is not. -/
theorem digitsBeyondPower_eq_none {digits : List Char} (hdigits : ∀ c ∈ digits, c.isDigit = true)
    {power : Nat} (hlimit : Nat.ofDigitChars 10 digits power ≤ powerLimit) :
    digitsBeyondPower power (Utf8.encode digits) = none := by
  induction digits generalizing power with
  | nil => rfl
  | cons c digits ih =>
      obtain ⟨hc, hdigits⟩ := List.forall_mem_cons.mp hdigits
      obtain ⟨b, hbytes, -, hvalue⟩ := encode_digit_cons hc digits
      rw [hvalue] at hlimit
      rw [hbytes, digitsBeyondPower,
        if_neg (Nat.not_lt.mpr (Nat.le_trans (le_ofDigitChars digits _) hlimit)),
        ih hdigits hlimit]

/-- The value of digits as bytes. -/
theorem foldl_digitValue {digits : List Char} (hdigits : ∀ c ∈ digits, c.isDigit = true)
    (init : Nat) :
    (Utf8.encode digits).foldl (fun n d => n * 10 + Byte.digitValue d) init =
      Nat.ofDigitChars 10 digits init := by
  induction digits generalizing init with
  | nil => rfl
  | cons c digits ih =>
      obtain ⟨hc, hdigits⟩ := List.forall_mem_cons.mp hdigits
      obtain ⟨b, hbytes, -, hvalue⟩ := encode_digit_cons hc digits
      rw [hbytes, List.foldl_cons, ih hdigits, hvalue]

/-- A power within its limit is read back. -/
theorem digitsValue_digitBytes (n : Nat) : digitsValue (digitBytes n) = n := by
  have hdigits : ∀ c ∈ Nat.toDigits 10 n, c.isDigit = true :=
    fun _ hc => Nat.isDigit_of_mem_toDigits (by decide) (by decide) hc
  rw [digitsValue, digitBytes, foldl_digitValue hdigits, Nat.ofDigitChars_ten_toDigits]

theorem digitsBeyondPower_digitBytes {n : Nat} (h : n ≤ powerLimit) :
    digitsBeyondPower 0 (digitBytes n) = none := by
  refine digitsBeyondPower_eq_none
    (fun _ hc => Nat.isDigit_of_mem_toDigits (by decide) (by decide) hc) ?_
  rwa [Nat.ofDigitChars_ten_toDigits]

/-- The bytes of digits are digits. -/
theorem isDigit_of_mem_encode {digits : List Char} (hdigits : ∀ c ∈ digits, c.isDigit = true)
    {b : UInt8} (h : b ∈ Utf8.encode digits) : Byte.isDigit b = true := by
  obtain ⟨c, hc, hb⟩ := List.mem_flatMap.mp h
  obtain ⟨hbyte, hdigit, -⟩ := encodeChar_of_isDigit (hdigits c hc)
  rw [hbyte, List.mem_singleton] at hb
  exact hb ▸ hdigit

theorem length_encode_digits {digits : List Char} (hdigits : ∀ c ∈ digits, c.isDigit = true) :
    (Utf8.encode digits).length = digits.length := by
  induction digits with
  | nil => rfl
  | cons c digits ih =>
      obtain ⟨hc, hdigits⟩ := List.forall_mem_cons.mp hdigits
      obtain ⟨b, hbytes, -⟩ := encode_digit_cons hc digits
      rw [hbytes, List.length_cons, List.length_cons, ih hdigits]

/-! ## Layouts -/

/-- A number as its digits are laid out: around a point, where there are digits behind it, and in
front of a power of ten, where there is one. -/
structure RealLayout where
  whole : List Char
  fraction : List Char
  power : Option Int

namespace RealLayout

/-- The characters of a layout. -/
def chars (layout : RealLayout) : List Char :=
  layout.whole ++ (if layout.fraction = [] then [] else '.' :: layout.fraction) ++
    layout.power.elim [] fun p =>
      ['e', if p < 0 then '-' else '+'] ++ Nat.toDigits 10 p.natAbs

/-- A layout with digits alone, no zero too many, and a sign that it is no integer. -/
structure Formed (layout : RealLayout) : Prop where
  whole_ne_nil : layout.whole ≠ []
  whole_digits : ∀ c ∈ layout.whole, c.isDigit = true
  whole_lead : layout.whole.head? = some '0' → layout.whole = ['0']
  fraction_digits : ∀ c ∈ layout.fraction, c.isDigit = true
  real : layout.fraction = [] → layout.power.isSome = true

/-- The significand of a layout. -/
def digits (layout : RealLayout) : Nat :=
  Nat.ofDigitChars 10 (layout.whole ++ layout.fraction) 0

/-- The power of ten that belongs to the significand. -/
def scale (layout : RealLayout) : Int :=
  layout.power.getD 0 - layout.fraction.length

variable {layout : RealLayout}

/-- A layout behind a sign, as a literal. -/
def literal (layout : RealLayout) (negative : Bool) : Literal where
  negative := negative
  whole := Utf8.encode layout.whole
  fraction := Utf8.encode layout.fraction
  powerNegative := layout.power.any (· < 0)
  power := layout.power.elim [] fun p => digitBytes p.natAbs

/-- The literal of a layout follows the grammar. -/
theorem Formed.literal (h : layout.Formed) (negative : Bool) :
    (layout.literal negative).Formed where
  whole_ne_nil := by
    obtain ⟨c, whole, hwhole⟩ := List.exists_cons_of_ne_nil h.whole_ne_nil
    have hc := h.whole_digits c (by simp [hwhole])
    obtain ⟨b, hbytes, -⟩ := encode_digit_cons hc whole
    simp [RealLayout.literal, hwhole, hbytes]
  whole_digits := fun _ => isDigit_of_mem_encode h.whole_digits
  whole_lead := by
    intro hzero
    obtain ⟨c, whole, hwhole⟩ := List.exists_cons_of_ne_nil h.whole_ne_nil
    have hc := h.whole_digits c (by simp [hwhole])
    obtain ⟨hbyte, -, hvalue⟩ := encodeChar_of_isDigit hc
    have hrange := toNat_of_isDigit hc
    have hfirst : UInt8.ofNat c.toNat = Byte.zero := by
      simpa [RealLayout.literal, hwhole, hbyte] using hzero
    rw [hfirst, show Byte.digitValue Byte.zero = 0 from rfl] at hvalue
    have hchar : c = '0' := Char.toNat_inj.mp (show c.toNat = 48 by omega)
    have hlead := h.whole_lead (by simp [hwhole, hchar])
    simp only [RealLayout.literal, hlead]
    rfl
  fraction_digits := fun _ => isDigit_of_mem_encode h.fraction_digits
  power_digits := by
    intro b hb
    cases hpower : layout.power with
    | none => simp [RealLayout.literal, hpower] at hb
    | some p =>
        simp only [RealLayout.literal, hpower, Option.elim_some] at hb
        exact isDigit_of_mem_digitBytes hb
  unpowered := by
    cases hpower : layout.power with
    | none => simp [RealLayout.literal, hpower]
    | some p =>
        intro hnil
        simp [RealLayout.literal, hpower, digitBytes_eq_map] at hnil

/-- The letter in front of a power. -/
theorem isPowerMark_e : Byte.isPowerMark 0x65 = true := rfl

/-- A layout behind a sign is a number of a text. -/
def numeral (layout : RealLayout) (h : layout.Formed) (negative : Bool) : Numeral where
  literal := layout.literal negative
  mark := 0x65
  plus := true
  formed := h.literal negative
  marks := isPowerMark_e

/-- The characters of a layout are the bytes of its number. -/
theorem bytes_numeral (h : layout.Formed) (negative : Bool) :
    (layout.numeral h negative).bytes =
      Utf8.encode ((if negative then ['-'] else []) ++ layout.chars) := by
  have hfraction : (layout.numeral h negative).fractionBytes =
      Utf8.encode (if layout.fraction = [] then [] else '.' :: layout.fraction) := by
    have hnil : Utf8.encode layout.fraction = [] ↔ layout.fraction = [] := by
      rw [← List.length_eq_zero_iff, length_encode_digits h.fraction_digits,
        List.length_eq_zero_iff]
    simp only [Numeral.fractionBytes, numeral, RealLayout.literal, hnil]
    split
    · rfl
    · rw [Utf8.encode_cons]
      rfl
  have hpower : (layout.numeral h negative).powerBytes =
      Utf8.encode (layout.power.elim [] fun p =>
        ['e', if p < 0 then '-' else '+'] ++ Nat.toDigits 10 p.natAbs) := by
    cases hpower : layout.power with
    | none => simp [Numeral.powerBytes, numeral, RealLayout.literal, hpower]
    | some p =>
        have hnil : digitBytes p.natAbs ≠ [] := by simp [digitBytes_eq_map]
        simp only [Numeral.powerBytes, Numeral.powerSign, numeral, RealLayout.literal, hpower,
          Option.elim_some, Option.any_some, if_neg hnil, Utf8.encode_append, decide_eq_true_eq]
        split <;> rfl
  have hunsigned : (layout.numeral h negative).unsignedBytes = Utf8.encode layout.chars := by
    rw [Numeral.unsignedBytes, hfraction, hpower, chars, Utf8.encode_append, Utf8.encode_append,
      List.append_assoc]
    rfl
  rw [Numeral.bytes, hunsigned, Utf8.encode_append]
  cases negative <;> rfl

/-- The digits of a layout are all gathered. -/
theorem gather_literal (h : layout.Formed) (negative : Bool)
    (hdigits : layout.digits ≤ significandLimit) :
    gather 0 (layout.literal negative).whole = (Nat.ofDigitChars 10 layout.whole 0, []) ∧
      gather (Nat.ofDigitChars 10 layout.whole 0) (layout.literal negative).fraction =
        (layout.digits, []) := by
  rw [digits, Nat.ofDigitChars_append] at *
  exact ⟨gather_digits h.whole_digits (Nat.le_trans (le_ofDigitChars _ _) hdigits),
    gather_digits h.fraction_digits hdigits⟩

/-- The power of a layout is within its limit. -/
theorem power_literal (negative : Bool) (hpower : ∀ p ∈ layout.power, p.natAbs ≤ powerLimit) :
    digitsBeyondPower 0 (layout.literal negative).power = none ∧
      (if (layout.literal negative).powerNegative then
        -(digitsValue (layout.literal negative).power : Int)
      else digitsValue (layout.literal negative).power) = layout.power.getD 0 := by
  unfold literal
  cases hp : layout.power with
  | none => exact ⟨rfl, rfl⟩
  | some p =>
      refine ⟨digitsBeyondPower_digitBytes (hpower p hp), ?_⟩
      simp only [Option.elim_some, Option.any_some, Option.getD_some, digitsValue_digitBytes,
        decide_eq_true_eq]
      split <;> omega

/-- A layout is read by its digits and the power that is left for them. -/
theorem number?_numeral (h : layout.Formed) (negative : Bool)
    (hdigits : layout.digits ≤ significandLimit)
    (hpower : ∀ p ∈ layout.power, p.natAbs ≤ powerLimit) :
    (layout.numeral h negative).number? =
      (scale? layout.digits layout.scale).map fun x => .real (if negative then x.neg else x) := by
  obtain ⟨hwhole, hfraction⟩ := gather_literal h negative hdigits
  obtain ⟨hbeyond, hvalue⟩ := power_literal negative hpower
  have hreal : ((layout.literal negative).fraction.isEmpty &&
      (layout.literal negative).power.isEmpty) = false := by
    cases hcase : layout.fraction with
    | nil =>
        obtain ⟨p, hp⟩ := Option.isSome_iff_exists.mp (h.real hcase)
        simp [literal, hp, digitBytes_eq_map]
    | cons c rest =>
        obtain ⟨b, hbytes, -⟩ := encode_digit_cons (h.fraction_digits c (by simp [hcase])) rest
        simp [literal, hcase, hbytes]
  have hscale : (if (layout.literal negative).powerNegative then
        (([] : List UInt8).length - ((layout.literal negative).fraction.length -
          ([] : List UInt8).length) : Int) - digitsValue (layout.literal negative).power
      else (([] : List UInt8).length - ((layout.literal negative).fraction.length -
          ([] : List UInt8).length) : Int) + digitsValue (layout.literal negative).power) =
      layout.scale := by
    have hlength : (layout.literal negative).fraction.length = layout.fraction.length :=
      length_encode_digits h.fraction_digits
    rw [scale, ← hvalue, hlength]
    split <;> simp <;> ring
  rw [Numeral.number?, show (layout.numeral h negative).literal = layout.literal negative from rfl,
    Literal.value]
  simp only [hwhole, hfraction, hbeyond, hreal, hscale, Bool.false_and, Bool.false_eq_true,
    if_false]
  cases scale? layout.digits layout.scale <;> rfl

/-! ## Shortest digits -/

/-- The layout of the decimal value `c * 10 ^ e`. -/
def ofDecimal (c : Nat) (e : Int) : RealLayout :=
  let digits := Nat.toDigits 10 c
  let point := digits.length + e
  if -4 ≤ point ∧ point ≤ 16 then
    if point ≤ 0 then ⟨['0'], List.replicate (-point).toNat '0' ++ digits, none⟩
    else if digits.length ≤ point then
      ⟨digits ++ List.replicate (point.toNat - digits.length) '0', ['0'], none⟩
    else ⟨digits.take point.toNat, digits.drop point.toNat, none⟩
  else ⟨digits.take 1, digits.drop 1, some (point - 1)⟩

variable {c : Nat} {e : Int}

/-- The layout has the characters that are written. -/
theorem chars_ofDecimal (c : Nat) (e : Int) :
    (ofDecimal c e).chars =
      let digits := Nat.toDigits 10 c
      let point := digits.length + e
      if -4 ≤ point ∧ point ≤ 16 then Binary64.layPlain digits point ['.', '0']
      else Binary64.layScientific digits (point - 1) := by
  have hpos : 0 < (Nat.toDigits 10 c).length := Nat.length_toDigits_pos
  unfold ofDecimal
  dsimp only
  generalize Nat.toDigits 10 c = digits at hpos ⊢
  generalize hpoint : (digits.length : Int) + e = point
  split
  · unfold Binary64.layPlain
    split
    · simp [chars]
      rintro - rfl
      simp at hpos
    split
    · simp [chars]
    · have hdrop : digits.drop point.toNat ≠ [] := by
        rw [Ne, List.drop_eq_nil_iff]
        omega
      simp [chars, hdrop]
  · unfold Binary64.layScientific
    match digits, hpos with
    | [d], _ => simp [chars]
    | d :: d' :: rest, _ => simp [chars]

/-- The digits of a number other than zero have no zero in front. -/
theorem head?_toDigits_ne (hc : 0 < c) : (Nat.toDigits 10 c).head? ≠ some '0' :=
  fun h => hc.ne' (eq_zero_of_head?_toDigits h)

theorem isDigit_of_mem_zeros (n : Nat) : ∀ d ∈ List.replicate n '0', d.isDigit = true := by
  intro d hd
  rw [List.eq_of_mem_replicate hd]
  rfl

/-- Digits with no zero in front follow the grammar with a point behind the first of them or
later, where they go on behind it or a power of ten is given. -/
theorem formed_of_point {digits : List Char} (hlead : digits.head? ≠ some '0')
    (hdigits : ∀ d ∈ digits, d.isDigit = true) {n : Nat} (hwhole : digits.take n ≠ [])
    {power : Option Int} (hreal : digits.drop n = [] → power.isSome = true) :
    Formed ⟨digits.take n, digits.drop n, power⟩ where
  whole_ne_nil := hwhole
  whole_digits := fun _ hd => hdigits _ (List.mem_of_mem_take hd)
  whole_lead := by
    have hn : n ≠ 0 := by
      rintro rfl
      exact hwhole List.take_zero
    rw [List.head?_take, if_neg hn]
    exact fun hzero => absurd hzero hlead
  fraction_digits := fun _ hd => hdigits _ (List.mem_of_mem_drop hd)
  real := hreal

/-- The layout of a decimal value other than zero follows the grammar. -/
theorem formed_ofDecimal (hc : 0 < c) : (ofDecimal c e).Formed := by
  have hpos : 0 < (Nat.toDigits 10 c).length := Nat.length_toDigits_pos
  have hlead := head?_toDigits_ne hc
  have hdigits : ∀ d ∈ Nat.toDigits 10 c, d.isDigit = true :=
    fun _ hd => Nat.isDigit_of_mem_toDigits (by decide) (by decide) hd
  unfold ofDecimal
  dsimp only
  generalize Nat.toDigits 10 c = digits at hpos hlead hdigits ⊢
  generalize hpoint : (digits.length : Int) + e = point
  have hne : digits ≠ [] := List.ne_nil_of_length_pos hpos
  have hwhole (n : Nat) (hn : n ≠ 0) : digits.take n ≠ [] :=
    fun hnil => (List.take_eq_nil_iff.mp hnil).elim hn hne
  split
  · split
    · exact {
        whole_ne_nil := by simp
        whole_digits := isDigit_of_mem_zeros 1
        whole_lead := fun _ => rfl
        fraction_digits := List.forall_mem_append.mpr ⟨isDigit_of_mem_zeros _, hdigits⟩
        real := fun hnil => absurd (List.append_eq_nil_iff.mp hnil).2 hne }
    split
    · exact {
        whole_ne_nil := by simp [hne]
        whole_digits := List.forall_mem_append.mpr ⟨hdigits, isDigit_of_mem_zeros _⟩
        whole_lead := by
          rw [List.head?_append_of_ne_nil _ hne]
          exact fun h => absurd h hlead
        fraction_digits := isDigit_of_mem_zeros 1
        real := by simp }
    · refine formed_of_point hlead hdigits (hwhole _ (by omega)) fun hnil => ?_
      rw [List.drop_eq_nil_iff] at hnil
      omega
  · exact formed_of_point hlead hdigits (hwhole 1 (by decide)) fun _ => rfl

end RealLayout

end Turnstile.Json

namespace Turnstile.Binary64

/-- The digits that are written for a decimal value, and their power of ten: a whole number that
is written out has a zero behind its point. -/
def writtenDecimal (c : Nat) (e : Int) : Nat × Int :=
  if 0 ≤ e ∧ (Nat.toDigits 10 c).length + e ≤ 16 then (c * 10 ^ (e.toNat + 1), -1) else (c, e)

end Turnstile.Binary64

namespace Turnstile.Json.RealLayout

open Binary64 (writtenDecimal)

variable {c : Nat} {e : Int}

/-- The digits of a layout are those that are written. -/
theorem digits_scale_ofDecimal (c : Nat) (e : Int) :
    ((ofDecimal c e).digits, (ofDecimal c e).scale) = writtenDecimal c e := by
  have hpos : 0 < (Nat.toDigits 10 c).length := Nat.length_toDigits_pos
  have hvalue : Nat.ofDigitChars 10 (Nat.toDigits 10 c) 0 = c := Nat.ofDigitChars_ten_toDigits
  unfold ofDecimal writtenDecimal
  dsimp only
  generalize Nat.toDigits 10 c = digits at hpos hvalue ⊢
  split
  · split
    · rw [if_neg (by omega)]
      refine Prod.ext_iff.mpr ⟨?_, ?_⟩
      · have hzeros : Nat.ofDigitChars 10
            (['0'] ++ List.replicate (-(digits.length + e)).toNat '0') 0 = 0 := by
          rw [Nat.ofDigitChars_append, Nat.ofDigitChars_replicate_zero]
          rfl
        simp only [RealLayout.digits]
        rw [← List.append_assoc, Nat.ofDigitChars_append, hzeros, hvalue]
      · simp only [scale, List.length_append, List.length_replicate, Option.getD_none]
        omega
    split
    · rw [if_pos (by omega)]
      refine Prod.ext_iff.mpr ⟨?_, rfl⟩
      have hgap : ((digits.length + e).toNat - digits.length) + 1 = e.toNat + 1 := by omega
      simp only [RealLayout.digits]
      rw [List.append_assoc, show ['0'] = List.replicate 1 '0' from rfl,
        List.replicate_append_replicate, hgap, Nat.ofDigitChars_append, hvalue,
        Nat.ofDigitChars_replicate_zero, Nat.mul_comm]
    · rw [if_neg (by omega)]
      refine Prod.ext_iff.mpr ⟨?_, ?_⟩
      · simp only [RealLayout.digits, List.take_append_drop, hvalue]
      · simp only [scale, List.length_drop, Option.getD_none]
        omega
  · rw [if_neg (by omega)]
    refine Prod.ext_iff.mpr ⟨?_, ?_⟩
    · simp only [RealLayout.digits, List.take_append_drop, hvalue]
    · simp only [scale, List.length_drop, Option.getD_some]
      omega

/-- A power is written for the place of the point. -/
theorem power_ofDecimal {p : Int} (hp : p ∈ (ofDecimal c e).power) :
    p = (Nat.toDigits 10 c).length + e - 1 := by
  unfold ofDecimal at hp
  dsimp only at hp
  split at hp
  · split at hp
    · contradiction
    · split at hp <;> contradiction
  · exact (Option.some.inj hp).symm

end Turnstile.Json.RealLayout

namespace Turnstile.Binary64

open Json (RealLayout)

/-- The digits that are written for a number, and their power of ten. -/
def written (x : Binary64) : Nat × Int :=
  if x.isZero then (0, -1) else writtenDecimal (shortest x.magnitude).1 (shortest x.magnitude).2

variable {x : Binary64} {c : Nat} {e : Int}

theorem written_of_shortest (hx : x.isZero = false) (h : shortest x.magnitude = (c, e)) :
    x.written = writtenDecimal c e := by
  rw [written, hx, if_neg Bool.false_ne_true, h]

/-- The functions as a whole, since comparing values of them runs the search for the digits. -/
theorem shortestDigits_eq_fun : shortestDigits = fun word =>
    let (c, e) := shortest word
    let digits := Nat.toDigits 10 c
    (digits, digits.length + e) :=
  rfl

theorem toScientificText_eq_fun : toScientificText = fun x =>
    if x.isZero then x.signText ++ ['0', '.', '0']
    else
      let (digits, point) := shortestDigits x.magnitude
      x.signText ++
        if -4 ≤ point ∧ point ≤ 16 then layPlain digits point ['.', '0']
        else layScientific digits (point - 1) :=
  rfl

/-- The digits of a number and the place of its point. -/
theorem shortestDigits_of_shortest {word : Nat} (h : shortest word = (c, e)) :
    shortestDigits word = (Nat.toDigits 10 c, (Nat.toDigits 10 c).length + e) := by
  refine (congrFun shortestDigits_eq_fun word).trans ?_
  rw [h]

/-- The text of a number other than zero is laid out by its shortest digits. -/
theorem toScientificText_of_shortest (hx : x.isZero = false)
    (h : shortest x.magnitude = (c, e)) :
    x.toScientificText = x.signText ++ (RealLayout.ofDecimal c e).chars := by
  refine (congrFun toScientificText_eq_fun x).trans ?_
  rw [hx, if_neg Bool.false_ne_true, shortestDigits_of_shortest h, RealLayout.chars_ofDecimal]

/-- At most seventeen digits are written, or a one with zeros. -/
theorem writtenDecimal_le (hc : c ≤ 10 ^ 17) : (writtenDecimal c e).1 ≤ 10 ^ 17 := by
  unfold writtenDecimal
  split
  · rename_i hwhole
    have hdigits : c < 10 ^ (Nat.toDigits 10 c).length :=
      (Nat.length_toDigits_le_iff (by decide) Nat.length_toDigits_pos).mp (Nat.le_refl _)
    calc c * 10 ^ (e.toNat + 1)
        ≤ 10 ^ (Nat.toDigits 10 c).length * 10 ^ (e.toNat + 1) := Nat.mul_le_mul_right _ hdigits.le
      _ = 10 ^ ((Nat.toDigits 10 c).length + (e.toNat + 1)) := (Nat.pow_add _ _ _).symm
      _ ≤ 10 ^ 17 := Nat.pow_le_pow_right (by decide) (by omega)
  · exact hc

end Turnstile.Binary64

namespace Turnstile.Json

open Text Binary64

/-- What a reader makes of the text of a number. -/
def readBack? (x : Binary64) : Option Binary64 :=
  (scale? x.written.1 x.written.2).map fun y => if x.negative then y.neg else y

/-- The layout of zero. -/
theorem RealLayout.formed_zero : (⟨['0'], ['0'], none⟩ : RealLayout).Formed where
  whole_ne_nil := by simp
  whole_digits := List.forall_mem_singleton.mpr rfl
  whole_lead := fun _ => rfl
  fraction_digits := List.forall_mem_singleton.mpr rfl
  real := by simp

/-- A layout behind the sign of a number is read with that sign. -/
theorem exists_numeral_of_layout {x : Binary64} {layout : RealLayout} (h : layout.Formed)
    (htext : x.toScientificText = x.signText ++ layout.chars)
    (hwritten : (layout.digits, layout.scale) = x.written)
    (hdigits : layout.digits ≤ significandLimit)
    (hpower : ∀ p ∈ layout.power, p.natAbs ≤ powerLimit) :
    ∃ numeral : Numeral, numeral.bytes = Utf8.encode (Number.real x).toChars ∧
      numeral.number? = (readBack? x).map .real := by
  refine ⟨layout.numeral h x.negative, ?_, ?_⟩
  · rw [RealLayout.bytes_numeral, Number.toChars, htext]
    rfl
  · rw [RealLayout.number?_numeral h x.negative hdigits hpower, readBack?, ← hwritten,
      Option.map_map]
    rfl

/-- The text of a finite number is read by its digits. -/
theorem Number.exists_numeral_real {x : Binary64} (hx : x.isFinite = true) :
    ∃ numeral : Numeral, numeral.bytes = Utf8.encode (Number.real x).toChars ∧
      numeral.number? = (readBack? x).map .real := by
  cases hzero : x.isZero with
  | true =>
      refine exists_numeral_of_layout RealLayout.formed_zero ?_ ?_ (by decide) (by simp)
      · rw [toScientificText, if_pos hzero]
        rfl
      · rw [written, if_pos hzero]
        rfl
  | false =>
      have hword : 0 < x.magnitude := by
        simpa [isZero, Nat.pos_iff_ne_zero] using hzero
      obtain ⟨c, e, hshortest, hc, hle, hleast, hmost, -⟩ :=
        attracts_shortest hword (isFinite_iff.mp hx)
      have hwritten := RealLayout.digits_scale_ofDecimal c e
      have hdigits : (RealLayout.ofDecimal c e).digits ≤ significandLimit := by
        have h := writtenDecimal_le (e := e) hle
        rw [← hwritten] at h
        exact h.trans (by decide)
      refine exists_numeral_of_layout (RealLayout.formed_ofDecimal hc)
        (toScientificText_of_shortest hzero hshortest)
        (hwritten.trans (written_of_shortest hzero hshortest).symm) hdigits fun p hp => ?_
      have hlength : (Nat.toDigits 10 c).length ≤ 18 :=
        (Nat.length_toDigits_le_iff (by decide) (by decide)).mpr
          (Nat.lt_of_le_of_lt hle (by decide))
      have hpoint := RealLayout.power_ofDecimal hp
      unfold powerLimit
      omega

end Turnstile.Json
