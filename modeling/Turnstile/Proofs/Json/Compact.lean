import Mathlib.Data.List.Basic
import Turnstile.Json.Writer
import Turnstile.Proofs.Json.Grammar
import Turnstile.Proofs.Text.Utf8

/-!
# Compact texts

What is written for a value is a text with that value: strings are escaped in a way that
is undone, and an integer that fits in sixty-four bits is read back from its digits.

Main definitions:

- `textPieces`, `Numeral.ofInt`: the tokens that are written.
- `Value.Rereads`: a value whose numbers are read back as they are.
- `Value.ReadsAs`: a value whose text is read as another value.

Main results:

- `text?_textPieces`: a string is read back.
- `Numeral.number?_ofInt`: an integer is read back.
- `Value.exists_tree`: a value is read back.
-/

namespace Turnstile.Json

open Text

/-! ## Strings -/

/-- The third digit of the escape of a control character. -/
def controlHigh (n : Nat) : UInt8 :=
  UInt8.ofNat (0x30 + n / 16)

/-- The last digit of the escape of a control character. -/
def controlLow (n : Nat) : UInt8 :=
  UInt8.ofNat (Hex.digit (n % 16)).toNat

/-- The four digits have the code of the control character. -/
theorem value4?_control :
    ∀ n < 0x20, Hex.value4? 0x30 0x30 (controlHigh n) (controlLow n) = some n := by
  decide

/-- A byte that stands for itself in a string. -/
def Piece.plain? (b : UInt8) : Option Piece :=
  if h : b ≠ Byte.quote ∧ b ≠ Byte.backslash ∧ 0x20 ≤ b then some (.plain b h) else none

/-- The pieces that are written for a character. -/
def charPieces (c : Char) : List Piece :=
  if c = '"' then [.short 0x22 0x22 rfl]
  else if c = '\\' then [.short 0x5C 0x5C rfl]
  else if c = '\x08' then [.short 0x62 0x08 rfl]
  else if c = '\x0c' then [.short 0x66 0x0C rfl]
  else if c = '\n' then [.short 0x6E 0x0A rfl]
  else if c = '\r' then [.short 0x72 0x0D rfl]
  else if c = '\t' then [.short 0x74 0x09 rfl]
  else if h : c.toNat < 0x20 then
    [.code 0x30 0x30 (controlHigh c.toNat) (controlLow c.toNat) c.toNat (value4?_control _ h)]
  else (Utf8.encodeChar c).filterMap Piece.plain?

/-- The pieces that are written for a string. -/
def textPieces (s : String) : List Piece :=
  s.toList.flatMap charPieces

/-- A byte with the code of an ordinary character stands for itself. -/
theorem ordinary_ofNat {n : Nat} (hbyte : n < 0x100) (hquote : n ≠ 0x22) (hbackslash : n ≠ 0x5C)
    (hprintable : 0x20 ≤ n) :
    UInt8.ofNat n ≠ Byte.quote ∧ UInt8.ofNat n ≠ Byte.backslash ∧ 0x20 ≤ UInt8.ofNat n := by
  have hcode : (UInt8.ofNat n).toNat = n := by
    rw [UInt8.toNat_ofNat']
    omega
  refine ⟨fun h => hquote ?_, fun h => hbackslash ?_, ?_⟩
  · rw [← hcode, h]
    rfl
  · rw [← hcode, h]
    rfl
  · rw [UInt8.le_iff_toNat_le, hcode]
    exact hprintable

/-- The bytes of a character that needs no escape stand for themselves. -/
theorem ordinary_of_mem_encodeChar {c : Char} (hquote : c ≠ '"') (hbackslash : c ≠ '\\')
    (hprintable : 0x20 ≤ c.toNat) :
    ∀ b ∈ Utf8.encodeChar c, b ≠ Byte.quote ∧ b ≠ Byte.backslash ∧ 0x20 ≤ b := by
  have hvalid : c.toNat < 0x110000 := by
    have := Utf8.isValidChar_toNat c
    unfold Nat.isValidChar at this
    omega
  have hquote : c.toNat ≠ 0x22 := fun h => hquote (Char.toNat_inj.mp h)
  have hbackslash : c.toNat ≠ 0x5C := fun h => hbackslash (Char.toNat_inj.mp h)
  unfold Utf8.encodeChar
  dsimp only
  split
  · simp only [List.forall_mem_singleton]
    exact ordinary_ofNat (by omega) hquote hbackslash hprintable
  split
  · simp only [List.forall_mem_cons]
    refine ⟨?_, ?_, by simp⟩ <;> apply ordinary_ofNat <;> omega
  split
  · simp only [List.forall_mem_cons]
    refine ⟨?_, ?_, ?_, by simp⟩ <;> apply ordinary_ofNat <;> omega
  · simp only [List.forall_mem_cons]
    refine ⟨?_, ?_, ?_, ?_, by simp⟩ <;> apply ordinary_ofNat <;> omega

/-- Some pieces have some bytes and stand for others, whatever pieces follow them. -/
structure Renders (pieces : List Piece) (bytes content : List UInt8) : Prop where
  bytes_eq : pieces.flatMap Piece.bytes = bytes
  content?_append : ∀ more, content? (pieces ++ more) = (content? more).map (content ++ ·)

namespace Renders

/-- No pieces stand for nothing. -/
theorem nil : Renders [] [] [] :=
  ⟨rfl, fun more => by simp⟩

/-- Pieces one after the other stand for what each of them stands for. -/
theorem append {pieces pieces' : List Piece} {bytes bytes' content content' : List UInt8}
    (h : Renders pieces bytes content) (h' : Renders pieces' bytes' content') :
    Renders (pieces ++ pieces') (bytes ++ bytes') (content ++ content') := by
  constructor
  · rw [List.flatMap_append, h.bytes_eq, h'.bytes_eq]
  · intro more
    rw [List.append_assoc, h.content?_append, h'.content?_append, Option.map_map]
    simp [Function.comp_def]

/-- Ordinary bytes stand for themselves. -/
theorem plain {bytes : List UInt8}
    (h : ∀ b ∈ bytes, b ≠ Byte.quote ∧ b ≠ Byte.backslash ∧ 0x20 ≤ b) :
    Renders (bytes.filterMap Piece.plain?) bytes bytes := by
  induction bytes with
  | nil => exact nil
  | cons b bytes ih =>
      obtain ⟨hb, hbytes⟩ := List.forall_mem_cons.mp h
      rw [List.filterMap_cons_some (dif_pos hb)]
      have hone : Renders [.plain b hb] [b] [b] := ⟨rfl, fun _ => rfl⟩
      exact hone.append (ih hbytes)

end Renders

/-- The escape of a control character. -/
theorem encode_control :
    ∀ n < 0x20, Utf8.encode (['\\', 'u'] ++ controlDigits n) =
      [Byte.backslash, hexLetter, 0x30, 0x30, controlHigh n, controlLow n] := by
  decide

/-- The escape of a character is written, and stands for the character. -/
theorem renders_charPieces (c : Char) :
    Renders (charPieces c) (Utf8.encode (escapeChar c)) (Utf8.encodeChar c) := by
  by_cases hquote : c = '"'
  · subst hquote
    exact ⟨rfl, fun _ => rfl⟩
  by_cases hbackslash : c = '\\'
  · subst hbackslash
    exact ⟨rfl, fun _ => rfl⟩
  by_cases hbackspace : c = '\x08'
  · subst hbackspace
    exact ⟨rfl, fun _ => rfl⟩
  by_cases hfeed : c = '\x0c'
  · subst hfeed
    exact ⟨rfl, fun _ => rfl⟩
  by_cases hline : c = '\n'
  · subst hline
    exact ⟨rfl, fun _ => rfl⟩
  by_cases hreturn : c = '\r'
  · subst hreturn
    exact ⟨rfl, fun _ => rfl⟩
  by_cases htab : c = '\t'
  · subst htab
    exact ⟨rfl, fun _ => rfl⟩
  simp only [charPieces, escapeChar, if_neg hquote, if_neg hbackslash, if_neg hbackspace,
    if_neg hfeed, if_neg hline, if_neg hreturn, if_neg htab]
  by_cases hcontrol : c.toNat < 0x20
  · rw [dif_pos hcontrol, if_pos hcontrol, encode_control _ hcontrol]
    refine ⟨rfl, fun more => ?_⟩
    have htrail : isTrail c.toNat = false := by
      simp [isTrail]
      omega
    have hlead : isLead c.toNat = false := by
      simp [isLead]
      omega
    rw [List.singleton_append, content?.eq_def]
    simp only [htrail, hlead, Bool.false_eq_true, if_false, Char.ofNat_toNat]
  · rw [dif_neg hcontrol, if_neg hcontrol, Utf8.encode, List.flatMap_singleton]
    exact .plain (ordinary_of_mem_encodeChar hquote hbackslash (Nat.le_of_not_lt hcontrol))

/-- The pieces of a string are written, and stand for the string. -/
theorem renders_textPieces (chars : List Char) :
    Renders (chars.flatMap charPieces) (Utf8.encode (chars.flatMap escapeChar))
      (Utf8.encode chars) := by
  induction chars with
  | nil => exact .nil
  | cons c chars ih =>
      have h := (renders_charPieces c).append ih
      simpa using h

/-- A string is written with its quotes. -/
theorem quotedBytes_textPieces (s : String) :
    Byte.quote :: quotedBytes (textPieces s) = Utf8.encode (stringChars s) := by
  have hbytes := (renders_textPieces s.toList).bytes_eq
  unfold quotedBytes textPieces stringChars
  rw [hbytes, Utf8.encode_append, Utf8.encode_cons]
  rfl

/-- A string is read back. -/
theorem text?_textPieces (s : String) : text? (textPieces s) = some s := by
  have hcontent := (renders_textPieces s.toList).content?_append []
  rw [List.append_nil] at hcontent
  unfold text? textPieces
  rw [hcontent]
  simp [content?, Utf8.decode?_encode]

/-! ## Integers -/

/-- The digits of a number, as bytes. -/
def digitBytes (n : Nat) : List UInt8 :=
  Utf8.encode (Nat.toDigits 10 n)

/-- The code of a digit. -/
theorem toNat_of_isDigit {c : Char} (h : c.isDigit = true) : 48 ≤ c.toNat ∧ c.toNat ≤ 57 := by
  simpa [Char.isDigit, UInt32.le_iff_toNat_le] using h

/-- A digit is written as one byte. -/
theorem encodeChar_of_isDigit {c : Char} (h : c.isDigit = true) :
    Utf8.encodeChar c = [UInt8.ofNat c.toNat] ∧ Byte.isDigit (UInt8.ofNat c.toNat) = true ∧
      Byte.digitValue (UInt8.ofNat c.toNat) = c.toNat - 48 := by
  have hrange := toNat_of_isDigit h
  have hcode : (UInt8.ofNat c.toNat).toNat = c.toNat := by
    rw [UInt8.toNat_ofNat']
    omega
  refine ⟨?_, ?_, ?_⟩
  · rw [Utf8.encodeChar, if_pos (by omega)]
  · rw [Byte.isDigit, Bool.and_eq_true, decide_eq_true_eq, decide_eq_true_eq,
      UInt8.le_iff_toNat_le, UInt8.le_iff_toNat_le, hcode]
    exact hrange
  · rw [Byte.digitValue, hcode]

/-- Every byte of the digits of a number is a digit. -/
theorem isDigit_of_mem_digitBytes {n : Nat} {b : UInt8} (h : b ∈ digitBytes n) :
    Byte.isDigit b = true := by
  obtain ⟨c, hc, hb⟩ := List.mem_flatMap.mp h
  obtain ⟨hbyte, hdigit, -⟩ :=
    encodeChar_of_isDigit (Nat.isDigit_of_mem_toDigits (by decide) (by decide) hc)
  rw [hbyte, List.mem_singleton] at hb
  exact hb ▸ hdigit

/-- The digits of a number are written one by one. -/
theorem digitBytes_eq_map (n : Nat) :
    digitBytes n = (Nat.toDigits 10 n).map fun c => UInt8.ofNat c.toNat := by
  have hdigits (c : Char) (hc : c ∈ Nat.toDigits 10 n) :=
    (encodeChar_of_isDigit (Nat.isDigit_of_mem_toDigits (by decide) (by decide) hc)).1
  rw [digitBytes, Utf8.encode, List.flatMap_congr hdigits, List.map_eq_flatMap]

/-- No number but zero is written with a zero in front. -/
theorem eq_zero_of_head?_toDigits {n : Nat} (h : (Nat.toDigits 10 n).head? = some '0') :
    n = 0 := by
  have hdigit : ∀ d < 10, d.digitChar = '0' → d = 0 := by decide
  induction n using Nat.strongRecOn with
  | ind n ih =>
      rw [Nat.toDigits_eq_if (by decide)] at h
      split at h
      · exact hdigit n ‹_› (Option.some.inj h)
      · rw [List.head?_append_of_ne_nil _ Nat.toDigits_ne_nil] at h
        have hzero := ih (n / 10) (by omega) h
        omega

/-- No bytes of a number but those of zero have a zero in front. -/
theorem eq_zero_of_head?_digitBytes {n : Nat} (h : (digitBytes n).head? = some Byte.zero) :
    n = 0 := by
  rw [digitBytes_eq_map, List.head?_map, Option.map_eq_some_iff] at h
  obtain ⟨c, hc, hzero⟩ := h
  have hdigit : c.isDigit = true :=
    Nat.isDigit_of_mem_toDigits (by decide) (by decide) (List.mem_of_mem_head? hc)
  have hrange := toNat_of_isDigit hdigit
  have hvalue := (encodeChar_of_isDigit hdigit).2.2
  rw [hzero, show Byte.digitValue Byte.zero = 0 from rfl] at hvalue
  have hchar : c = '0' := Char.toNat_inj.mp (show c.toNat = 48 by omega)
  exact eq_zero_of_head?_toDigits (hchar ▸ hc)

/-- Digits are gathered to the number that they make up, when that is in range. -/
theorem gather_digits {digits : List Char} (hdigits : ∀ c ∈ digits, c.isDigit = true)
    {significand : Nat} (hlimit : Nat.ofDigitChars 10 digits significand ≤ significandLimit) :
    gather significand (Utf8.encode digits) = (Nat.ofDigitChars 10 digits significand, []) := by
  induction digits generalizing significand with
  | nil => rfl
  | cons c digits ih =>
      obtain ⟨hc, hdigits⟩ := List.forall_mem_cons.mp hdigits
      obtain ⟨hbyte, -, hvalue⟩ := encodeChar_of_isDigit hc
      have hcons : Utf8.encode (c :: digits) = UInt8.ofNat c.toNat :: Utf8.encode digits := by
        rw [Utf8.encode_cons, hbyte, List.singleton_append]
      have hnext : significand * 10 + (c.toNat - 48) =
          10 * significand + (c.toNat - '0'.toNat) := by
        rw [Nat.mul_comm]
        rfl
      rw [Nat.ofDigitChars_cons] at hlimit ⊢
      have hle : 10 * significand + (c.toNat - '0'.toNat) ≤ significandLimit := by
        rw [Nat.ofDigitChars_eq_ofDigitChars_zero] at hlimit
        have hpow := Nat.one_le_pow digits.length 10 (by decide)
        have := Nat.mul_le_mul_right (10 * significand + (c.toNat - '0'.toNat)) hpow
        omega
      rw [hcons, gather, hvalue, hnext, if_neg (Nat.not_lt.mpr hle), ih hdigits hlimit]

/-- The digits of a number in range are gathered to it. -/
theorem gather_digitBytes {n : Nat} (h : n ≤ significandLimit) :
    gather 0 (digitBytes n) = (n, []) := by
  have hvalue : Nat.ofDigitChars 10 (Nat.toDigits 10 n) 0 = n := Nat.ofDigitChars_ten_toDigits
  have hdigits : ∀ c ∈ Nat.toDigits 10 n, c.isDigit = true :=
    fun _ hc => Nat.isDigit_of_mem_toDigits (by decide) (by decide) hc
  have hlimit : Nat.ofDigitChars 10 (Nat.toDigits 10 n) 0 ≤ significandLimit := by rwa [hvalue]
  have hgather := gather_digits hdigits hlimit
  rwa [hvalue] at hgather

/-- An integer as it is written. -/
def Numeral.ofInt (n : Int) : Numeral where
  literal := ⟨decide (n < 0), digitBytes n.natAbs, [], false, []⟩
  mark := 0x65
  plus := false
  formed :=
    { whole_ne_nil := by simp [digitBytes_eq_map]
      whole_digits := fun _ => isDigit_of_mem_digitBytes
      whole_lead := fun h => by
        rw [eq_zero_of_head?_digitBytes h]
        rfl
      fraction_digits := by simp
      power_digits := by simp
      unpowered := fun _ => rfl }
  marks := rfl

/-- An integer is written. -/
theorem Numeral.bytes_ofInt (n : Int) : (Numeral.ofInt n).bytes = Utf8.encode (intChars n) := by
  have hunsigned : (Numeral.ofInt n).unsignedBytes = digitBytes n.natAbs := by
    simp [unsignedBytes, fractionBytes, powerBytes, ofInt]
  unfold Numeral.bytes intChars
  rw [hunsigned]
  by_cases h : n < 0
  · rw [if_pos h, if_pos (by simpa [ofInt] using h)]
    rfl
  · rw [if_neg h, if_neg (by simpa [ofInt] using h)]
    rfl

/-- An integer that fits in sixty-four bits has the value of its digits and its sign. -/
theorem Literal.integer_natAbs {literal : Literal} {n : Int}
    (hnegative : literal.negative = decide (n < 0)) (hleast : -0x8000000000000000 ≤ n) :
    literal.integer n.natAbs = .int n := by
  unfold Literal.integer
  by_cases h : n < 0
  · rw [hnegative, decide_eq_true h, Bool.not_true, if_neg Bool.false_ne_true]
    have hlead : ¬(n.natAbs = 0 || 0x8000000000000000 < n.natAbs) = true := by
      rw [Bool.or_eq_true, decide_eq_true_eq, decide_eq_true_eq]
      omega
    rw [if_neg hlead]
    rw [← Int.eq_neg_natAbs_of_nonpos (Int.le_of_lt h)]
  · rw [hnegative, decide_eq_false h, Bool.not_false, if_pos rfl,
      Int.natAbs_of_nonneg (Int.not_lt.mp h)]

/-- An integer that fits in sixty-four bits is read back. -/
theorem Numeral.number?_ofInt {n : Int} (hleast : -0x8000000000000000 ≤ n)
    (hgreatest : n < 0x10000000000000000) : (Numeral.ofInt n).number? = some (.int n) := by
  have hlimit : n.natAbs ≤ significandLimit := by
    unfold significandLimit
    omega
  have hvalue : (Numeral.ofInt n).literal.value [] =
      .ok ((Numeral.ofInt n).literal.integer n.natAbs) := by
    have hgather : gather 0 (Numeral.ofInt n).literal.whole = (n.natAbs, []) :=
      gather_digitBytes hlimit
    rw [Literal.value, hgather]
    rfl
  rw [Numeral.number?, hvalue, Literal.integer_natAbs rfl hleast]
  rfl

/-! ## Values -/

/-- A number is read back from what is written for it. -/
def Number.Rereads (n : Number) : Prop :=
  ∃ numeral : Numeral, numeral.bytes = Utf8.encode n.toChars ∧ numeral.number? = some n

/-- An integer that fits in sixty-four bits is read back. -/
theorem Number.rereads_int {n : Int} (hleast : -0x8000000000000000 ≤ n)
    (hgreatest : n < 0x10000000000000000) : (Number.int n).Rereads :=
  ⟨.ofInt n, Numeral.bytes_ofInt n, Numeral.number?_ofInt hleast hgreatest⟩

mutual

/-- Every number of a value is read back. -/
def Value.Rereads : Value → Prop
  | .number n => n.Rereads
  | .array items => itemsReread items
  | .object members => membersReread members
  | _ => True

/-- Every number in the elements of a list is read back. -/
def itemsReread : List Value → Prop
  | [] => True
  | item :: items => item.Rereads ∧ itemsReread items

/-- Every number in the members of an object is read back. -/
def membersReread : Members → Prop
  | [] => True
  | (_, value) :: members => value.Rereads ∧ membersReread members

end

/-- Elements behind others have a comma in front of them. -/
theorem itemsBytes_false (items : List (Element Tree)) :
    itemsBytes false items = if items.isEmpty then [] else Byte.comma :: itemsBytes true items := by
  cases items <;> rfl

/-- Members behind others have a comma in front of them. -/
theorem membersBytes_false (members : List (Member Tree)) :
    membersBytes false members =
      if members.isEmpty then [] else Byte.comma :: membersBytes true members := by
  cases members <;> rfl

/-- What is written for a value is a text with another value, which may have other numbers. -/
def Value.ReadsAs (value read : Value) : Prop :=
  ∃ tree : Tree, tree.bytes = Utf8.encode value.toChars ∧ tree.value? = some read

/-- What is written for some members are texts with other members. -/
def MembersReadAs (members read : Members) : Prop :=
  ∃ trees : List (Member Tree), membersBytes true trees = Utf8.encode (membersChars members) ∧
    memberValues? trees = some read ∧ trees.isEmpty = members.isEmpty

/-- No members are written as nothing. -/
theorem MembersReadAs.nil : MembersReadAs [] [] :=
  ⟨[], rfl, rfl, rfl⟩

/-- One more member is written in front of the others. -/
theorem MembersReadAs.cons {value value' : Value} {members read : Members} (name : String)
    (hvalue : value.ReadsAs value') (hmembers : MembersReadAs members read) :
    MembersReadAs ((name, value) :: members) ((name, value') :: read) := by
  obtain ⟨tree, hbytes, hvalue⟩ := hvalue
  obtain ⟨trees, hmore, hvalues, hempty⟩ := hmembers
  refine ⟨⟨.none, textPieces name, .none, .none, tree, .none⟩ :: trees, ?_, ?_, rfl⟩
  · have hname := quotedBytes_textPieces name
    rw [membersBytes, membersBytes_false, hempty, hbytes, hmore, membersChars,
      Utf8.encode_append, Utf8.encode_append, Utf8.encode_cons, ← hname]
    cases members <;> simp [separator, Blanks.none] <;> rfl
  · rw [memberValues?, text?_textPieces, hvalue, hvalues]

/-- An object is written with its members between brackets. -/
theorem MembersReadAs.object {members read : Members} (h : MembersReadAs members read) :
    (Value.object members).ReadsAs (.object read) := by
  obtain ⟨trees, hbytes, hvalues, -⟩ := h
  refine ⟨.object .none trees, ?_, by rw [Tree.value?, hvalues, Option.map_some]⟩
  rw [Tree.bytes, hbytes, Value.toChars, Utf8.encode_append, Utf8.encode_cons]
  rfl

mutual

/-- What is written for a value is a text with that value. -/
theorem Value.exists_tree (value : Value) (h : value.Rereads) : value.ReadsAs value := by
  cases value with
  | null => exact ⟨.null, rfl, rfl⟩
  | bool b => cases b <;> exact ⟨.bool _, rfl, rfl⟩
  | number n =>
      obtain ⟨numeral, hbytes, hvalue⟩ := h
      exact ⟨.number numeral, hbytes, by rw [Tree.value?, hvalue, Option.map_some]⟩
  | text s =>
      exact ⟨.text (textPieces s), quotedBytes_textPieces s,
        by rw [Tree.value?, text?_textPieces, Option.map_some]⟩
  | array items =>
      obtain ⟨trees, hbytes, hvalues, -⟩ := exists_items items h
      refine ⟨.array .none trees, ?_, by rw [Tree.value?, hvalues, Option.map_some]⟩
      rw [Tree.bytes, hbytes, Value.toChars, Utf8.encode_append, Utf8.encode_cons]
      rfl
  | object members => exact (exists_members members h).object

/-- What is written for the elements of a list are texts with their values. -/
theorem exists_items (items : List Value) (h : itemsReread items) :
    ∃ trees : List (Element Tree), itemsBytes true trees = Utf8.encode (itemsChars items) ∧
      itemValues? trees = some items ∧ trees.isEmpty = items.isEmpty := by
  cases items with
  | nil => exact ⟨[], rfl, rfl, rfl⟩
  | cons item items =>
      obtain ⟨tree, hbytes, hvalue⟩ := Value.exists_tree item h.1
      obtain ⟨trees, hmore, hvalues, hempty⟩ := exists_items items h.2
      refine ⟨⟨.none, tree, .none⟩ :: trees, ?_, ?_, rfl⟩
      · rw [itemsBytes, itemsBytes_false, hempty, hbytes, hmore, itemsChars, Utf8.encode_append]
        cases items <;> rfl
      · rw [itemValues?, hvalue, hvalues]

/-- What is written for the members of an object are texts with their values. -/
theorem exists_members (members : Members) (h : membersReread members) :
    MembersReadAs members members := by
  cases members with
  | nil => exact .nil
  | cons member members =>
      exact .cons member.1 (Value.exists_tree member.2 h.1) (exists_members members h.2)

end

end Turnstile.Json
