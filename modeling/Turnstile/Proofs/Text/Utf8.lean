import Turnstile.Text.Utf8

/-!
# Reading back what was encoded

A character that was encoded is read back off the front of its bytes, whatever follows,
and so a whole text is.

Main results:

- `Utf8.next?_encodeChar`: one character.
- `Utf8.decode?_encode`: a text.
- `Utf8.encode_inj`: different texts have different bytes.
-/

namespace Turnstile.Text.Utf8

@[simp]
theorem encode_nil : encode [] = [] :=
  rfl

@[simp]
theorem encode_cons (c : Char) (text : List Char) :
    encode (c :: text) = encodeChar c ++ encode text :=
  List.flatMap_cons

@[simp]
theorem encode_append (text more : List Char) :
    encode (text ++ more) = encode text ++ encode more :=
  List.flatMap_append

/-- The code of a character is that of a character. -/
theorem isValidChar_toNat (c : Char) : c.toNat.isValidChar :=
  c.valid

/-- No code is greater than that of the last character. -/
theorem toNat_lt (c : Char) : c.toNat < 0x110000 := by
  have hvalid := isValidChar_toNat c
  unfold Nat.isValidChar at hvalid
  omega

/-- A continuation byte adds its six bits. -/
theorem continue?_succ (count code : Nat) {low : Nat} (hlow : low < 64) (rest : List UInt8) :
    continue? (count + 1) code (UInt8.ofNat (0x80 + low) :: rest) =
      continue? count (code * 64 + low) rest := by
  have hbyte : (UInt8.ofNat (0x80 + low)).toNat = 0x80 + low := by
    rw [UInt8.toNat_ofNat']
    omega
  rw [continue?, hbyte, if_pos (by omega), Nat.add_sub_cancel_left]

/-- A character of several bytes is the one whose code its bits make up. -/
theorem sequence?_of_continue? {count least code : Nat} {bytes rest : List UInt8} {c : Char}
    (h : continue? count code bytes = some (c.toNat, rest)) (hleast : least ≤ c.toNat) :
    sequence? count least code bytes = some (c, rest) := by
  unfold sequence?
  rw [h]
  simp only
  rw [if_pos ⟨hleast, isValidChar_toNat c⟩, Char.ofNat_toNat]

/-- An encoded character is read back. -/
theorem next?_encodeChar (c : Char) (rest : List UInt8) :
    next? (encodeChar c ++ rest) = some (c, rest) := by
  have hlast := toNat_lt c
  have hbyte (n : Nat) (h : n < 256) : (UInt8.ofNat n).toNat = n := by
    rw [UInt8.toNat_ofNat']
    omega
  unfold encodeChar
  dsimp only
  split
  · rename_i h
    rw [List.singleton_append, next?, hbyte _ (by omega), if_pos h, Char.ofNat_toNat]
  split
  · rename_i h
    rw [List.cons_append, List.singleton_append, next?, hbyte _ (by omega),
      if_neg (by omega), if_neg (by omega), if_pos (by omega)]
    refine sequence?_of_continue? ?_ (by omega)
    rw [continue?_succ _ _ (by omega), continue?]
    congr 2
    omega
  split
  · rename_i h
    rw [List.cons_append, List.cons_append, List.singleton_append, next?, hbyte _ (by omega),
      if_neg (by omega), if_neg (by omega), if_neg (by omega), if_pos (by omega)]
    refine sequence?_of_continue? ?_ (by omega)
    rw [continue?_succ _ _ (by omega), continue?_succ _ _ (by omega), continue?]
    congr 2
    omega
  · rename_i h
    rw [List.cons_append, List.cons_append, List.cons_append, List.singleton_append, next?,
      hbyte _ (by omega), if_neg (by omega), if_neg (by omega), if_neg (by omega),
      if_neg (by omega), if_pos (by omega)]
    refine sequence?_of_continue? ?_ (by omega)
    rw [continue?_succ _ _ (by omega), continue?_succ _ _ (by omega),
      continue?_succ _ _ (by omega), continue?]
    congr 2
    omega

/-- A character has a byte at least. -/
theorem encodeChar_ne_nil (c : Char) : encodeChar c ≠ [] := by
  unfold encodeChar
  grind

/-- An encoded text is read back onto what was read before it. -/
theorem splitOnto_encode {fuel : Nat} {text : List Char} (hfuel : text.length ≤ fuel)
    (seen : List Char) : splitOnto fuel seen (encode text) = (seen.reverse ++ text, []) := by
  induction text generalizing fuel seen with
  | nil => cases fuel <;> simp [splitOnto, encode, next?]
  | cons c text ih =>
      cases fuel with
      | zero => simp at hfuel
      | succ fuel =>
          rw [encode_cons, splitOnto, next?_encodeChar]
          dsimp only
          rw [ih (by simpa using hfuel), List.reverse_cons, List.append_assoc,
            List.singleton_append]

/-- An encoded text has as many bytes as characters at least. -/
theorem length_le_length_encode (text : List Char) : text.length ≤ (encode text).length := by
  induction text with
  | nil => exact Nat.le_refl 0
  | cons c text ih =>
      have hchar := List.length_pos_iff.mpr (encodeChar_ne_nil c)
      rw [encode_cons, List.length_append, List.length_cons]
      omega

/-- An encoded text is read back whole. -/
theorem decode?_encode (text : List Char) : decode? (encode text) = some text := by
  unfold decode? split
  rw [splitOnto_encode (length_le_length_encode text)]
  simp

/-- Different texts have different bytes. -/
theorem encode_inj {text other : List Char} : encode text = encode other ↔ text = other := by
  refine ⟨fun h => ?_, congrArg encode⟩
  have hread : decode? (encode text) = decode? (encode other) := by rw [h]
  rw [decode?_encode, decode?_encode] at hread
  exact Option.some.inj hread

/-- Different strings have different bytes. -/
theorem encodeString_inj {text other : String} :
    encodeString text = encodeString other ↔ text = other := by
  rw [encodeString, encodeString, encode_inj, String.toList_inj]

end Turnstile.Text.Utf8
