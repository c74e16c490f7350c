/-!
# SHA-256

The hash function on lists of bytes: the message is padded to whole blocks of
sixty-four bytes, and each block is mixed into a state of eight words.

Main definitions and results:

- `Sha256.hash`: the thirty-two bytes of a message's digest.
- `Sha256.hash_length`: there are always thirty-two.
-/

namespace Turnstile.Sha256

/-! ## Words -/

/-- Four bytes as a word, the highest first. -/
def wordOfBytes (a b c d : UInt8) : UInt32 :=
  UInt32.ofNat (((a.toNat * 256 + b.toNat) * 256 + c.toNat) * 256 + d.toNat)

/-- Whole words of some bytes. -/
def wordsOf : List UInt8 → List UInt32
  | a :: b :: c :: d :: rest => wordOfBytes a b c d :: wordsOf rest
  | _ => []

/-- A word as four bytes, the highest first. -/
def bytesOfWord (w : UInt32) : List UInt8 :=
  [UInt8.ofNat (w.toNat / 16777216), UInt8.ofNat (w.toNat / 65536), UInt8.ofNat (w.toNat / 256),
    UInt8.ofNat w.toNat]

/-- A word turned right by a number of bits between one and thirty-one. -/
def rotate (w : UInt32) (n : UInt32) : UInt32 :=
  (w >>> n) ||| (w <<< (32 - n))

/-! ## The state -/

/-- The eight words that a block is mixed into. -/
structure State where
  a : UInt32
  b : UInt32
  c : UInt32
  d : UInt32
  e : UInt32
  f : UInt32
  g : UInt32
  h : UInt32
deriving DecidableEq, Repr

/-- The state before any block. -/
def State.initial : State :=
  ⟨0x6A09E667, 0xBB67AE85, 0x3C6EF372, 0xA54FF53A, 0x510E527F, 0x9B05688C, 0x1F83D9AB,
    0x5BE0CD19⟩

/-- Word by word addition. -/
def State.add (s t : State) : State :=
  ⟨s.a + t.a, s.b + t.b, s.c + t.c, s.d + t.d, s.e + t.e, s.f + t.f, s.g + t.g, s.h + t.h⟩

/-- The bytes of a state. -/
def State.toBytes (s : State) : List UInt8 :=
  bytesOfWord s.a ++ bytesOfWord s.b ++ bytesOfWord s.c ++ bytesOfWord s.d ++
    bytesOfWord s.e ++ bytesOfWord s.f ++ bytesOfWord s.g ++ bytesOfWord s.h

/-! ## Mixing -/

/-- The sixty-four round constants. -/
def roundConstants : List UInt32 :=
  [
    0x428A2F98, 0x71374491, 0xB5C0FBCF, 0xE9B5DBA5, 0x3956C25B, 0x59F111F1,
    0x923F82A4, 0xAB1C5ED5, 0xD807AA98, 0x12835B01, 0x243185BE, 0x550C7DC3,
    0x72BE5D74, 0x80DEB1FE, 0x9BDC06A7, 0xC19BF174, 0xE49B69C1, 0xEFBE4786,
    0x0FC19DC6, 0x240CA1CC, 0x2DE92C6F, 0x4A7484AA, 0x5CB0A9DC, 0x76F988DA,
    0x983E5152, 0xA831C66D, 0xB00327C8, 0xBF597FC7, 0xC6E00BF3, 0xD5A79147,
    0x06CA6351, 0x14292967, 0x27B70A85, 0x2E1B2138, 0x4D2C6DFC, 0x53380D13,
    0x650A7354, 0x766A0ABB, 0x81C2C92E, 0x92722C85, 0xA2BFE8A1, 0xA81A664B,
    0xC24B8B70, 0xC76C51A3, 0xD192E819, 0xD6990624, 0xF40E3585, 0x106AA070,
    0x19A4C116, 0x1E376C08, 0x2748774C, 0x34B0BCB5, 0x391C0CB3, 0x4ED8AA4A,
    0x5B9CCA4F, 0x682E6FF3, 0x748F82EE, 0x78A5636F, 0x84C87814, 0x8CC70208,
    0x90BEFFFA, 0xA4506CEB, 0xBEF9A3F7, 0xC67178F2
  ]

/-- One round, with its constant and its word of the schedule. -/
def round (s : State) (constant word : UInt32) : State :=
  let sum1 := rotate s.e 6 ^^^ rotate s.e 11 ^^^ rotate s.e 25
  let choice := (s.e &&& s.f) ^^^ (~~~s.e &&& s.g)
  let t1 := s.h + sum1 + choice + constant + word
  let sum0 := rotate s.a 2 ^^^ rotate s.a 13 ^^^ rotate s.a 22
  let majority := (s.a &&& s.b) ^^^ (s.a &&& s.c) ^^^ (s.b &&& s.c)
  ⟨t1 + (sum0 + majority), s.a, s.b, s.c, s.d + t1, s.e, s.f, s.g⟩

/-- The word of the schedule that follows sixteen others. -/
def nextWord (window : List UInt32) : UInt32 :=
  let w1 := window.getD 1 0
  let w14 := window.getD 14 0
  let mix0 := rotate w1 7 ^^^ rotate w1 18 ^^^ (w1 >>> 3)
  let mix1 := rotate w14 17 ^^^ rotate w14 19 ^^^ (w14 >>> 10)
  window.getD 0 0 + mix0 + window.getD 9 0 + mix1

/-- The rounds of some constants.  The window holds the next sixteen words of
the schedule. -/
def rounds (s : State) (window : List UInt32) : (constants : List UInt32) → State
  | [] => s
  | constant :: constants =>
      rounds (round s constant (window.getD 0 0)) (window.drop 1 ++ [nextWord window]) constants

/-- Mixes one block into a state. -/
def absorbBlock (s : State) (block : List UInt8) : State :=
  s.add (rounds s (wordsOf block) roundConstants)

/-- Mixes a number of blocks into a state. -/
def absorb : (count : Nat) → State → List UInt8 → State
  | 0, s, _ => s
  | count + 1, s, bytes => absorb count (absorbBlock s (bytes.take 64)) (bytes.drop 64)

/-! ## Hashing -/

/-- The eight bytes of a length in bits. -/
def lengthBytes (bits : Nat) : List UInt8 :=
  bytesOfWord (UInt32.ofNat (bits >>> 32)) ++ bytesOfWord (UInt32.ofNat bits)

/-- A message followed by a one bit, zeros and its length, in whole blocks. -/
def pad (message : List UInt8) : List UInt8 :=
  let zeros := (119 - message.length % 64) % 64
  message ++ [0x80] ++ List.replicate zeros 0 ++ lengthBytes (message.length * 8)

/-- The digest of a message. -/
def hash (message : List UInt8) : List UInt8 :=
  let padded := pad message
  (absorb (padded.length / 64) State.initial padded).toBytes

/-- A state has thirty-two bytes. -/
theorem State.toBytes_length (s : State) : s.toBytes.length = 32 := by
  simp [State.toBytes, bytesOfWord]

/-- A digest has thirty-two bytes. -/
theorem hash_length (message : List UInt8) : (hash message).length = 32 :=
  State.toBytes_length _

end Turnstile.Sha256
