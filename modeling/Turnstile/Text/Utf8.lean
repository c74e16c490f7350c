/-!
# UTF-8

Characters and the bytes that stand for them.  Bytes are kept as lists, so that
a reader can hand on what it did not use.

Main definitions:

- `Utf8.encode`: the bytes of a text.
- `Utf8.next?`: one character off the front of some bytes.
- `Utf8.split`: the longest well-formed front part, decoded, and what follows it.
- `Utf8.decode?`: a whole text, when every byte of it is well formed.
-/

namespace Turnstile.Text.Utf8

/-! ## Encoding -/

/-- The one to four bytes of a character. -/
def encodeChar (c : Char) : List UInt8 :=
  let n := c.toNat
  if n < 0x80 then [UInt8.ofNat n]
  else if n < 0x800 then
    [UInt8.ofNat (0xC0 + n / 64), UInt8.ofNat (0x80 + n % 64)]
  else if n < 0x10000 then
    [UInt8.ofNat (0xE0 + n / 4096), UInt8.ofNat (0x80 + n / 64 % 64),
      UInt8.ofNat (0x80 + n % 64)]
  else
    [UInt8.ofNat (0xF0 + n / 262144), UInt8.ofNat (0x80 + n / 4096 % 64),
      UInt8.ofNat (0x80 + n / 64 % 64), UInt8.ofNat (0x80 + n % 64)]

/-- The bytes of a text. -/
def encode (text : List Char) : List UInt8 :=
  text.flatMap encodeChar

/-- The bytes of a string. -/
def encodeString (text : String) : List UInt8 :=
  encode text.toList

/-! ## Decoding -/

/-- Takes `count` continuation bytes, six bits each, below the bits in `code`. -/
def continue? : (count code : Nat) → List UInt8 → Option (Nat × List UInt8)
  | 0, code, rest => some (code, rest)
  | _ + 1, _, [] => none
  | count + 1, code, b :: rest =>
      if 0x80 ≤ b.toNat ∧ b.toNat < 0xC0 then
        continue? count (code * 64 + (b.toNat - 0x80)) rest
      else none

/-- A character of several bytes: `least` rules out a longer form than needed,
and a code that is no character is refused. -/
def sequence? (count least code : Nat) (rest : List UInt8) : Option (Char × List UInt8) :=
  match continue? count code rest with
  | none => none
  | some (n, rest) =>
      if least ≤ n ∧ n.isValidChar then some (Char.ofNat n, rest) else none

/-- One character off the front, or `none` when the bytes do not start with a
well-formed one. -/
def next? : List UInt8 → Option (Char × List UInt8)
  | [] => none
  | b :: rest =>
      let n := b.toNat
      if n < 0x80 then some (Char.ofNat n, rest)
      else if n < 0xC0 then none
      else if n < 0xE0 then sequence? 1 0x80 (n - 0xC0) rest
      else if n < 0xF0 then sequence? 2 0x800 (n - 0xE0) rest
      else if n < 0xF8 then sequence? 3 0x10000 (n - 0xF0) rest
      else none

/-- Decodes at most `fuel` characters onto the reversed text `seen`. -/
def splitOnto : (fuel : Nat) → (seen : List Char) → List UInt8 → List Char × List UInt8
  | 0, seen, bytes => (seen.reverse, bytes)
  | fuel + 1, seen, bytes =>
      match next? bytes with
      | none => (seen.reverse, bytes)
      | some (c, rest) => splitOnto fuel (c :: seen) rest

/-- The longest well-formed front part, decoded, and the bytes after it.  Each
character takes a byte at least, so there are no more than bytes. -/
def split (bytes : List UInt8) : List Char × List UInt8 :=
  splitOnto bytes.length [] bytes

/-- The text of well-formed bytes. -/
def decode? (bytes : List UInt8) : Option (List Char) :=
  match split bytes with
  | (text, []) => some text
  | (_, _ :: _) => none

end Turnstile.Text.Utf8
