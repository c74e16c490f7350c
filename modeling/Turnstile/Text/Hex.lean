/-!
# Hexadecimal bytes

Bytes written as two hexadecimal digits each: lower case on the way out, either
case on the way in.
-/

namespace Turnstile.Text.Hex

/-- The digit of a value below sixteen. -/
def digit (n : Nat) : Char :=
  if n < 10 then Char.ofNat (48 + n) else Char.ofNat (87 + n)

/-- The two digits of a byte. -/
def encodeByte (b : UInt8) : List Char :=
  [digit (b.toNat / 16), digit (b.toNat % 16)]

/-- The digits of some bytes. -/
def encode (bytes : List UInt8) : List Char :=
  bytes.flatMap encodeByte

/-- The digits of some bytes, as a string. -/
def encodeString (bytes : List UInt8) : String :=
  String.ofList (encode bytes)

/-- The value of a digit of either case. -/
def value? (c : Char) : Option Nat :=
  let n := c.toNat
  if 48 ≤ n ∧ n ≤ 57 then some (n - 48)
  else if 65 ≤ n ∧ n ≤ 70 then some (n - 55)
  else if 97 ≤ n ∧ n ≤ 102 then some (n - 87)
  else none

/-- Bytes from their digits, onto the reversed bytes `seen`. -/
def decodeOnto (seen : List UInt8) : List Char → Option (List UInt8)
  | [] => some seen.reverse
  | [_] => none
  | a :: b :: rest =>
      match value? a, value? b with
      | some high, some low => decodeOnto (UInt8.ofNat (high * 16 + low) :: seen) rest
      | _, _ => none

/-- Bytes from their digits: an even number of digits and nothing else. -/
def decode? (text : List Char) : Option (List UInt8) :=
  decodeOnto [] text

/-- The value of four hexadecimal digits given as bytes. -/
def value4? (a b c d : UInt8) : Option Nat :=
  match value? (Char.ofNat a.toNat), value? (Char.ofNat b.toNat),
      value? (Char.ofNat c.toNat), value? (Char.ofNat d.toNat) with
  | some w, some x, some y, some z => some (((w * 16 + x) * 16 + y) * 16 + z)
  | _, _, _, _ => none

end Turnstile.Text.Hex
