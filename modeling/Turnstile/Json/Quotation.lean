import Turnstile.Json.Token
import Turnstile.Text.Hex
import Turnstile.Text.Utf8

/-!
# JSON strings

Strings are read byte by byte: the bytes of a string, with its escapes replaced
by the characters they stand for, are gathered up to the closing quote and have
to be UTF-8 then.  A character outside the basic plane is escaped as a pair of
surrogates, and no surrogate may stand alone.

Main definitions:

- `readString`: a string, behind its opening quote.
- `skipString`: the same without looking at what the string says.
-/

namespace Turnstile.Json

/-! ## Reading -/

/-- Where a reader stands inside a string. -/
inductive Spot
  /-- Between characters. -/
  | plain
  /-- Behind a backslash. -/
  | escape
  /-- Inside a hexadecimal escape, behind fewer than four digits (the last one
  first); `lead` is the first surrogate of a pair. -/
  | hex (lead : Option Nat) (digits : List UInt8)
  /-- Behind a first surrogate. -/
  | pair (lead : Nat)
  /-- Behind the backslash that follows a first surrogate. -/
  | pairEscape (lead : Nat)
deriving DecidableEq, Repr

/-- The byte that an escape letter stands for. -/
def escaped? (letter : UInt8) : Option UInt8 :=
  if letter = 0x22 then some 0x22
  else if letter = 0x5C then some 0x5C
  else if letter = 0x2F then some 0x2F
  else if letter = 0x62 then some 0x08
  else if letter = 0x66 then some 0x0C
  else if letter = 0x6E then some 0x0A
  else if letter = 0x72 then some 0x0D
  else if letter = 0x74 then some 0x09
  else none

/-- The letter of a hexadecimal escape. -/
def hexLetter : UInt8 := 0x75

/-- The first of a pair of surrogates. -/
def isLead (n : Nat) : Bool :=
  0xD800 ≤ n && n ≤ 0xDBFF

/-- The second of a pair of surrogates. -/
def isTrail (n : Nat) : Bool :=
  0xDC00 ≤ n && n ≤ 0xDFFF

/-- The code point of a pair of surrogates. -/
def pairCode (lead trail : Nat) : Nat :=
  (lead - 0xD800) * 0x400 + (trail - 0xDC00) + 0x10000

/-- Puts the bytes of a character in front of the reversed bytes of a string. -/
def pushChar (seen : List UInt8) (code : Nat) : List UInt8 :=
  (Text.Utf8.encodeChar (Char.ofNat code)).reverse ++ seen

/-- What four hexadecimal digits do: the next spot and the bytes seen by then. -/
def closeHex (lead : Option Nat) (seen : List UInt8) (code : Nat) :
    Except Cause (Spot × List UInt8) :=
  match lead with
  | none =>
      if isTrail code then .error .loneSurrogate
      else if isLead code then .ok (.pair code, seen)
      else .ok (.plain, pushChar seen code)
  | some lead =>
      if isTrail code then .ok (.plain, pushChar seen (pairCode lead code))
      else .error .loneSurrogate

/-- What one byte does inside a string; the closing quote is not its business. -/
def stepString (spot : Spot) (seen : List UInt8) (b : UInt8) :
    Except Cause (Spot × List UInt8) :=
  match spot with
  | .plain =>
      if b = Byte.backslash then .ok (.escape, seen)
      else if b < 0x20 then .error .controlCharacter
      else .ok (.plain, b :: seen)
  | .escape =>
      if b = hexLetter then .ok (.hex none [], seen)
      else
        match escaped? b with
        | some c => .ok (.plain, c :: seen)
        | none => .error .invalidEscape
  | .hex lead [z, y, x] =>
      match Text.Hex.value4? x y z b with
      | some code => closeHex lead seen code
      | none => .error .invalidEscape
  | .hex lead digits => .ok (.hex lead (b :: digits), seen)
  | .pair lead =>
      if b = Byte.backslash then .ok (.pairEscape lead, seen) else .error .unfinishedPair
  | .pairEscape lead =>
      if b = hexLetter then .ok (.hex (some lead) [], seen) else .error .unfinishedPair

/-- The bytes of a string up to its closing quote, onto the reversed bytes `seen`. -/
def readContent (spot : Spot) (seen : List UInt8) : Reader (List UInt8)
  | [] => .error (.behind .endInString [])
  | b :: rest =>
      if spot = .plain ∧ b = Byte.quote then .ok (seen.reverse, rest)
      else
        match stepString spot seen b with
        | .ok (spot, seen) => readContent spot seen rest
        | .error cause => .error (.behind cause rest)

/-- The text of a string's bytes.  Bytes that are no UTF-8 are reported at the
first bad one, as far as escapes did not move it. -/
def decodeContent (content rest : List UInt8) : Except Fault String :=
  let (text, bad) := Text.Utf8.split content
  if bad.isEmpty then .ok (String.ofList text)
  else .error ⟨.invalidUnicode, rest.length, bad.length⟩

/-- Reads a string behind its opening quote. -/
def readString : Reader String := fun bytes => do
  let (content, rest) ← readContent .plain [] bytes
  let text ← decodeContent content rest
  return (text, rest)

/-! ## Skipping -/

/-- Where a skipper stands inside a string. -/
inductive SkipSpot
  | plain
  | escape
  /-- Inside a hexadecimal escape, behind fewer than four digits. -/
  | hex (digits : List UInt8)
deriving DecidableEq, Repr

/-- Goes behind the closing quote of a string.  What the string says is not
looked at, so surrogates need no partner and bytes need not be UTF-8. -/
def skipString (spot : SkipSpot) : List UInt8 → Except Fault (List UInt8)
  | [] => .error (.behind .endInString [])
  | b :: rest =>
      match spot with
      | .plain =>
          if b = Byte.quote then .ok rest
          else if b = Byte.backslash then skipString .escape rest
          else if b < 0x20 then .error (.behind .controlCharacter (b :: rest))
          else skipString .plain rest
      | .escape =>
          if b = hexLetter then skipString (.hex []) rest
          else if (escaped? b).isSome then skipString .plain rest
          else .error (.behind .invalidEscape rest)
      | .hex [z, y, x] =>
          if (Text.Hex.value4? x y z b).isSome then skipString .plain rest
          else .error (.behind .invalidEscape rest)
      | .hex digits => skipString (.hex (b :: digits)) rest

end Turnstile.Json
