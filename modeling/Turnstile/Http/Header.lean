import Turnstile.Text.Ascii
import Turnstile.Text.Blank
import Turnstile.Text.Utf8

/-!
# Header fields

The header fields of a request: names without regard to case, values as bytes.
A name can come more than once; the first one counts, whatever its value.

Main definitions:

- `Headers.ofPairs`: the fields of a request, or the first that HTTP forbids.
- `Headers.text?`: a value as a text that is not blank.
- `encodeHeaderText`: the bytes of a text as a value.
-/

namespace Turnstile

/-- What HTTP forbids about a header field. -/
inductive HeaderError
  | badName
  | badValue
deriving DecidableEq, Repr

/-- The part of the field that is at fault. -/
def HeaderError.message : HeaderError → String
  | .badName => "name"
  | .badValue => "value"

/-- The header fields of a request, their names in lower case. -/
abbrev Headers := List (String × List UInt8)

/-- A character of a name: a letter, a digit or one of fifteen marks. -/
def isNameChar (c : Char) : Bool :=
  let n := c.toNat
  (48 ≤ n && n ≤ 57) || (65 ≤ n && n ≤ 90) || (97 ≤ n && n ≤ 122) ||
    ['!', '#', '$', '%', '&', '\'', '*', '+', '-', '.', '^', '_', '\x60', '|', '~'].contains c

/-- The greatest length of a name. -/
def maxNameLength : Nat := 65535

/-- A name that HTTP allows. -/
def isHeaderName (name : String) : Bool :=
  let chars := name.toList
  !chars.isEmpty && chars.length ≤ maxNameLength && chars.all isNameChar

/-- A byte of a value that HTTP allows: no control character but the tab. -/
def isValueByte (b : UInt8) : Bool :=
  (0x20 ≤ b && b != 0x7F) || b == 0x09

/-- A byte that a value can hold as text: visible ASCII, space or tab. -/
def isTextByte (b : UInt8) : Bool :=
  (0x20 ≤ b && b < 0x7F) || b == 0x09

namespace Headers

/-- The header fields given by names and values. -/
def ofPairs : List (String × List UInt8) → Except HeaderError Headers
  | [] => .ok []
  | (name, value) :: rest =>
      if !isHeaderName name then .error .badName
      else if !value.all isValueByte then .error .badValue
      else (ofPairs rest).map ((String.ofList (name.toList.map Text.lowerAscii), value) :: ·)

/-- The value of the first field of a name. -/
def first? (headers : Headers) (name : String) : Option (List UInt8) :=
  (headers.find? fun field => field.1 == name).map (·.2)

/-- The value of the first field of a name, when it is text. -/
def visible? (headers : Headers) (name : String) : Option String :=
  match headers.first? name with
  | none => none
  | some value =>
      if value.all isTextByte then
        some (String.ofList (value.map fun b => Char.ofNat b.toNat))
      else none

/-- The value of the first field of a name, when it is text and not blank, without
the blanks at its ends. -/
def text? (headers : Headers) (name : String) : Option String :=
  (headers.visible? name).bind fun value =>
    if Text.isAllBlank value then none else some (Text.trim value)

end Headers

/-- The bytes of a text as the value of a field, when HTTP allows them. -/
def encodeHeaderText (text : String) : Option (List UInt8) :=
  let bytes := Text.Utf8.encodeString text
  if bytes.all isValueByte then some bytes else none

/-! ## The fields that are read -/

/-- The field that carries the signature of a request. -/
def signatureField : String := "x-signature"

/-- The field that names one logical submission. -/
def idempotencyField : String := "idempotency-key"

/-- The field with the type of the body. -/
def contentTypeField : String := "content-type"

/-- The field with the length of the body. -/
def contentLengthField : String := "content-length"

end Turnstile
