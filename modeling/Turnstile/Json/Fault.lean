import Turnstile.Json.Value
import Turnstile.Binary64.Shortest
import Turnstile.Text.Quoted

/-!
# What can be wrong with a JSON text

A text can break the grammar, or say something else than its reader expects.
The first kind is a `Cause` of its own; the second is a `Mismatch`, which also
arises where there is a value but no text.  A `Fault` is a cause together with
its place in a text.

Main definitions:

- `Mismatch.message`, `Cause.message`: the sentences.
- `Fault.position`: line and column of a fault.
- `Fault.message`: sentence, line and column.
-/

namespace Turnstile.Json

/-! ## Unexpected values -/

/-- A value as far as a diagnostic tells one from another. -/
inductive Got
  | null
  | bool (b : Bool)
  | number (n : Number)
  | text (s : String)
  | sequence
  | map
deriving DecidableEq, Repr

/-- The diagnostic view of a value. -/
def Value.got : Value → Got
  | .null => .null
  | .bool b => .bool b
  | .number n => .number n
  | .text s => .text s
  | .array _ => .sequence
  | .object _ => .map

/-- A text between grave accents. -/
def marked (text : String) : String :=
  "\x60" ++ text ++ "\x60"

/-- How a diagnostic names a value. -/
def Got.describe : Got → String
  | .null => "null"
  | .bool b => "boolean " ++ marked (if b then "true" else "false")
  | .number (.int n) => "integer " ++ marked (toString n)
  | .number (.real x) => "floating point " ++ marked (String.ofList x.toScientificText)
  | .text s => "string " ++ Text.quoted s
  | .sequence => "sequence"
  | .map => "map"

/-- Why a value is not what its reader expects. -/
inductive Mismatch
  /-- A value of another kind. -/
  | wrongType (got : Got) (expected : String)
  /-- A value of the right kind outside the range. -/
  | wrongValue (got : Got) (expected : String)
  /-- A sequence that ends after `count` elements. -/
  | wrongLength (count : Nat) (expected : String)
  /-- A required member that is not there. -/
  | missingField (name : String)
  /-- A member that comes twice. -/
  | duplicateField (name : String)
  /-- A name that is none of those listed. -/
  | unknownVariant (name : String) (known : List String)
deriving DecidableEq, Repr

/-- The choice among some names. -/
def oneOf : List String → String
  | [a] => marked a
  | [a, b] => marked a ++ " or " ++ marked b
  | names => "one of " ++ ", ".intercalate (names.map marked)

/-- The sentence for a mismatch. -/
def Mismatch.message : Mismatch → String
  | .wrongType got expected => "invalid type: " ++ got.describe ++ ", expected " ++ expected
  | .wrongValue got expected => "invalid value: " ++ got.describe ++ ", expected " ++ expected
  | .wrongLength count expected =>
      "invalid length " ++ toString count ++ ", expected " ++ expected
  | .missingField name => "missing field " ++ marked name
  | .duplicateField name => "duplicate field " ++ marked name
  | .unknownVariant name known =>
      "unknown variant " ++ marked name ++ ", expected " ++ oneOf known

/-! ## Broken texts -/

/-- Why a text cannot be read. -/
inductive Cause
  /-- The text ends where a value has to come, or inside a word or a number. -/
  | endInValue
  /-- The text ends inside a list. -/
  | endInList
  /-- The text ends inside an object. -/
  | endInObject
  /-- The text ends inside a string. -/
  | endInString
  /-- What comes does not start a value. -/
  | expectedValue
  /-- A word starts like a known one and goes on otherwise. -/
  | expectedWord
  /-- There is no colon behind a name. -/
  | expectedColon
  /-- An element is not followed by a comma or the end of the list. -/
  | expectedListComma
  /-- A member is not followed by a comma or the end of the object. -/
  | expectedObjectComma
  /-- A member does not start with a name. -/
  | keyNotString
  /-- A comma stands in front of a closing bracket. -/
  | trailingComma
  /-- More follows where nothing may. -/
  | trailingCharacters
  /-- Brackets nest deeper than allowed. -/
  | tooDeep
  /-- A number lacks a digit, or starts with a zero too many. -/
  | invalidNumber
  /-- A number is too great for binary64. -/
  | numberOutOfRange
  /-- A backslash is not followed by an escape. -/
  | invalidEscape
  /-- A control character stands in a string without an escape. -/
  | controlCharacter
  /-- One surrogate of a pair stands without the other. -/
  | loneSurrogate
  /-- A first surrogate is not followed by an escape. -/
  | unfinishedPair
  /-- The bytes of a string are not UTF-8. -/
  | invalidUnicode
  /-- The text is well formed but says something else than expected. -/
  | mismatch (m : Mismatch)
deriving DecidableEq, Repr

/-- The sentence for a cause. -/
def Cause.message : Cause → String
  | .endInValue => "EOF while parsing a value"
  | .endInList => "EOF while parsing a list"
  | .endInObject => "EOF while parsing an object"
  | .endInString => "EOF while parsing a string"
  | .expectedValue => "expected value"
  | .expectedWord => "expected ident"
  | .expectedColon => "expected " ++ marked ":"
  | .expectedListComma => "expected " ++ marked "," ++ " or " ++ marked "]"
  | .expectedObjectComma => "expected " ++ marked "," ++ " or " ++ marked "\x7d"
  | .keyNotString => "key must be a string"
  | .trailingComma => "trailing comma"
  | .trailingCharacters => "trailing characters"
  | .tooDeep => "recursion limit exceeded"
  | .invalidNumber => "invalid number"
  | .numberOutOfRange => "number out of range"
  | .invalidEscape => "invalid escape"
  | .controlCharacter => "control character (\\u0000-\\u001F) found while parsing a string"
  | .loneSurrogate => "lone leading surrogate in hex escape"
  | .unfinishedPair => "unexpected end of hex escape"
  | .invalidUnicode => "invalid unicode code point"
  | .mismatch m => m.message

/-! ## Places -/

/-- A cause and its place in a text: in front of the last `left` bytes, and
`back` columns to the left of that. -/
structure Fault where
  cause : Cause
  left : Nat
  back : Nat
deriving DecidableEq, Repr

/-- A fault behind what has been read. -/
def Fault.behind (cause : Cause) (rest : List UInt8) : Fault :=
  ⟨cause, rest.length, 0⟩

/-- A fault at the byte that comes next: its place is behind that byte, or at
the end of the text when there is none. -/
def Fault.next (cause : Cause) (rest : List UInt8) : Fault :=
  ⟨cause, rest.length - 1, 0⟩

/-- Line and column behind some bytes: lines count from one, and a column is the
number of bytes since the line began. -/
def positionAfter (bytes : List UInt8) : Nat × Nat :=
  bytes.foldl
    (fun (line, column) (b : UInt8) => if b = 0x0A then (line + 1, 0) else (line, column + 1))
    (1, 0)

/-- Line and column of a fault in its text. -/
def Fault.position (fault : Fault) (text : List UInt8) : Nat × Nat :=
  let (line, column) := positionAfter (text.take (text.length - fault.left))
  (line, column - fault.back)

/-- Sentence, line and column. -/
def Fault.message (fault : Fault) (text : List UInt8) : String :=
  let (line, column) := fault.position text
  fault.cause.message ++ " at line " ++ toString line ++ " column " ++ toString column

end Turnstile.Json
