import Turnstile.Json.Fault

/-!
# Marks, blanks and words

The smallest pieces of a JSON text.  A reader takes the bytes that are still to
be read and gives back a value together with the bytes it left over, or a fault.
-/

namespace Turnstile.Json

/-- A reader of values of a type. -/
abbrev Reader (α : Type) := List UInt8 → Except Fault (α × List UInt8)

/-! ## Marks -/

namespace Byte

def quote : UInt8 := 0x22
def backslash : UInt8 := 0x5C
def comma : UInt8 := 0x2C
def colon : UInt8 := 0x3A
def openList : UInt8 := 0x5B
def closeList : UInt8 := 0x5D
def openObject : UInt8 := 0x7B
def closeObject : UInt8 := 0x7D
def minus : UInt8 := 0x2D
def plus : UInt8 := 0x2B
def point : UInt8 := 0x2E
def zero : UInt8 := 0x30

/-- An ASCII decimal digit. -/
def isDigit (b : UInt8) : Bool :=
  0x30 ≤ b && b ≤ 0x39

/-- The value of a decimal digit. -/
def digitValue (b : UInt8) : Nat :=
  b.toNat - 48

/-- The mark of a power of ten, in either case. -/
def isPowerMark (b : UInt8) : Bool :=
  b == 0x65 || b == 0x45

/-- A blank between tokens: space, tab, line feed or carriage return. -/
def isBlank (b : UInt8) : Bool :=
  b == 0x20 || b == 0x09 || b == 0x0A || b == 0x0D

end Byte

/-- The bytes after any blanks. -/
def skipBlanks (bytes : List UInt8) : List UInt8 :=
  bytes.dropWhile Byte.isBlank

/-! ## Words -/

/-- Reads the given letters and nothing else. -/
def readLetters : (letters : List UInt8) → List UInt8 → Except Fault (List UInt8)
  | [], rest => .ok rest
  | _ :: _, [] => .error (.behind .endInValue [])
  | letter :: letters, b :: rest =>
      if b = letter then readLetters letters rest else .error (.behind .expectedWord rest)

/-- The letters of `null` after the first. -/
def nullTail : List UInt8 := [0x75, 0x6C, 0x6C]

/-- The letters of `true` after the first. -/
def trueTail : List UInt8 := [0x72, 0x75, 0x65]

/-- The letters of `false` after the first. -/
def falseTail : List UInt8 := [0x61, 0x6C, 0x73, 0x65]

/-- The letters that follow the first letter of a word, and the word's meaning. -/
def wordOf? (first : UInt8) : Option (List UInt8 × Got) :=
  if first = 0x6E then some (nullTail, .null)
  else if first = 0x74 then some (trueTail, .bool true)
  else if first = 0x66 then some (falseTail, .bool false)
  else none

/-! ## Separators -/

/-- What comes next inside a list or an object: its end, or one more entry. -/
inductive Next
  /-- The closing bracket has been read. -/
  | closed (rest : List UInt8)
  /-- An entry starts here. -/
  | entry (bytes : List UInt8)

/-- Goes to the next element of a list; `first` before any element was read. -/
def nextElement (first : Bool) (bytes : List UInt8) : Except Fault Next :=
  match skipBlanks bytes with
  | [] => .error (.next .endInList [])
  | b :: rest =>
      if b = Byte.closeList then .ok (.closed rest)
      else if first then .ok (.entry (b :: rest))
      else if b = Byte.comma then
        match skipBlanks rest with
        | [] => .error (.next .endInValue [])
        | c :: rest =>
            if c = Byte.closeList then .error (.next .trailingComma (c :: rest))
            else .ok (.entry (c :: rest))
      else .error (.next .expectedListComma (b :: rest))

/-- Goes to the next member of an object, behind the quote that opens its name;
`first` before any member was read. -/
def nextMember (first : Bool) (bytes : List UInt8) : Except Fault Next :=
  match skipBlanks bytes with
  | [] => .error (.next .endInObject [])
  | b :: rest =>
      if b = Byte.closeObject then .ok (.closed rest)
      else if first then
        if b = Byte.quote then .ok (.entry rest)
        else .error (.next .keyNotString (b :: rest))
      else if b = Byte.comma then
        match skipBlanks rest with
        | [] => .error (.next .endInValue [])
        | c :: rest =>
            if c = Byte.quote then .ok (.entry rest)
            else if c = Byte.closeObject then .error (.next .trailingComma (c :: rest))
            else .error (.next .keyNotString (c :: rest))
      else .error (.next .expectedObjectComma (b :: rest))

/-- Reads the colon between a name and its value. -/
def readColon (bytes : List UInt8) : Except Fault (List UInt8) :=
  match skipBlanks bytes with
  | [] => .error (.next .endInObject [])
  | b :: rest =>
      if b = Byte.colon then .ok rest else .error (.next .expectedColon (b :: rest))

/-- Nothing but blanks may follow a complete text. -/
def readEnd (bytes : List UInt8) : Except Fault Unit :=
  match skipBlanks bytes with
  | [] => .ok ()
  | b :: rest => .error (.next .trailingCharacters (b :: rest))

end Turnstile.Json
