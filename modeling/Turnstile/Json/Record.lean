import Turnstile.Json.Reader
import Turnstile.Json.Skip

/-!
# Reading records

A record is read straight from a text into a draft: either from an object, whose
members come in any order and may include strangers, or from a list of the
values in the order of the fields.  A fault of the record as a whole has its
place behind the bracket that closes it, when that comes next.

Main definitions:

- `Got.toText`, `Got.toInteger`, `Got.toReal`, `Got.orNull`: what a field accepts.
- `Shape`: the fields of a record.
- `Shape.read`: a record from a text.
- `readVariant`: a name out of a fixed choice.
-/

namespace Turnstile.Json

/-! ## What a field accepts -/

/-- A string. -/
def Got.toText : Got → Except Mismatch String
  | .text s => .ok s
  | got => .error (.wrongType got "a string")

/-- An integer between two bounds, for a type of the given name. -/
def Got.toInteger (least greatest : Int) (type : String) : Got → Except Mismatch Int
  | .number (.int n) =>
      if least ≤ n ∧ n ≤ greatest then .ok n
      else .error (.wrongValue (.number (.int n)) type)
  | got => .error (.wrongType got type)

/-- A signed integer of sixty-four bits. -/
def Got.toInt64 : Got → Except Mismatch Int :=
  Got.toInteger (-0x8000000000000000) 0x7FFFFFFFFFFFFFFF "i64"

/-- An unsigned integer of thirty-two bits. -/
def Got.toUInt32 (got : Got) : Except Mismatch Nat :=
  (Got.toInteger 0 0xFFFFFFFF "u32" got).map Int.toNat

/-- Any number, as a binary64 number. -/
def Got.toReal : Got → Except Mismatch Binary64
  | .number (.int n) => .ok (.ofInt n)
  | .number (.real x) => .ok x
  | got => .error (.wrongType got "f64")

/-- Null stands for nothing; anything else has to be accepted. -/
def Got.orNull {α : Type} (accept : Got → Except Mismatch α) :
    Got → Except Mismatch (Option α)
  | .null => .ok none
  | got => (accept got).map some

/-- A field that has to be there. -/
def require {α : Type} (name : String) : Option α → Except Mismatch α
  | some a => .ok a
  | none => .error (.missingField name)

/-! ## Fields -/

/-- Reads a scalar that is accepted.  A mismatch has its place behind the scalar,
or in front of the bracket of a list or an object. -/
def readAs {α : Type} (accept : Got → Except Mismatch α) : Reader α := fun bytes => do
  let (got, rest) ← readScalar bytes
  match accept got with
  | .ok a => return (a, rest)
  | .error mismatch => .error (.behind (.mismatch mismatch) rest)

/-- A field of a record that is drafted in `δ`. -/
structure RecordField (δ : Type) where
  /-- The name of the member. -/
  name : String
  /-- Whether a list may end in front of it. -/
  optional : Bool
  /-- Whether the draft has it already. -/
  filled : δ → Bool
  /-- Reads the value into the draft; `room` brackets may still be opened. -/
  fill : (room : Nat) → δ → Reader δ

/-- The layout of a record of type `α`. -/
structure Shape (δ α : Type) where
  /-- How a diagnostic names the record. -/
  title : String
  /-- The draft before any field was read. -/
  blank : δ
  /-- The fields, in the order of the list form. -/
  fields : List (RecordField δ)
  /-- The record of a draft, when nothing is missing. -/
  finish : δ → Except Mismatch α

namespace Shape

variable {δ α : Type}

/-- A field by its name. -/
def field? (shape : Shape δ α) (name : String) : Option (RecordField δ) :=
  shape.fields.find? fun field => field.name == name

/-- What reading the inside of a record comes to. -/
inductive Outcome (δ : Type)
  /-- Every entry was read. -/
  | complete (draft : δ) (rest : List UInt8)
  /-- The record as a whole is not as it should be; the place is in front of `rest`. -/
  | clash (mismatch : Mismatch) (rest : List UInt8)

/-- Goes to what comes next, and behind it when it closes the object. -/
def settle (bytes : List UInt8) : List UInt8 :=
  match skipBlanks bytes with
  | [] => []
  | b :: rest => if b = Byte.closeObject then rest else b :: rest

/-- Reads the members of a record in object form.  Unknown members are skipped,
and a known one may come once. -/
def readMembers (shape : Shape δ α) (room : Nat) :
    (fuel : Nat) → (first : Bool) → (draft : δ) → List UInt8 → Except Fault (Outcome δ)
  | 0, _, _, bytes => .error (.next .endInObject bytes)
  | fuel + 1, first, draft, bytes => do
      match ← nextMember first bytes with
      | .closed rest => return .complete draft rest
      | .entry bytes =>
          let (name, rest) ← readString bytes
          match shape.field? name with
          | none =>
              let rest ← readColon rest
              let rest ← skipValue rest
              readMembers shape room fuel false draft rest
          | some field =>
              if field.filled draft then return .clash (.duplicateField name) (settle rest)
              else
                let rest ← readColon rest
                let (draft, rest) ← field.fill room draft rest
                readMembers shape room fuel false draft rest

/-- Reads the values of a record in list form, `count` of them having been read.
A list may end in front of an optional field, and then all later ones are absent. -/
def readItems (room : Nat) :
    (fields : List (RecordField δ)) → (count : Nat) → (title : String) → (draft : δ) →
      List UInt8 → Except Fault (Outcome δ)
  | [], _, _, draft, bytes =>
      match skipBlanks bytes with
      | [] => .error (.next .endInList [])
      | b :: rest =>
          if b = Byte.closeList then .ok (.complete draft rest)
          else if b = Byte.comma then
            match skipBlanks rest with
            | [] => .error (.next .trailingCharacters [])
            | c :: rest =>
                .error (.next (if c = Byte.closeList then .trailingComma else .trailingCharacters)
                  (c :: rest))
          else .error (.next .trailingCharacters (b :: rest))
  | field :: fields, count, title, draft, bytes => do
      match ← nextElement (count == 0) bytes with
      | .closed rest =>
          match (field :: fields).findIdx? (!·.optional) with
          | some ahead => return .clash (.wrongLength (count + ahead) title) rest
          | none => return .complete draft rest
      | .entry bytes =>
          let (draft, rest) ← field.fill room draft bytes
          readItems room fields (count + 1) title draft rest

/-- How a diagnostic names the length that a list form should have. -/
def lengthTitle (shape : Shape δ α) : String :=
  shape.title ++ " with " ++ toString shape.fields.length ++ " elements"

/-- Ends a record: its draft is finished, and a mismatch gets its place. -/
def conclude (shape : Shape δ α) : Outcome δ → Except Fault (α × List UInt8)
  | .complete draft rest =>
      match shape.finish draft with
      | .ok a => .ok (a, rest)
      | .error mismatch => .error (.behind (.mismatch mismatch) rest)
  | .clash mismatch rest => .error (.behind (.mismatch mismatch) rest)

/-- Reads a record that opens at most `room` brackets inside one another, its
own included. -/
def read (shape : Shape δ α) (room : Nat) : Reader α := fun bytes => do
  match ← readScalar bytes with
  | (.sequence, rest) =>
      match room with
      | 0 => .error (.next .tooDeep rest)
      | room + 1 =>
          let outcome ← readItems room shape.fields 0 shape.lengthTitle shape.blank (rest.drop 1)
          shape.conclude outcome
  | (.map, rest) =>
      match room with
      | 0 => .error (.next .tooDeep rest)
      | room + 1 =>
          let outcome ← shape.readMembers room rest.length true shape.blank (rest.drop 1)
          shape.conclude outcome
  | (got, rest) => .error (.behind (.mismatch (.wrongType got shape.title)) rest)

end Shape

/-! ## Choices -/

/-- A name out of a fixed choice. -/
def Got.toVariant (known : List String) : Got → Except Mismatch String
  | .text s => if known.contains s then .ok s else .error (.unknownVariant s known)
  | got => .error (.wrongType got "variant identifier")

/-- Null and nothing else. -/
def Got.toUnit : Got → Except Mismatch Unit
  | .null => .ok ()
  | got => .error (.wrongType got "unit")

/-- Goes to the name in an object that stands for a choice, in front of its opening
quote.  There has to be a name. -/
def variantName (bytes : List UInt8) : Except Fault (List UInt8) := do
  match ← nextMember true bytes with
  | .entry rest => return Byte.quote :: rest
  | .closed rest => .error (.next .expectedValue (Byte.closeObject :: rest))

/-- Reads a name out of a fixed choice: a string, or an object with the name as
its one member and null as the value. -/
def readVariant (known : List String) (room : Nat) : Reader String := fun bytes =>
  match skipBlanks bytes with
  | [] => .error (.next .endInValue [])
  | b :: rest =>
      if b = Byte.quote then readAs (Got.toVariant known) (b :: rest)
      else if b = Byte.openObject then
        match room with
        | 0 => .error (.next .tooDeep (b :: rest))
        | _ + 1 => do
            let quotation ← variantName rest
            let (name, rest) ← readAs (Got.toVariant known) quotation
            let rest ← readColon rest
            let ((), rest) ← readAs Got.toUnit rest
            match skipBlanks rest with
            | [] => .error (.behind .endInObject [])
            | c :: rest =>
                if c = Byte.closeObject then return (name, rest)
                else .error (.behind .expectedValue (c :: rest))
      else .error (.next .expectedValue (b :: rest))

/-! ## Whole texts -/

/-- How deep brackets may nest in a text. -/
def depthLimit : Nat := 127

/-- Reads a text that is one value, with nothing but blanks around it. -/
def readText {α : Type} (reader : Reader α) (text : List UInt8) : Except Fault α := do
  let (a, rest) ← reader text
  readEnd rest
  return a

end Turnstile.Json
