import Turnstile.Json.Number
import Turnstile.Json.Quotation

/-!
# Reading JSON values

Values are read in one pass.  How deep lists and objects may nest is given by
the number of brackets that may still be opened.

Main definitions:

- `readScalar`: a value without parts, or a look at the bracket of one with parts.
- `readValue`: any value.
- `readMembers`: the members of an object.
-/

namespace Turnstile.Json

/-- Reads a value without parts.  In front of a list or an object it stops at
the bracket, with every byte of it still to be read. -/
def readScalar : Reader Got := fun bytes =>
  match skipBlanks bytes with
  | [] => .error (.next .endInValue [])
  | b :: rest =>
      match wordOf? b with
      | some (letters, word) => (readLetters letters rest).map fun rest => (word, rest)
      | none =>
          if b = Byte.minus then
            (readNumber true rest).map fun (number, rest) => (.number number, rest)
          else if Byte.isDigit b then
            (readNumber false (b :: rest)).map fun (number, rest) => (.number number, rest)
          else if b = Byte.quote then
            (readString rest).map fun (text, rest) => (.text text, rest)
          else if b = Byte.openList then .ok (.sequence, b :: rest)
          else if b = Byte.openObject then .ok (.map, b :: rest)
          else .error (.next .expectedValue (b :: rest))

/-- Reads the elements of a list behind its bracket, onto the reversed elements
`seen`.  An element has a byte at least, so `fuel` above the number of bytes is
enough. -/
def readElements {α : Type} (element : Reader α) :
    (fuel : Nat) → (seen : List α) → Reader (List α)
  | 0, _, rest => .error (.next .endInList rest)
  | fuel + 1, seen, bytes => do
      match ← nextElement seen.isEmpty bytes with
      | .closed rest => return (seen.reverse, rest)
      | .entry bytes =>
          let (a, rest) ← element bytes
          readElements element fuel (a :: seen) rest

/-- Reads the members of an object behind its bracket, onto the reversed members
`seen`. -/
def readEntries {α : Type} (value : Reader α) :
    (fuel : Nat) → (seen : List (String × α)) → Reader (List (String × α))
  | 0, _, rest => .error (.next .endInObject rest)
  | fuel + 1, seen, bytes => do
      match ← nextMember seen.isEmpty bytes with
      | .closed rest => return (seen.reverse, rest)
      | .entry bytes =>
          let (name, rest) ← readString bytes
          let rest ← readColon rest
          let (a, rest) ← value rest
          readEntries value fuel ((name, a) :: seen) rest

/-- Reads a value that opens at most `room` brackets inside one another. -/
def readValue : (room : Nat) → Reader Value
  | room, bytes => do
      match ← readScalar bytes with
      | (.null, rest) => return (.null, rest)
      | (.bool b, rest) => return (.bool b, rest)
      | (.number n, rest) => return (.number n, rest)
      | (.text s, rest) => return (.text s, rest)
      | (.sequence, rest) =>
          match room with
          | 0 => .error (.next .tooDeep rest)
          | room + 1 =>
              let (items, rest) ← readElements (readValue room) rest.length [] (rest.drop 1)
              return (.array items, rest)
      | (.map, rest) =>
          match room with
          | 0 => .error (.next .tooDeep rest)
          | room + 1 =>
              let (members, rest) ← readEntries (readValue room) rest.length [] (rest.drop 1)
              return (.object members, rest)

/-- Reads the members of an object that opens at most `room` brackets inside one
another, its own included. -/
def readMembers (room : Nat) : Reader Members := fun bytes => do
  match ← readScalar bytes with
  | (.map, rest) =>
      match room with
      | 0 => .error (.next .tooDeep rest)
      | room + 1 => readEntries (readValue room) rest.length [] (rest.drop 1)
  | (got, rest) => .error (.behind (.mismatch (.wrongType got "a map")) rest)

end Turnstile.Json
