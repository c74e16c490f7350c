import Turnstile.Json.Number
import Turnstile.Json.Quotation

/-!
# Skipping JSON values

A value that nobody asked for is checked against the grammar and dropped.  The
brackets that are open are kept on a stack, so there is no bound on how deep
they nest.

Main definitions:

- `stepSkip`: one value without parts, one bracket or one separator.
- `skipValue`: goes behind a whole value.
-/

namespace Turnstile.Json

/-- A bracket that is open. -/
inductive Frame
  | list
  | object
deriving DecidableEq, Repr

/-- What the stack machine has in front of it. -/
inductive SkipState
  /-- A value, inside the brackets on the stack. -/
  | value (stack : List Frame)
  /-- The next entry of the bracket opened last, or its end; `first` before any entry. -/
  | entry (first : Bool) (frame : Frame) (outer : List Frame)
  /-- Nothing more. -/
  | done
deriving DecidableEq, Repr

/-- The state behind a complete value. -/
def SkipState.afterValue : List Frame → SkipState
  | [] => .done
  | frame :: outer => .entry false frame outer

/-- Skips a value without parts, or opens a bracket. -/
def skipPiece (stack : List Frame) (bytes : List UInt8) :
    Except Fault (SkipState × List UInt8) :=
  match skipBlanks bytes with
  | [] => .error (.next .endInValue [])
  | b :: rest =>
      match wordOf? b with
      | some (letters, _) =>
          (readLetters letters rest).map fun rest => (.afterValue stack, rest)
      | none =>
          if b = Byte.minus then
            (scanLiteral .invalidNumber true rest).map fun (_, rest) => (.afterValue stack, rest)
          else if Byte.isDigit b then
            (scanLiteral .invalidNumber false (b :: rest)).map
              fun (_, rest) => (.afterValue stack, rest)
          else if b = Byte.quote then
            (skipString .plain rest).map fun rest => (.afterValue stack, rest)
          else if b = Byte.openList then .ok (.entry true .list stack, rest)
          else if b = Byte.openObject then .ok (.entry true .object stack, rest)
          else .error (.next .expectedValue (b :: rest))

/-- The mark that closes a bracket. -/
def Frame.closer : Frame → UInt8
  | .list => Byte.closeList
  | .object => Byte.closeObject

/-- The cause when a text ends inside a bracket. -/
def Frame.ended : Frame → Cause
  | .list => .endInList
  | .object => .endInObject

/-- The cause when a separator is missing inside a bracket. -/
def Frame.unseparated : Frame → Cause
  | .list => .expectedListComma
  | .object => .expectedObjectComma

/-- Goes to the value of the next entry: the name and its colon come first in an
object. -/
def skipName (frame : Frame) (bytes : List UInt8) : Except Fault (List UInt8) :=
  match frame with
  | .list => .ok bytes
  | .object =>
      match skipBlanks bytes with
      | [] => .error (.next .endInObject [])
      | b :: rest =>
          if b = Byte.quote then do
            let rest ← skipString .plain rest
            readColon rest
          else .error (.next .keyNotString (b :: rest))

/-- Goes to the next entry of the bracket opened last, or behind its end. -/
def skipEntry (first : Bool) (frame : Frame) (outer : List Frame) (bytes : List UInt8) :
    Except Fault (SkipState × List UInt8) :=
  match skipBlanks bytes with
  | [] => .error (.next frame.ended [])
  | b :: rest =>
      if b = frame.closer then .ok (.afterValue outer, rest)
      else if first then
        (skipName frame (b :: rest)).map fun rest => (.value (frame :: outer), rest)
      else if b = Byte.comma then
        (skipName frame rest).map fun rest => (.value (frame :: outer), rest)
      else .error (.next frame.unseparated (b :: rest))

/-- One step of the stack machine. -/
def stepSkip (state : SkipState) (bytes : List UInt8) :
    Except Fault (SkipState × List UInt8) :=
  match state with
  | .value stack => skipPiece stack bytes
  | .entry first frame outer => skipEntry first frame outer bytes
  | .done => .ok (.done, bytes)

/-- Runs the stack machine to its end. -/
def runSkip : (fuel : Nat) → SkipState → List UInt8 → Except Fault (List UInt8)
  | _, .done, bytes => .ok bytes
  | 0, _, bytes => .error (.next .endInValue bytes)
  | fuel + 1, state, bytes =>
      match stepSkip state bytes with
      | .ok (state, rest) => runSkip fuel state rest
      | .error fault => .error fault

/-- Goes behind a value.  Every second step takes a byte at least. -/
def skipValue (bytes : List UInt8) : Except Fault (List UInt8) :=
  runSkip (2 * bytes.length + 2) (.value []) bytes

end Turnstile.Json
