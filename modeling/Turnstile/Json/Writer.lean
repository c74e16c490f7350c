import Turnstile.Json.Value
import Turnstile.Binary64.Shortest

/-!
# Writing JSON values

The compact text of a value: no blanks, members in the order of the object.  A
string escapes the quote, the backslash and the control characters below the
space, with the short escapes where there are any; all else is written as it is.

Main definitions:

- `Value.toChars`: the characters.
- `Value.toText`: the same as a string.
-/

namespace Turnstile.Json

/-- The decimal text of an integer. -/
def intChars (n : Int) : List Char :=
  if n < 0 then '-' :: Nat.toDigits 10 n.natAbs else Nat.toDigits 10 n.natAbs

/-- The text of a number; binary64 numbers always show that they are no integers. -/
def Number.toChars : Number → List Char
  | .int n => intChars n
  | .real x => x.toScientificText

/-- The four hexadecimal digits of a control character. -/
def controlDigits (n : Nat) : List Char :=
  ['0', '0'] ++ (if n < 16 then ['0'] else []) ++ Nat.toDigits 16 n

/-- One character of a string. -/
def escapeChar (c : Char) : List Char :=
  if c = '"' then ['\\', '"']
  else if c = '\\' then ['\\', '\\']
  else if c = '\x08' then ['\\', 'b']
  else if c = '\x0c' then ['\\', 'f']
  else if c = '\n' then ['\\', 'n']
  else if c = '\r' then ['\\', 'r']
  else if c = '\t' then ['\\', 't']
  else if c.toNat < 0x20 then ['\\', 'u'] ++ controlDigits c.toNat
  else [c]

/-- A string between quotes. -/
def stringChars (s : String) : List Char :=
  '"' :: s.toList.flatMap escapeChar ++ ['"']

/-- The words for the two truth values. -/
def boolChars (b : Bool) : List Char :=
  if b then ['t', 'r', 'u', 'e'] else ['f', 'a', 'l', 's', 'e']

mutual

/-- The compact text of a value. -/
def Value.toChars : Value → List Char
  | .null => ['n', 'u', 'l', 'l']
  | .bool b => boolChars b
  | .number n => n.toChars
  | .text s => stringChars s
  | .array items => '[' :: itemsChars items ++ [']']
  | .object members => '\x7b' :: membersChars members ++ ['\x7d']

/-- The elements of a list, a comma between any two. -/
def itemsChars : List Value → List Char
  | [] => []
  | item :: items =>
      item.toChars ++ (if items.isEmpty then [] else ',' :: itemsChars items)

/-- The members of an object, a comma between any two. -/
def membersChars : List (String × Value) → List Char
  | [] => []
  | (name, value) :: members =>
      stringChars name ++ ':' :: value.toChars ++
        (if members.isEmpty then [] else ',' :: membersChars members)

end

/-- The compact text of a value, as a string. -/
def Value.toText (value : Value) : String :=
  String.ofList value.toChars

end Turnstile.Json
