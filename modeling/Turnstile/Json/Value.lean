import Turnstile.Binary64.Basic

/-!
# JSON values

A value is what a text says once its layout is forgotten.  Integers that fit in
sixty-four bits, signed or unsigned, are kept apart from all other numbers, and
an object keeps its members in the order of the text.  Of members with one
name, the last one counts.
-/

namespace Turnstile.Json

/-- A number: an integer that fits in sixty-four bits, or a binary64 number. -/
inductive Number
  | int (n : Int)
  | real (x : Binary64)
deriving DecidableEq, Repr

/-- A JSON value. -/
inductive Value
  | null
  | bool (b : Bool)
  | number (n : Number)
  | text (s : String)
  | array (items : List Value)
  | object (members : List (String × Value))

/-- The members of an object. -/
abbrev Members := List (String × Value)

/-- The value of the last member with a name. -/
def Members.find? (members : Members) (name : String) : Option Value :=
  (members.reverse.find? fun member => member.1 == name).map (·.2)

/-- An integer as a value. -/
def Value.ofInt (n : Int) : Value :=
  .number (.int n)

/-- A value, or null in place of none. -/
def Value.ofOption {α : Type} (toValue : α → Value) : Option α → Value
  | none => .null
  | some a => toValue a

end Turnstile.Json
