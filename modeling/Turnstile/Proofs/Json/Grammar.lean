import Turnstile.Json.Number
import Turnstile.Json.Quotation
import Turnstile.Json.Value

/-!
# JSON texts with their layout

A JSON text is more than the value that it stands for: it has blanks between its tokens,
and a string or a number can be spelled in several ways.  A `Tree` is a text with all of
that, so that its bytes can be written down and its value read off it without a reader.
Some texts are well formed and still have no value, because an escape stands for half a
character or a number is out of range.

Main definitions:

- `Blanks`, `Piece`, `Numeral`: the tokens.
- `Tree`, `Tree.bytes`, `Tree.value?`: a text, its bytes, and its value.
- `Tree.induct`: induction on the parts of a text.
- `Value.depth`: how deep the brackets of a value nest.
-/

namespace Turnstile.Json

/-! ## Blanks -/

/-- Blanks between two tokens. -/
structure Blanks where
  bytes : List UInt8
  blank : ∀ b ∈ bytes, Byte.isBlank b = true

/-- No blanks at all. -/
def Blanks.none : Blanks where
  bytes := []
  blank := by simp

/-! ## Strings -/

/-- A piece of a string between its quotes. -/
inductive Piece
  /-- A byte that stands for itself. -/
  | plain (b : UInt8) (ordinary : b ≠ Byte.quote ∧ b ≠ Byte.backslash ∧ 0x20 ≤ b)
  /-- A backslash and the letter of a control character or a mark. -/
  | short (letter c : UInt8) (known : escaped? letter = some c)
  /-- A hexadecimal escape. -/
  | code (w x y z : UInt8) (n : Nat) (digits : Text.Hex.value4? w x y z = some n)

/-- The bytes of a piece. -/
def Piece.bytes : Piece → List UInt8
  | .plain b _ => [b]
  | .short letter _ _ => [Byte.backslash, letter]
  | .code w x y z _ _ => [Byte.backslash, hexLetter, w, x, y, z]

/-- The bytes of a string behind its opening quote, the closing one included. -/
def quotedBytes (pieces : List Piece) : List UInt8 :=
  pieces.flatMap Piece.bytes ++ [Byte.quote]

/-- The bytes that the pieces of a string stand for; a surrogate without its partner
stands for nothing. -/
def content? : List Piece → Option (List UInt8)
  | [] => some []
  | .plain b _ :: pieces => (content? pieces).map (b :: ·)
  | .short _ c _ :: pieces => (content? pieces).map (c :: ·)
  | .code _ _ _ _ n _ :: pieces =>
      if isTrail n then none
      else if isLead n then
        match pieces with
        | .code _ _ _ _ m _ :: pieces =>
            if isTrail m then
              (content? pieces).map (Text.Utf8.encodeChar (Char.ofNat (pairCode n m)) ++ ·)
            else none
        | _ => none
      else (content? pieces).map (Text.Utf8.encodeChar (Char.ofNat n) ++ ·)

/-- What the pieces of a string say. -/
def text? (pieces : List Piece) : Option String :=
  ((content? pieces).bind Text.Utf8.decode?).map String.ofList

/-! ## Numbers -/

/-- A literal that follows the grammar: a whole part without a zero too many, and digits
alone everywhere. -/
structure Literal.Formed (literal : Literal) : Prop where
  whole_ne_nil : literal.whole ≠ []
  whole_digits : ∀ b ∈ literal.whole, Byte.isDigit b = true
  whole_lead : literal.whole.head? = some Byte.zero → literal.whole = [Byte.zero]
  fraction_digits : ∀ b ∈ literal.fraction, Byte.isDigit b = true
  power_digits : ∀ b ∈ literal.power, Byte.isDigit b = true
  unpowered : literal.power = [] → literal.powerNegative = false

/-- A number as it is written. -/
structure Numeral where
  literal : Literal
  /-- The mark in front of the power, if there is one. -/
  mark : UInt8
  /-- Whether a power that is not negative has a sign. -/
  plus : Bool
  formed : literal.Formed
  marks : Byte.isPowerMark mark = true

namespace Numeral

/-- The sign of a power. -/
def powerSign (numeral : Numeral) : List UInt8 :=
  if numeral.literal.powerNegative then [Byte.minus]
  else if numeral.plus then [Byte.plus]
  else []

/-- The point and the fraction. -/
def fractionBytes (numeral : Numeral) : List UInt8 :=
  if numeral.literal.fraction = [] then [] else Byte.point :: numeral.literal.fraction

/-- The power with its mark and its sign. -/
def powerBytes (numeral : Numeral) : List UInt8 :=
  if numeral.literal.power = [] then []
  else numeral.mark :: (numeral.powerSign ++ numeral.literal.power)

/-- The bytes of a number behind its sign. -/
def unsignedBytes (numeral : Numeral) : List UInt8 :=
  numeral.literal.whole ++ (numeral.fractionBytes ++ numeral.powerBytes)

/-- The bytes of a number. -/
def bytes (numeral : Numeral) : List UInt8 :=
  if numeral.literal.negative then Byte.minus :: numeral.unsignedBytes else numeral.unsignedBytes

/-- The number, unless it is out of range. -/
def number? (numeral : Numeral) : Option Number :=
  (numeral.literal.value []).toOption

end Numeral

/-! ## Texts -/

/-- An element of a list with the blanks around it. -/
structure Element (τ : Type) where
  before : Blanks
  tree : τ
  after : Blanks

/-- A member of an object: its name, the colon and its value, with the blanks around
each of them. -/
structure Member (τ : Type) where
  before : Blanks
  name : List Piece
  beforeColon : Blanks
  afterColon : Blanks
  tree : τ
  after : Blanks

/-- A JSON text.  Where a list or an object has no entries, there are blanks between its
brackets. -/
inductive Tree
  | null
  | bool (b : Bool)
  | number (numeral : Numeral)
  | text (pieces : List Piece)
  | array (gap : Blanks) (items : List (Element Tree))
  | object (gap : Blanks) (members : List (Member Tree))

/-- Induction on the parts of a text. -/
theorem Tree.induct {motive : Tree → Prop} (null : motive .null) (bool : ∀ b, motive (.bool b))
    (number : ∀ numeral, motive (.number numeral)) (text : ∀ pieces, motive (.text pieces))
    (array : ∀ gap items, (∀ item ∈ items, motive item.tree) → motive (.array gap items))
    (object : ∀ gap members, (∀ member ∈ members, motive member.tree) →
      motive (.object gap members)) (tree : Tree) : motive tree := by
  refine Tree.rec (motive_1 := motive)
    (motive_2 := fun items => ∀ item ∈ items, motive item.tree)
    (motive_3 := fun members => ∀ member ∈ members, motive member.tree)
    (motive_4 := fun item => motive item.tree) (motive_5 := fun member => motive member.tree)
    null bool number text array object ?_ ?_ ?_ ?_ ?_ ?_ tree
  · simp
  · intro item items hitem hitems
    exact List.forall_mem_cons.mpr ⟨hitem, hitems⟩
  · simp
  · intro member members hmember hmembers
    exact List.forall_mem_cons.mpr ⟨hmember, hmembers⟩
  · intro _ _ _ htree
    exact htree
  · intro _ _ _ _ _ _ htree
    exact htree

/-! ## Bytes -/

/-- The comma in front of an entry that is not the first. -/
def separator (first : Bool) : List UInt8 :=
  if first then [] else [Byte.comma]

mutual

/-- The bytes of a text. -/
def Tree.bytes : Tree → List UInt8
  | .null => 0x6E :: nullTail
  | .bool true => 0x74 :: trueTail
  | .bool false => 0x66 :: falseTail
  | .number numeral => numeral.bytes
  | .text pieces => Byte.quote :: quotedBytes pieces
  | .array gap items => Byte.openList :: (gap.bytes ++ (itemsBytes true items ++ [Byte.closeList]))
  | .object gap members =>
      Byte.openObject :: (gap.bytes ++ (membersBytes true members ++ [Byte.closeObject]))

/-- The elements of a list, a comma between any two; `first` when none stands before them. -/
def itemsBytes (first : Bool) : List (Element Tree) → List UInt8
  | [] => []
  | ⟨before, tree, after⟩ :: items =>
      separator first ++ (before.bytes ++ (tree.bytes ++ (after.bytes ++ itemsBytes false items)))

/-- The members of an object, a comma between any two. -/
def membersBytes (first : Bool) : List (Member Tree) → List UInt8
  | [] => []
  | ⟨before, name, beforeColon, afterColon, tree, after⟩ :: members =>
      separator first ++ (before.bytes ++ Byte.quote :: (quotedBytes name ++
        (beforeColon.bytes ++ Byte.colon :: (afterColon.bytes ++ (tree.bytes ++
          (after.bytes ++ membersBytes false members))))))

end

/-! ## Values -/

mutual

/-- The value of a text. -/
def Tree.value? : Tree → Option Value
  | .null => some .null
  | .bool b => some (.bool b)
  | .number numeral => numeral.number?.map .number
  | .text pieces => (text? pieces).map .text
  | .array _ items => (itemValues? items).map .array
  | .object _ members => (memberValues? members).map .object

/-- The values of the elements of a list. -/
def itemValues? : List (Element Tree) → Option (List Value)
  | [] => some []
  | ⟨_, tree, _⟩ :: items =>
      match tree.value?, itemValues? items with
      | some value, some values => some (value :: values)
      | _, _ => none

/-- The members of an object by name. -/
def memberValues? : List (Member Tree) → Option Members
  | [] => some []
  | ⟨_, name, _, _, tree, _⟩ :: members =>
      match text? name, tree.value?, memberValues? members with
      | some name, some value, some values => some ((name, value) :: values)
      | _, _, _ => none

end

/-! ## Depth -/

mutual

/-- How many brackets of a value are open at most at one place of its text. -/
def Value.depth : Value → Nat
  | .array items => itemsDepth items + 1
  | .object members => membersDepth members + 1
  | _ => 0

/-- How deep the elements of a list nest. -/
def itemsDepth : List Value → Nat
  | [] => 0
  | item :: items => max item.depth (itemsDepth items)

/-- How deep the members of an object nest. -/
def membersDepth : Members → Nat
  | [] => 0
  | (_, value) :: members => max value.depth (membersDepth members)

end

end Turnstile.Json
