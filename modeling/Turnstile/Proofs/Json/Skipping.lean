import Turnstile.Proofs.Json.Reading

/-!
# Skipping values

The stack machine goes behind every text, however deep its brackets nest and whether or
not its strings and numbers have a value.

Main results:

- `Tree.skipped`: the steps that a text takes.
- `skipValue_bytes`: a text is skipped.
-/

namespace Turnstile.Json

/-! ## Runs of the stack machine -/

/-- The stack machine comes from one state to another in some steps. -/
def Skips (steps : Nat) (state : SkipState) (bytes : List UInt8) (next : SkipState)
    (rest : List UInt8) : Prop :=
  ∀ fuel, runSkip (fuel + steps) state bytes = runSkip fuel next rest

namespace Skips

variable {state next last : SkipState} {bytes rest left : List UInt8}

/-- One step of the machine at a value. -/
theorem piece {stack : List Frame} (h : skipPiece stack bytes = .ok (next, rest)) :
    Skips 1 (.value stack) bytes next rest := by
  intro fuel
  rw [runSkip, stepSkip, h]
  simp

/-- One step of the machine between two entries. -/
theorem entry {first : Bool} {frame : Frame} {outer : List Frame}
    (h : skipEntry first frame outer bytes = .ok (next, rest)) :
    Skips 1 (.entry first frame outer) bytes next rest := by
  intro fuel
  rw [runSkip, stepSkip, h]
  simp

/-- One run after another. -/
theorem trans {m n : Nat} (h : Skips m state bytes next rest)
    (h' : Skips n next rest last left) : Skips (m + n) state bytes last left := by
  intro fuel
  rw [Nat.add_comm m n, ← Nat.add_assoc, h, h']

end Skips

/-! ## Values without parts -/

/-- A word is skipped. -/
theorem skipPiece_word (stack : List Frame) (blanks : Blanks) {b : UInt8}
    {letters : List UInt8} {word : Got} (hword : wordOf? b = some (letters, word))
    (hblank : Byte.isBlank b = false) (rest : List UInt8) :
    skipPiece stack (blanks.bytes ++ (b :: letters ++ rest)) = .ok (.afterValue stack, rest) := by
  unfold skipPiece
  rw [List.cons_append, skipBlanks_blanks_cons blanks hblank]
  simp only [hword, readLetters_append]
  rfl

/-- A number is skipped, in range or not. -/
theorem skipPiece_number (stack : List Frame) (blanks : Blanks) (numeral : Numeral)
    {rest : List UInt8} (hrest : Stops rest) :
    skipPiece stack (blanks.bytes ++ (numeral.bytes ++ rest)) = .ok (.afterValue stack, rest) := by
  have hscan := scanLiteral_unsignedBytes numeral .invalidNumber hrest
  unfold Numeral.bytes
  split
  · rename_i hnegative
    rw [hnegative] at hscan
    unfold skipPiece
    rw [List.cons_append, skipBlanks_blanks_cons blanks (by decide)]
    simp only [show wordOf? Byte.minus = none from rfl, if_true, hscan]
    rfl
  · rename_i hnegative
    obtain ⟨b, bytes, hbytes, hdigit⟩ := numeral.unsignedBytes_eq_cons
    rw [Bool.not_eq_true] at hnegative
    rw [hnegative, hbytes] at hscan
    unfold skipPiece
    rw [hbytes, List.cons_append,
      skipBlanks_blanks_cons blanks (Byte.opens_of_isDigit hdigit).isBlank]
    simp only [wordOf?_of_isDigit hdigit, if_neg (ne_minus_of_isDigit hdigit), if_pos hdigit]
    rw [← List.cons_append, hscan]
    rfl

/-- A string is skipped, whatever it says. -/
theorem skipPiece_text (stack : List Frame) (blanks : Blanks) (pieces : List Piece)
    (rest : List UInt8) :
    skipPiece stack (blanks.bytes ++ (Byte.quote :: quotedBytes pieces ++ rest)) =
      .ok (.afterValue stack, rest) := by
  unfold skipPiece
  rw [List.cons_append, skipBlanks_blanks_cons blanks (by decide)]
  simp only [show wordOf? Byte.quote = none from rfl, skipString_quotedBytes]
  rfl

/-- The mark that opens a bracket. -/
def Frame.opener : Frame → UInt8
  | .list => Byte.openList
  | .object => Byte.openObject

/-- A bracket is opened. -/
theorem skipPiece_bracket (stack : List Frame) (blanks : Blanks) (frame : Frame)
    (rest : List UInt8) :
    skipPiece stack (blanks.bytes ++ frame.opener :: rest) =
      .ok (.entry true frame stack, rest) := by
  unfold skipPiece
  cases frame <;> rw [skipBlanks_blanks_cons blanks (by decide)] <;> rfl

/-! ## Entries -/

/-- The bracket opened last is closed. -/
theorem skipEntry_closed (first : Bool) (frame : Frame) (outer : List Frame) (gap : Blanks)
    (rest : List UInt8) :
    skipEntry first frame outer (gap.bytes ++ frame.closer :: rest) =
      .ok (.afterValue outer, rest) := by
  unfold skipEntry
  rw [skipBlanks_blanks_cons gap (by cases frame <;> decide)]
  simp only [if_true]

/-- The machine goes on to the next element of a list; blanks in front of it may be left. -/
theorem skipEntry_item (first : Bool) (outer : List Frame) (gap before : Blanks) {b : UInt8}
    (h : Byte.Opens b) (rest : List UInt8) :
    ∃ blanks : Blanks,
      skipEntry first .list outer
          (gap.bytes ++ (separator first ++ (before.bytes ++ b :: rest))) =
        .ok (.value (.list :: outer), blanks.bytes ++ b :: rest) := by
  unfold skipEntry separator
  cases first with
  | true =>
      refine ⟨.none, ?_⟩
      rw [if_pos rfl, List.nil_append, skipBlanks_blanks, skipBlanks_blanks_cons before h.isBlank]
      simp only [Frame.closer, if_neg h.ne_closeList, if_true]
      rfl
  | false =>
      refine ⟨before, ?_⟩
      rw [if_neg (by decide), List.singleton_append, skipBlanks_blanks_cons gap (by decide)]
      rfl

/-- A name and its colon are skipped. -/
theorem skipName_object (before : Blanks) (name : List Piece) (beforeColon : Blanks)
    (rest : List UInt8) :
    skipName .object (before.bytes ++
        Byte.quote :: (quotedBytes name ++ (beforeColon.bytes ++ Byte.colon :: rest))) =
      .ok rest := by
  unfold skipName
  rw [skipBlanks_blanks_cons before (by decide)]
  simp only [if_true, bind, Except.bind, skipString_quotedBytes, readColon_colon]

/-- The machine goes on to the value of the next member of an object. -/
theorem skipEntry_member (first : Bool) (outer : List Frame) (gap before : Blanks)
    (name : List Piece) (beforeColon : Blanks) (rest : List UInt8) :
    skipEntry first .object outer
        (gap.bytes ++ (separator first ++ (before.bytes ++
          Byte.quote :: (quotedBytes name ++ (beforeColon.bytes ++ Byte.colon :: rest))))) =
      .ok (.value (.object :: outer), rest) := by
  unfold skipEntry separator
  cases first with
  | true =>
      have hname : skipName .object
          (Byte.quote :: (quotedBytes name ++ (beforeColon.bytes ++ Byte.colon :: rest))) =
            .ok rest :=
        skipName_object .none name beforeColon rest
      rw [if_pos rfl, List.nil_append, skipBlanks_blanks,
        skipBlanks_blanks_cons before (by decide)]
      simp only [Frame.closer, if_true]
      rw [if_neg (by decide), hname]
      rfl
  | false =>
      rw [if_neg (by decide), List.singleton_append, skipBlanks_blanks_cons gap (by decide)]
      simp only [skipName_object]
      rfl

/-! ## Texts -/

/-- A text is skipped in fewer steps than twice its bytes. -/
def Tree.Skipped (tree : Tree) : Prop :=
  ∀ (stack : List Frame) (blanks : Blanks) (rest : List UInt8), Stops rest →
    ∃ steps, steps + 1 ≤ 2 * tree.bytes.length ∧
      Skips steps (.value stack) (blanks.bytes ++ (tree.bytes ++ rest)) (.afterValue stack) rest

/-- A text without parts is skipped in one step. -/
theorem Tree.skipped_of_skipPiece {tree : Tree}
    (h : ∀ (stack : List Frame) (blanks : Blanks) (rest : List UInt8), Stops rest →
      skipPiece stack (blanks.bytes ++ (tree.bytes ++ rest)) = .ok (.afterValue stack, rest)) :
    tree.Skipped := by
  intro stack blanks rest hrest
  obtain ⟨b, bytes, hbytes, -⟩ := tree.bytes_eq_cons
  refine ⟨1, ?_, Skips.piece (h stack blanks rest hrest)⟩
  rw [hbytes, List.length_cons]
  omega

/-- The elements of a list are skipped when each of them is. -/
theorem skips_itemsBytes {items : List (Element Tree)} (hitems : ∀ item ∈ items, item.tree.Skipped)
    (first : Bool) (outer : List Frame) (gap : Blanks) (rest : List UInt8) :
    ∃ steps, steps ≤ 2 * (itemsBytes first items).length + 1 ∧
      Skips steps (.entry first .list outer)
        (gap.bytes ++ (itemsBytes first items ++ Byte.closeList :: rest))
        (.afterValue outer) rest := by
  induction items generalizing first gap with
  | nil => exact ⟨1, by simp, Skips.entry (skipEntry_closed first .list outer gap rest)⟩
  | cons item items ih =>
      obtain ⟨hitem, htail⟩ := List.forall_mem_cons.mp hitems
      obtain ⟨before, tree, after⟩ := item
      obtain ⟨b, bytes, hbytes, hopens⟩ := tree.bytes_eq_cons
      obtain ⟨blanks, hentry⟩ := skipEntry_item first outer gap before hopens
        (bytes ++ (after.bytes ++ (itemsBytes false items ++ Byte.closeList :: rest)))
      rw [← List.cons_append, ← hbytes] at hentry
      obtain ⟨m, hm, hvalue⟩ := hitem (.list :: outer) blanks _ (stops_itemsBytes after items rest)
      obtain ⟨n, hn, htail⟩ := ih htail false after
      dsimp only at hm
      refine ⟨1 + m + n, ?_, ?_⟩
      · simp only [itemsBytes, List.length_append]
        omega
      · simp only [itemsBytes, List.append_assoc]
        exact ((Skips.entry hentry).trans hvalue).trans htail

/-- The members of an object are skipped when the value of each of them is. -/
theorem skips_membersBytes {members : List (Member Tree)}
    (hmembers : ∀ member ∈ members, member.tree.Skipped) (first : Bool) (outer : List Frame)
    (gap : Blanks) (rest : List UInt8) :
    ∃ steps, steps ≤ 2 * (membersBytes first members).length + 1 ∧
      Skips steps (.entry first .object outer)
        (gap.bytes ++ (membersBytes first members ++ Byte.closeObject :: rest))
        (.afterValue outer) rest := by
  induction members generalizing first gap with
  | nil => exact ⟨1, by simp, Skips.entry (skipEntry_closed first .object outer gap rest)⟩
  | cons member members ih =>
      obtain ⟨hmember, htail⟩ := List.forall_mem_cons.mp hmembers
      obtain ⟨before, name, beforeColon, afterColon, tree, after⟩ := member
      have hentry := skipEntry_member first outer gap before name beforeColon
        (afterColon.bytes ++ (tree.bytes ++
          (after.bytes ++ (membersBytes false members ++ Byte.closeObject :: rest))))
      obtain ⟨m, hm, hvalue⟩ := hmember (.object :: outer) afterColon _
        (stops_membersBytes after members rest)
      obtain ⟨n, hn, htail⟩ := ih htail false after
      dsimp only at hm
      refine ⟨1 + m + n, ?_, ?_⟩
      · simp only [membersBytes, List.length_append, List.length_cons]
        omega
      · simp only [membersBytes, List.append_assoc, List.cons_append]
        exact ((Skips.entry hentry).trans hvalue).trans htail

/-- Every text is skipped. -/
theorem Tree.skipped (tree : Tree) : tree.Skipped := by
  induction tree using Tree.induct with
  | null =>
      exact skipped_of_skipPiece fun stack blanks rest _ => skipPiece_word stack blanks rfl rfl rest
  | bool b =>
      cases b <;>
        exact skipped_of_skipPiece fun stack blanks rest _ =>
          skipPiece_word stack blanks rfl rfl rest
  | number numeral =>
      exact skipped_of_skipPiece fun stack blanks _ hrest =>
        skipPiece_number stack blanks numeral hrest
  | text pieces =>
      exact skipped_of_skipPiece fun stack blanks rest _ => skipPiece_text stack blanks pieces rest
  | array gap items ih =>
      intro stack blanks rest _
      have hopen := skipPiece_bracket stack blanks .list
        (gap.bytes ++ (itemsBytes true items ++ Byte.closeList :: rest))
      obtain ⟨n, hn, hitems⟩ := skips_itemsBytes ih true stack gap rest
      refine ⟨1 + n, ?_, ?_⟩
      · simp only [Tree.bytes, List.length_cons, List.length_append]
        omega
      · simp only [Tree.bytes, List.cons_append, List.append_assoc]
        exact (Skips.piece hopen).trans hitems
  | object gap members ih =>
      intro stack blanks rest _
      have hopen := skipPiece_bracket stack blanks .object
        (gap.bytes ++ (membersBytes true members ++ Byte.closeObject :: rest))
      obtain ⟨n, hn, hmembers⟩ := skips_membersBytes ih true stack gap rest
      refine ⟨1 + n, ?_, ?_⟩
      · simp only [Tree.bytes, List.length_cons, List.length_append]
        omega
      · simp only [Tree.bytes, List.cons_append, List.append_assoc]
        exact (Skips.piece hopen).trans hmembers

/-- A text is skipped, however it is laid out and whatever follows it. -/
theorem skipValue_bytes (tree : Tree) (blanks : Blanks) {rest : List UInt8} (hrest : Stops rest) :
    skipValue (blanks.bytes ++ (tree.bytes ++ rest)) = .ok rest := by
  obtain ⟨steps, hsteps, hskips⟩ := tree.skipped [] blanks rest hrest
  unfold skipValue
  obtain ⟨fuel, hfuel⟩ := Nat.exists_eq_add_of_le' (show steps ≤
    2 * (blanks.bytes ++ (tree.bytes ++ rest)).length + 2 by
      simp only [List.length_append]
      omega)
  rw [hfuel, hskips]
  exact runSkip.eq_1 fuel rest

end Turnstile.Json
