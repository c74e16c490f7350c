import Turnstile.Proofs.Json.Scanning

/-!
# Reading values

A text is read to its value, whatever its layout is and whatever follows it, as long as
its brackets do not nest deeper than the reader allows.

Main results:

- `readScalar_bytes`: a look at a text.
- `readValue_bytes`: a whole text.
- `readMembers_bytes`: the members of an object.
-/

namespace Turnstile.Json

/-! ## Where a text begins -/

/-- A byte that a text can begin with is neither a blank nor a closing bracket. -/
structure Byte.Opens (b : UInt8) : Prop where
  isBlank : Byte.isBlank b = false
  ne_closeList : b ≠ Byte.closeList

/-- A digit begins a text. -/
theorem Byte.opens_of_isDigit {b : UInt8} (h : Byte.isDigit b = true) : Byte.Opens b := by
  constructor
  · revert h
    simp only [Byte.isDigit, Byte.isBlank]
    grind
  · rintro rfl
    contradiction

/-- A number begins with a digit behind its sign. -/
theorem Numeral.unsignedBytes_eq_cons (numeral : Numeral) :
    ∃ b bytes, numeral.unsignedBytes = b :: bytes ∧ Byte.isDigit b = true := by
  cases hwhole : numeral.literal.whole with
  | nil => exact absurd hwhole numeral.formed.whole_ne_nil
  | cons b digits =>
      have hdigit := numeral.formed.whole_digits b (by simp [hwhole])
      rw [Numeral.unsignedBytes, hwhole]
      exact ⟨_, _, rfl, hdigit⟩

/-- A number begins with a minus or a digit. -/
theorem Numeral.bytes_eq_cons (numeral : Numeral) :
    ∃ b bytes, numeral.bytes = b :: bytes ∧ Byte.Opens b := by
  obtain ⟨b, bytes, hbytes, hdigit⟩ := numeral.unsignedBytes_eq_cons
  rw [Numeral.bytes, hbytes]
  split
  · exact ⟨_, _, rfl, by decide, by decide⟩
  · exact ⟨_, _, rfl, Byte.opens_of_isDigit hdigit⟩

/-- Every text has a first byte. -/
theorem Tree.bytes_eq_cons (tree : Tree) : ∃ b bytes, tree.bytes = b :: bytes ∧ Byte.Opens b := by
  cases tree with
  | null => exact ⟨_, _, rfl, by decide, by decide⟩
  | bool b => cases b <;> exact ⟨_, _, rfl, by decide, by decide⟩
  | number numeral =>
      rw [Tree.bytes]
      exact numeral.bytes_eq_cons
  | text pieces => exact ⟨_, _, rfl, by decide, by decide⟩
  | array gap items => exact ⟨_, _, rfl, by decide, by decide⟩
  | object gap members => exact ⟨_, _, rfl, by decide, by decide⟩

/-- Blanks in front of a byte that is none are skipped up to it. -/
theorem skipBlanks_blanks_cons (blanks : Blanks) {b : UInt8} (h : Byte.isBlank b = false)
    (rest : List UInt8) : skipBlanks (blanks.bytes ++ b :: rest) = b :: rest := by
  rw [skipBlanks_blanks, skipBlanks_cons h]

/-! ## Values without parts -/

/-- No word begins with a digit. -/
theorem wordOf?_of_isDigit {b : UInt8} (h : Byte.isDigit b = true) : wordOf? b = none := by
  revert h
  simp only [Byte.isDigit, wordOf?]
  grind

/-- A digit is no minus. -/
theorem ne_minus_of_isDigit {b : UInt8} (h : Byte.isDigit b = true) : b ≠ Byte.minus := by
  rintro rfl
  contradiction

/-- What is left of a text when it has been looked at: all of a list or an object. -/
def Tree.leftover : Tree → List UInt8
  | .array gap items => (Tree.array gap items).bytes
  | .object gap members => (Tree.object gap members).bytes
  | _ => []

/-- A word is read. -/
theorem readScalar_word (blanks : Blanks) {b : UInt8} {letters : List UInt8} {word : Got}
    (hword : wordOf? b = some (letters, word)) (hblank : Byte.isBlank b = false)
    (rest : List UInt8) :
    readScalar (blanks.bytes ++ (b :: letters ++ rest)) = .ok (word, rest) := by
  unfold readScalar
  rw [List.cons_append, skipBlanks_blanks_cons blanks hblank]
  simp only [hword, readLetters_append]
  rfl

/-- A number is read. -/
theorem readScalar_number (blanks : Blanks) {numeral : Numeral} {n : Number}
    (hvalue : numeral.number? = some n) {rest : List UInt8} (hrest : Stops rest) :
    readScalar (blanks.bytes ++ (numeral.bytes ++ rest)) = .ok (.number n, rest) := by
  have hread := readNumber_unsignedBytes hvalue hrest
  unfold Numeral.bytes
  split
  · rename_i hnegative
    rw [hnegative] at hread
    unfold readScalar
    rw [List.cons_append, skipBlanks_blanks_cons blanks (by decide)]
    simp only [show wordOf? Byte.minus = none from rfl, if_true, hread]
    rfl
  · rename_i hnegative
    obtain ⟨b, bytes, hbytes, hdigit⟩ := numeral.unsignedBytes_eq_cons
    rw [Bool.not_eq_true] at hnegative
    rw [hnegative, hbytes] at hread
    unfold readScalar
    rw [hbytes, List.cons_append,
      skipBlanks_blanks_cons blanks (Byte.opens_of_isDigit hdigit).isBlank]
    simp only [wordOf?_of_isDigit hdigit, if_neg (ne_minus_of_isDigit hdigit), if_pos hdigit]
    rw [← List.cons_append, hread]
    rfl

/-- A string is read. -/
theorem readScalar_text (blanks : Blanks) {pieces : List Piece} {text : String}
    (hvalue : text? pieces = some text) (rest : List UInt8) :
    readScalar (blanks.bytes ++ (Byte.quote :: quotedBytes pieces ++ rest)) =
      .ok (.text text, rest) := by
  unfold readScalar
  rw [List.cons_append, skipBlanks_blanks_cons blanks (by decide)]
  simp only [show wordOf? Byte.quote = none from rfl, readString_quotedBytes hvalue]
  rfl

/-- A list is looked at, whatever its elements are. -/
theorem readScalar_array (blanks : Blanks) (gap : Blanks) (items : List (Element Tree))
    (rest : List UInt8) :
    readScalar (blanks.bytes ++ ((Tree.array gap items).bytes ++ rest)) =
      .ok (.sequence, (Tree.array gap items).bytes ++ rest) := by
  unfold readScalar
  rw [Tree.bytes, List.cons_append, skipBlanks_blanks_cons blanks (by decide)]
  rfl

/-- An object is looked at, whatever its members are. -/
theorem readScalar_object (blanks : Blanks) (gap : Blanks) (members : List (Member Tree))
    (rest : List UInt8) :
    readScalar (blanks.bytes ++ ((Tree.object gap members).bytes ++ rest)) =
      .ok (.map, (Tree.object gap members).bytes ++ rest) := by
  unfold readScalar
  rw [Tree.bytes, List.cons_append, skipBlanks_blanks_cons blanks (by decide)]
  rfl

/-- A look at a text tells its value, or that it is a list or an object. -/
theorem readScalar_bytes {tree : Tree} {value : Value} (hvalue : tree.value? = some value)
    (blanks : Blanks) {rest : List UInt8} (hrest : Stops rest) :
    readScalar (blanks.bytes ++ (tree.bytes ++ rest)) = .ok (value.got, tree.leftover ++ rest) := by
  cases tree with
  | null =>
      obtain rfl := Option.some.inj hvalue
      exact readScalar_word blanks rfl rfl rest
  | bool b =>
      obtain rfl := Option.some.inj hvalue
      cases b <;> exact readScalar_word blanks rfl rfl rest
  | number numeral =>
      obtain ⟨n, hn, rfl⟩ := Option.map_eq_some_iff.mp hvalue
      exact readScalar_number blanks hn hrest
  | text pieces =>
      obtain ⟨text, htext, rfl⟩ := Option.map_eq_some_iff.mp hvalue
      exact readScalar_text blanks htext rest
  | array gap items =>
      obtain ⟨values, -, rfl⟩ := Option.map_eq_some_iff.mp hvalue
      exact readScalar_array blanks gap items rest
  | object gap members =>
      obtain ⟨values, -, rfl⟩ := Option.map_eq_some_iff.mp hvalue
      exact readScalar_object blanks gap members rest

/-! ## Between two entries -/

/-- The next element of a list is found. -/
theorem nextElement_entry (first : Bool) (gap before : Blanks) {b : UInt8} (h : Byte.Opens b)
    (rest : List UInt8) :
    nextElement first (gap.bytes ++ (separator first ++ (before.bytes ++ b :: rest))) =
      .ok (.entry (b :: rest)) := by
  unfold nextElement separator
  cases first with
  | true =>
      rw [if_pos rfl, List.nil_append, skipBlanks_blanks, skipBlanks_blanks_cons before h.isBlank]
      simp only [if_neg h.ne_closeList, if_true]
  | false =>
      rw [if_neg (by decide), List.singleton_append, skipBlanks_blanks_cons gap (by decide)]
      simp only [skipBlanks_blanks_cons before h.isBlank, if_neg h.ne_closeList]
      rfl

/-- The end of a list is found. -/
theorem nextElement_closed (first : Bool) (gap : Blanks) (rest : List UInt8) :
    nextElement first (gap.bytes ++ Byte.closeList :: rest) = .ok (.closed rest) := by
  unfold nextElement
  rw [skipBlanks_blanks_cons gap (by decide)]
  rfl

/-- The next member of an object is found. -/
theorem nextMember_entry (first : Bool) (gap before : Blanks) (rest : List UInt8) :
    nextMember first (gap.bytes ++ (separator first ++ (before.bytes ++ Byte.quote :: rest))) =
      .ok (.entry rest) := by
  unfold nextMember separator
  cases first with
  | true =>
      rw [if_pos rfl, List.nil_append, skipBlanks_blanks,
        skipBlanks_blanks_cons before (by decide)]
      rfl
  | false =>
      rw [if_neg (by decide), List.singleton_append, skipBlanks_blanks_cons gap (by decide)]
      simp only [skipBlanks_blanks_cons before (show Byte.isBlank Byte.quote = false from rfl)]
      rfl

/-- The end of an object is found. -/
theorem nextMember_closed (first : Bool) (gap : Blanks) (rest : List UInt8) :
    nextMember first (gap.bytes ++ Byte.closeObject :: rest) = .ok (.closed rest) := by
  unfold nextMember
  rw [skipBlanks_blanks_cons gap (by decide)]
  rfl

/-- The colon behind a name is read. -/
theorem readColon_colon (gap : Blanks) (rest : List UInt8) :
    readColon (gap.bytes ++ Byte.colon :: rest) = .ok rest := by
  unfold readColon
  rw [skipBlanks_blanks_cons gap (by decide)]
  rfl

/-- Blanks may follow a complete text. -/
theorem readEnd_blanks (gap : Blanks) : readEnd gap.bytes = .ok () := by
  have hskip := skipBlanks_blanks gap []
  rw [List.append_nil] at hskip
  unfold readEnd
  rw [hskip]
  rfl

/-- A comma, a closing bracket or a blank behind an element ends it. -/
theorem stops_itemsBytes (gap : Blanks) (items : List (Element Tree)) (rest : List UInt8) :
    Stops (gap.bytes ++ (itemsBytes false items ++ Byte.closeList :: rest)) := by
  refine Stops.blanks ?_ gap
  cases items <;> simp [itemsBytes, separator, Stops] <;> decide

/-- A comma, a closing bracket or a blank behind a member ends it. -/
theorem stops_membersBytes (gap : Blanks) (members : List (Member Tree)) (rest : List UInt8) :
    Stops (gap.bytes ++ (membersBytes false members ++ Byte.closeObject :: rest)) := by
  refine Stops.blanks ?_ gap
  cases members <;> simp [membersBytes, separator, Stops] <;> decide

/-- An element takes a byte at least. -/
theorem length_le_length_itemsBytes (first : Bool) (items : List (Element Tree)) :
    items.length ≤ (itemsBytes first items).length := by
  induction items generalizing first with
  | nil => exact Nat.zero_le _
  | cons item items ih =>
      obtain ⟨b, bytes, hbytes, -⟩ := item.tree.bytes_eq_cons
      have htail := ih false
      simp only [itemsBytes, hbytes, List.length_append, List.length_cons]
      omega

/-- A member takes a byte at least. -/
theorem length_le_length_membersBytes (first : Bool) (members : List (Member Tree)) :
    members.length ≤ (membersBytes first members).length := by
  induction members generalizing first with
  | nil => exact Nat.zero_le _
  | cons member members ih =>
      have htail := ih false
      simp only [membersBytes, List.length_append, List.length_cons]
      omega

/-! ## Depth -/

/-- An element does not nest deeper than its list. -/
theorem Value.depth_le_itemsDepth {value : Value} {items : List Value} (h : value ∈ items) :
    value.depth ≤ itemsDepth items := by
  induction items with
  | nil => simp at h
  | cons item items ih =>
      rw [itemsDepth]
      rcases List.mem_cons.mp h with rfl | h
      · exact Nat.le_max_left _ _
      · exact Nat.le_trans (ih h) (Nat.le_max_right _ _)

/-- A member does not nest deeper than its object. -/
theorem Value.depth_le_membersDepth {name : String} {value : Value} {members : Members}
    (h : (name, value) ∈ members) : value.depth ≤ membersDepth members := by
  induction members with
  | nil => simp at h
  | cons member members ih =>
      rw [membersDepth]
      rcases List.mem_cons.mp h with rfl | h
      · exact Nat.le_max_left _ _
      · exact Nat.le_trans (ih h) (Nat.le_max_right _ _)

/-! ## Lists and objects -/

/-- The value of a list comes from those of its elements. -/
theorem itemValues?_cons {item : Element Tree} {items : List (Element Tree)}
    {values : List Value} (h : itemValues? (item :: items) = some values) :
    ∃ value tail, item.tree.value? = some value ∧ itemValues? items = some tail ∧
      values = value :: tail := by
  rw [itemValues?] at h
  split at h
  · exact ⟨_, _, ‹_›, ‹_›, (Option.some.inj h).symm⟩
  · contradiction

/-- The members of an object come from their names and values. -/
theorem memberValues?_cons {member : Member Tree} {members : List (Member Tree)}
    {values : Members} (h : memberValues? (member :: members) = some values) :
    ∃ name value tail, text? member.name = some name ∧ member.tree.value? = some value ∧
      memberValues? members = some tail ∧ values = (name, value) :: tail := by
  rw [memberValues?] at h
  split at h
  · exact ⟨_, _, _, ‹_›, ‹_›, ‹_›, (Option.some.inj h).symm⟩
  · contradiction

/-- The elements of a list are read when each of them is. -/
theorem readElements_itemsBytes {element : Reader Value} {items : List (Element Tree)}
    {values : List Value} (hvalues : itemValues? items = some values)
    (helement : ∀ item ∈ items, ∀ value ∈ values, item.tree.value? = some value →
      ∀ rest, Stops rest → element (item.tree.bytes ++ rest) = .ok (value, rest))
    {fuel : Nat} (hfuel : items.length < fuel) (seen : List Value) (gap : Blanks)
    (rest : List UInt8) :
    readElements element fuel seen
        (gap.bytes ++ (itemsBytes seen.isEmpty items ++ Byte.closeList :: rest)) =
      .ok (seen.reverse ++ values, rest) := by
  induction items generalizing values fuel seen gap with
  | nil =>
      obtain ⟨fuel, rfl⟩ := Nat.exists_eq_succ_of_ne_zero (Nat.ne_of_gt hfuel)
      obtain rfl := Option.some.inj hvalues
      rw [itemsBytes, List.nil_append, readElements, nextElement_closed]
      simp only [bind, Except.bind, List.append_nil]
      rfl
  | cons item items ih =>
      obtain ⟨fuel, rfl⟩ := Nat.exists_eq_succ_of_ne_zero (Nat.ne_of_gt (Nat.zero_lt_of_lt hfuel))
      obtain ⟨value, values, hvalue, htail, rfl⟩ := itemValues?_cons hvalues
      obtain ⟨b, bytes, hbytes, hopens⟩ := item.tree.bytes_eq_cons
      have hread := helement item List.mem_cons_self value List.mem_cons_self hvalue _
        (stops_itemsBytes item.after items rest)
      have hrest : readElements element fuel (value :: seen)
          (item.after.bytes ++ (itemsBytes false items ++ Byte.closeList :: rest)) =
            .ok ((value :: seen).reverse ++ values, rest) :=
        ih htail
          (fun item hitem value hmem => helement item (List.mem_cons_of_mem _ hitem) value
            (List.mem_cons_of_mem _ hmem))
          (Nat.lt_of_succ_lt_succ hfuel) (value :: seen) item.after
      rw [hbytes, List.cons_append] at hread
      simp only [readElements, itemsBytes, hbytes, List.append_assoc, List.cons_append, bind,
        Except.bind]
      rw [nextElement_entry _ _ _ hopens]
      simp only
      rw [hread]
      simp only
      rw [hrest, List.reverse_cons, List.append_assoc, List.singleton_append]

/-- The members of an object are read when the value of each of them is. -/
theorem readEntries_membersBytes {reader : Reader Value} {members : List (Member Tree)}
    {values : Members} (hvalues : memberValues? members = some values)
    (hreader : ∀ member ∈ members, ∀ value ∈ values.map Prod.snd,
      member.tree.value? = some value → ∀ blanks rest, Stops rest →
        reader (Blanks.bytes blanks ++ (member.tree.bytes ++ rest)) = .ok (value, rest))
    {fuel : Nat} (hfuel : members.length < fuel) (seen : Members) (gap : Blanks)
    (rest : List UInt8) :
    readEntries reader fuel seen
        (gap.bytes ++ (membersBytes seen.isEmpty members ++ Byte.closeObject :: rest)) =
      .ok (seen.reverse ++ values, rest) := by
  induction members generalizing values fuel seen gap with
  | nil =>
      obtain ⟨fuel, rfl⟩ := Nat.exists_eq_succ_of_ne_zero (Nat.ne_of_gt hfuel)
      obtain rfl := Option.some.inj hvalues
      rw [membersBytes, List.nil_append, readEntries, nextMember_closed]
      simp only [bind, Except.bind, List.append_nil]
      rfl
  | cons member members ih =>
      obtain ⟨fuel, rfl⟩ := Nat.exists_eq_succ_of_ne_zero (Nat.ne_of_gt (Nat.zero_lt_of_lt hfuel))
      obtain ⟨name, value, values, hname, hvalue, htail, rfl⟩ := memberValues?_cons hvalues
      have hread := hreader member List.mem_cons_self value List.mem_cons_self hvalue
        member.afterColon _ (stops_membersBytes member.after members rest)
      have hrest : readEntries reader fuel ((name, value) :: seen)
          (member.after.bytes ++ (membersBytes false members ++ Byte.closeObject :: rest)) =
            .ok (((name, value) :: seen).reverse ++ values, rest) :=
        ih htail
          (fun member hmember value hmem => hreader member (List.mem_cons_of_mem _ hmember) value
            (List.mem_cons_of_mem _ hmem))
          (Nat.lt_of_succ_lt_succ hfuel) ((name, value) :: seen) member.after
      simp only [readEntries, membersBytes, List.append_assoc, List.cons_append, bind,
        Except.bind]
      rw [nextMember_entry]
      simp only
      rw [readString_quotedBytes hname]
      simp only
      rw [readColon_colon]
      simp only
      rw [hread]
      simp only
      rw [hrest, List.reverse_cons, List.append_assoc, List.singleton_append]

/-! ## Whole values -/

/-- A value without parts is what a look at it tells. -/
theorem readValue_of_readScalar {value : Value} {room : Nat} {bytes rest : List UInt8}
    (hread : readScalar bytes = .ok (value.got, rest)) (hlist : value.got ≠ .sequence)
    (hobject : value.got ≠ .map) : readValue room bytes = .ok (value, rest) := by
  rw [readValue]
  simp only [bind, Except.bind]
  rw [hread]
  cases value <;> first | contradiction | rfl

/-- A list has more bytes than elements. -/
theorem length_lt_length_arrayBytes (gap : Blanks) (items : List (Element Tree))
    (rest : List UInt8) : items.length < ((Tree.array gap items).bytes ++ rest).length := by
  have hlength := length_le_length_itemsBytes true items
  simp only [Tree.bytes, List.length_append, List.length_cons]
  omega

/-- An object has more bytes than members. -/
theorem length_lt_length_objectBytes (gap : Blanks) (members : List (Member Tree))
    (rest : List UInt8) : members.length < ((Tree.object gap members).bytes ++ rest).length := by
  have hlength := length_le_length_membersBytes true members
  simp only [Tree.bytes, List.length_append, List.length_cons]
  omega

/-- The elements of a list are read when each of them nests no deeper than allowed. -/
theorem readElements_array (gap : Blanks) {items : List (Element Tree)} {values : List Value}
    (hvalues : itemValues? items = some values) {room : Nat} (hroom : itemsDepth values ≤ room)
    (hread : ∀ item ∈ items, ∀ value : Value, item.tree.value? = some value →
      value.depth ≤ room → ∀ rest, Stops rest →
        readValue room (item.tree.bytes ++ rest) = .ok (value, rest))
    (rest : List UInt8) :
    readElements (readValue room) ((Tree.array gap items).bytes ++ rest).length []
        (((Tree.array gap items).bytes ++ rest).drop 1) = .ok (values, rest) := by
  have hitems := readElements_itemsBytes hvalues
    (fun item hitem value hmem hvalue => hread item hitem value hvalue
      (Nat.le_trans (Value.depth_le_itemsDepth hmem) hroom))
    (length_lt_length_arrayBytes gap items rest) [] gap rest
  simpa [Tree.bytes] using hitems

/-- The members of an object are read when each of them nests no deeper than allowed. -/
theorem readEntries_object (gap : Blanks) {members : List (Member Tree)} {values : Members}
    (hvalues : memberValues? members = some values) {room : Nat}
    (hroom : membersDepth values ≤ room)
    (hread : ∀ member ∈ members, ∀ value : Value, member.tree.value? = some value →
      value.depth ≤ room → ∀ blanks rest, Stops rest →
        readValue room (Blanks.bytes blanks ++ (member.tree.bytes ++ rest)) = .ok (value, rest))
    (rest : List UInt8) :
    readEntries (readValue room) ((Tree.object gap members).bytes ++ rest).length []
        (((Tree.object gap members).bytes ++ rest).drop 1) = .ok (values, rest) := by
  have hmembers := readEntries_membersBytes hvalues
    (fun member hmember value hmem hvalue => by
      obtain ⟨⟨name, value⟩, hentry, rfl⟩ := List.mem_map.mp hmem
      exact hread member hmember value hvalue
        (Nat.le_trans (Value.depth_le_membersDepth hentry) hroom))
    (length_lt_length_objectBytes gap members rest) [] gap rest
  simpa [Tree.bytes] using hmembers

/-- A text is read to its value when that nests no deeper than allowed. -/
theorem readValue_bytes {tree : Tree} {value : Value} (hvalue : tree.value? = some value)
    {room : Nat} (hroom : value.depth ≤ room) (blanks : Blanks) {rest : List UInt8}
    (hrest : Stops rest) :
    readValue room (blanks.bytes ++ (tree.bytes ++ rest)) = .ok (value, rest) := by
  induction tree using Tree.induct generalizing value room blanks rest with
  | null | bool =>
      have hscalar := readScalar_bytes hvalue blanks hrest
      obtain rfl := Option.some.inj hvalue
      exact readValue_of_readScalar hscalar (by simp [Value.got]) (by simp [Value.got])
  | number | text =>
      have hscalar := readScalar_bytes hvalue blanks hrest
      obtain ⟨_, -, rfl⟩ := Option.map_eq_some_iff.mp hvalue
      exact readValue_of_readScalar hscalar (by simp [Value.got]) (by simp [Value.got])
  | array gap items ih =>
      have hscalar := readScalar_bytes hvalue blanks hrest
      obtain ⟨values, hvalues, rfl⟩ := Option.map_eq_some_iff.mp hvalue
      rw [Value.depth] at hroom
      obtain ⟨room, rfl⟩ := Nat.exists_eq_succ_of_ne_zero (Nat.ne_of_gt (Nat.zero_lt_of_lt hroom))
      have hitems := readElements_array gap hvalues (Nat.le_of_succ_le_succ hroom)
        (fun item hitem _ hvalue hdepth _ hrest => ih item hitem hvalue hdepth .none hrest) rest
      rw [readValue]
      simp only [bind, Except.bind]
      rw [hscalar]
      simp only [Value.got, Tree.leftover]
      rw [hitems]
      rfl
  | object gap members ih =>
      have hscalar := readScalar_bytes hvalue blanks hrest
      obtain ⟨values, hvalues, rfl⟩ := Option.map_eq_some_iff.mp hvalue
      rw [Value.depth] at hroom
      obtain ⟨room, rfl⟩ := Nat.exists_eq_succ_of_ne_zero (Nat.ne_of_gt (Nat.zero_lt_of_lt hroom))
      have hmembers := readEntries_object gap hvalues (Nat.le_of_succ_le_succ hroom)
        (fun member hmember _ hvalue hdepth blanks _ hrest =>
          ih member hmember hvalue hdepth blanks hrest) rest
      rw [readValue]
      simp only [bind, Except.bind]
      rw [hscalar]
      simp only [Value.got, Tree.leftover]
      rw [hmembers]
      rfl

/-- The members of an object are read. -/
theorem readMembers_bytes {tree : Tree} {members : Members}
    (hvalue : tree.value? = some (.object members)) {room : Nat}
    (hroom : (Value.object members).depth ≤ room) (blanks : Blanks) {rest : List UInt8}
    (hrest : Stops rest) :
    readMembers room (blanks.bytes ++ (tree.bytes ++ rest)) = .ok (members, rest) := by
  have hscalar := readScalar_bytes hvalue blanks hrest
  cases tree with
  | object gap trees =>
      obtain ⟨values, hvalues, hmembers⟩ := Option.map_eq_some_iff.mp hvalue
      obtain rfl := Value.object.inj hmembers
      rw [Value.depth] at hroom
      obtain ⟨room, rfl⟩ := Nat.exists_eq_succ_of_ne_zero (Nat.ne_of_gt (Nat.zero_lt_of_lt hroom))
      have hentries := readEntries_object gap hvalues (Nat.le_of_succ_le_succ hroom)
        (fun _ _ _ hvalue hdepth blanks _ hrest => readValue_bytes hvalue hdepth blanks hrest) rest
      unfold readMembers
      simp only [bind, Except.bind]
      rw [hscalar]
      exact hentries
  | _ => simp [Tree.value?] at hvalue

end Turnstile.Json
