import Turnstile.Json.Reader
import Turnstile.Json.Skip
import Turnstile.Proofs.Json.Grammar

/-!
# Reading tokens

Each token is read to its end and no further, whatever follows it.  Only a number needs
something to follow that does not go on with it, which the end of a text, a blank and
every separator do.

Main results:

- `skipBlanks_blanks`: blanks.
- `scanLiteral_unsignedBytes`, `readNumber_unsignedBytes`: numbers.
- `readString_quotedBytes`, `skipString_quotedBytes`: strings, read and skipped.
-/

namespace Turnstile.Json

/-! ## Blanks -/

/-- Blanks are skipped. -/
theorem skipBlanks_blanks (blanks : Blanks) (rest : List UInt8) :
    skipBlanks (blanks.bytes ++ rest) = skipBlanks rest :=
  List.dropWhile_append_of_pos blanks.blank

/-- Skipping stops at a byte that is no blank. -/
theorem skipBlanks_cons {b : UInt8} (h : Byte.isBlank b = false) (rest : List UInt8) :
    skipBlanks (b :: rest) = b :: rest :=
  List.dropWhile_cons_of_neg (by simp [h])

/-! ## Words -/

/-- The letters of a word are read. -/
theorem readLetters_append (letters rest : List UInt8) :
    readLetters letters (letters ++ rest) = .ok rest := by
  induction letters with
  | nil => cases rest <;> rfl
  | cons letter letters ih =>
      rw [List.cons_append, readLetters, if_pos rfl]
      exact ih

/-! ## Numbers -/

/-- Bytes that do not begin with a digit. -/
def Undigited (bytes : List UInt8) : Prop :=
  ∀ b ∈ bytes.head?, Byte.isDigit b = false

/-- Bytes that do not go on with a number. -/
def Stops (bytes : List UInt8) : Prop :=
  ∀ b ∈ bytes.head?, Byte.isDigit b = false ∧ b ≠ Byte.point ∧ Byte.isPowerMark b = false

/-- A blank ends a number. -/
theorem stops_of_isBlank {b : UInt8} (h : Byte.isBlank b = true) (rest : List UInt8) :
    Stops (b :: rest) := by
  simp only [Byte.isBlank, Bool.or_eq_true, beq_iff_eq] at h
  intro c hc
  obtain rfl : b = c := by simpa using hc
  rcases h with ((rfl | rfl) | rfl) | rfl <;> decide

/-- Blanks in front of what ends a number end it, too. -/
theorem Stops.blanks {rest : List UInt8} (h : Stops rest) (blanks : Blanks) :
    Stops (blanks.bytes ++ rest) := by
  obtain ⟨bytes, hblank⟩ := blanks
  cases bytes with
  | nil => exact h
  | cons b bytes => exact stops_of_isBlank (hblank b List.mem_cons_self) _

/-- Digits are taken up to the first byte that is none. -/
theorem takeWhile_digits {digits rest : List UInt8} (hdigits : ∀ b ∈ digits, Byte.isDigit b = true)
    (hrest : Undigited rest) : (digits ++ rest).takeWhile Byte.isDigit = digits := by
  rw [List.takeWhile_append_of_pos hdigits]
  cases rest with
  | nil => simp
  | cons b rest => simp [hrest b rfl]

/-- Digits are dropped up to the first byte that is none. -/
theorem dropWhile_digits {digits rest : List UInt8} (hdigits : ∀ b ∈ digits, Byte.isDigit b = true)
    (hrest : Undigited rest) : (digits ++ rest).dropWhile Byte.isDigit = rest := by
  rw [List.dropWhile_append_of_pos hdigits]
  cases rest with
  | nil => rfl
  | cons b rest => exact List.dropWhile_cons_of_neg (by simp [hrest b rfl])

/-- A whole part is scanned. -/
theorem scanWhole_append {literal : Literal} (h : literal.Formed) (ended : Cause)
    {rest : List UInt8} (hrest : Undigited rest) :
    scanWhole ended (literal.whole ++ rest) = .ok (literal.whole, rest) := by
  cases hwhole : literal.whole with
  | nil => exact absurd hwhole h.whole_ne_nil
  | cons b digits =>
      rw [List.cons_append, scanWhole.eq_def]
      dsimp only
      by_cases hzero : b = Byte.zero
      · -- A zero stands alone.
        have halone := h.whole_lead (by rw [hwhole, hzero]; rfl)
        rw [hwhole, List.cons.injEq] at halone
        rw [if_pos hzero, halone.2]
        cases rest with
        | nil => rfl
        | cons c rest => simp [hrest c rfl]
      · have hdigits := h.whole_digits
        rw [hwhole, List.forall_mem_cons] at hdigits
        rw [if_neg hzero, if_pos hdigits.1, takeWhile_digits hdigits.2 hrest,
          dropWhile_digits hdigits.2 hrest]

/-- A fraction is scanned, or found missing. -/
theorem scanFraction_append (numeral : Numeral) (ended : Cause) {rest : List UInt8}
    (hrest : Undigited rest) (hpoint : ∀ b ∈ rest.head?, b ≠ Byte.point) :
    scanFraction ended (numeral.fractionBytes ++ rest) = .ok (numeral.literal.fraction, rest) := by
  have hdigits := numeral.formed.fraction_digits
  unfold Numeral.fractionBytes
  cases hfraction : numeral.literal.fraction with
  | nil =>
      rw [if_pos rfl, List.nil_append]
      cases rest with
      | nil => rfl
      | cons b rest => rw [scanFraction, if_neg (hpoint b rfl)]
  | cons d digits =>
      rw [hfraction] at hdigits
      rw [if_neg (by simp), List.cons_append, scanFraction, if_pos rfl,
        takeWhile_digits hdigits hrest, dropWhile_digits hdigits hrest]

/-- A digit is neither sign. -/
theorem splitPowerSign_of_isDigit {b : UInt8} (h : Byte.isDigit b = true) (rest : List UInt8) :
    splitPowerSign (b :: rest) = (false, b :: rest) := by
  have hplus : b ≠ Byte.plus := by
    rintro rfl
    contradiction
  have hminus : b ≠ Byte.minus := by
    rintro rfl
    contradiction
  rw [splitPowerSign, if_neg hplus, if_neg hminus]

/-- The sign of a power is split off. -/
theorem splitPowerSign_powerSign (numeral : Numeral) {b : UInt8} (h : Byte.isDigit b = true)
    (rest : List UInt8) :
    splitPowerSign (numeral.powerSign ++ b :: rest) =
      (numeral.literal.powerNegative, b :: rest) := by
  unfold Numeral.powerSign
  cases numeral.literal.powerNegative with
  | true => rfl
  | false =>
      cases numeral.plus with
      | true => rfl
      | false => exact splitPowerSign_of_isDigit h rest

/-- A power is scanned, or found missing. -/
theorem scanPower_append (numeral : Numeral) (ended : Cause) {rest : List UInt8}
    (hrest : Stops rest) :
    scanPower ended (numeral.powerBytes ++ rest) =
      .ok ((numeral.literal.powerNegative, numeral.literal.power), rest) := by
  have hdigits := numeral.formed.power_digits
  have hunpowered := numeral.formed.unpowered
  unfold Numeral.powerBytes
  cases hpower : numeral.literal.power with
  | nil =>
      rw [if_pos rfl, List.nil_append, hunpowered hpower]
      cases rest with
      | nil => rfl
      | cons b rest => simp [scanPower, (hrest b rfl).2.2]
  | cons d digits =>
      rw [hpower, List.forall_mem_cons] at hdigits
      have hundigited : Undigited rest := fun b hb => (hrest b hb).1
      rw [if_neg (by simp), List.cons_append, List.append_assoc, List.cons_append, scanPower,
        if_pos numeral.marks, splitPowerSign_powerSign numeral hdigits.1]
      simp only
      rw [if_pos hdigits.1, takeWhile_digits hdigits.2 hundigited,
        dropWhile_digits hdigits.2 hundigited]

/-- What begins with a power, or ends a number, is neither a digit nor a point. -/
theorem head_powerBytes (numeral : Numeral) {rest : List UInt8} (hrest : Stops rest) :
    ∀ b ∈ (numeral.powerBytes ++ rest).head?, Byte.isDigit b = false ∧ b ≠ Byte.point := by
  unfold Numeral.powerBytes
  split
  · exact fun b hb => ⟨(hrest b hb).1, (hrest b hb).2.1⟩
  · intro b hb
    obtain rfl : numeral.mark = b := by simpa using hb
    have hmark := numeral.marks
    simp only [Byte.isPowerMark, Bool.or_eq_true, beq_iff_eq] at hmark
    rcases hmark with hmark | hmark <;> rw [hmark] <;> decide

/-- A number is scanned. -/
theorem scanLiteral_unsignedBytes (numeral : Numeral) (ended : Cause) {rest : List UInt8}
    (hrest : Stops rest) :
    scanLiteral ended numeral.literal.negative (numeral.unsignedBytes ++ rest) =
      .ok (numeral.literal, rest) := by
  have hpower := head_powerBytes numeral hrest
  have hundigited : Undigited (numeral.fractionBytes ++ (numeral.powerBytes ++ rest)) := by
    unfold Numeral.fractionBytes
    split
    · exact fun b hb => (hpower b hb).1
    · intro b hb
      obtain rfl : Byte.point = b := by simpa using hb
      decide
  unfold scanLiteral Numeral.unsignedBytes
  rw [List.append_assoc, List.append_assoc, scanWhole_append numeral.formed ended hundigited]
  simp only [bind, Except.bind]
  rw [scanFraction_append numeral ended (fun b hb => (hpower b hb).1) fun b hb => (hpower b hb).2]
  simp only
  rw [scanPower_append numeral ended hrest]
  rfl

/-- What follows a number has no part in its value. -/
theorem Literal.value_eq_ok_iff (literal : Literal) (rest : List UInt8) (n : Number) :
    literal.value rest = .ok n ↔ literal.value [] = .ok n := by
  unfold Literal.value
  grind

/-- A number is read, when it is in range. -/
theorem readNumber_unsignedBytes {numeral : Numeral} {n : Number}
    (hvalue : numeral.number? = some n) {rest : List UInt8} (hrest : Stops rest) :
    readNumber numeral.literal.negative (numeral.unsignedBytes ++ rest) = .ok (n, rest) := by
  have hok : numeral.literal.value rest = .ok n := by
    rw [Literal.value_eq_ok_iff]
    unfold Numeral.number? at hvalue
    cases hnumber : numeral.literal.value [] with
    | error fault => simp [hnumber, Except.toOption] at hvalue
    | ok m => simpa [hnumber, Except.toOption] using hvalue
  unfold readNumber
  rw [scanLiteral_unsignedBytes numeral _ hrest]
  simp only [bind, Except.bind, hok]
  rfl

/-! ## Strings -/

/-- A byte that does not close the string is worked on. -/
theorem readContent_cons {spot next : Spot} {seen content : List UInt8} {b : UInt8}
    (hopen : spot = .plain → b ≠ Byte.quote)
    (hstep : stepString spot seen b = .ok (next, content)) (rest : List UInt8) :
    readContent spot seen (b :: rest) = readContent next content rest := by
  rw [readContent, if_neg fun h => hopen h.1 h.2, hstep]

/-- A byte that stands for itself is gathered. -/
theorem readContent_plain {b : UInt8}
    (h : b ≠ Byte.quote ∧ b ≠ Byte.backslash ∧ 0x20 ≤ b) (seen rest : List UInt8) :
    readContent .plain seen (b :: rest) = readContent .plain (b :: seen) rest := by
  obtain ⟨hquote, hbackslash, hprintable⟩ := h
  refine readContent_cons (fun _ => hquote) ?_ rest
  rw [stepString, if_neg hbackslash, if_neg (UInt8.not_lt.mpr hprintable)]

/-- A backslash opens an escape. -/
theorem readContent_backslash (seen rest : List UInt8) :
    readContent .plain seen (Byte.backslash :: rest) = readContent .escape seen rest :=
  readContent_cons (fun _ => by decide) rfl rest

/-- A short escape is the byte that it stands for. -/
theorem readContent_short {letter c : UInt8} (h : escaped? letter = some c)
    (seen rest : List UInt8) :
    readContent .plain seen (Byte.backslash :: letter :: rest) =
      readContent .plain (c :: seen) rest := by
  have hletter : letter ≠ hexLetter := by
    rintro rfl
    contradiction
  rw [readContent_backslash]
  refine readContent_cons (by simp) ?_ rest
  simp only [stepString, if_neg hletter, h]

/-- Four digits close a hexadecimal escape. -/
theorem readContent_hex {w x y z : UInt8} {n : Nat} (h : Text.Hex.value4? w x y z = some n)
    {lead : Option Nat} {seen content : List UInt8} {next : Spot}
    (hclose : closeHex lead seen n = .ok (next, content)) (rest : List UInt8) :
    readContent (.hex lead []) seen (w :: x :: y :: z :: rest) = readContent next content rest := by
  calc readContent (.hex lead []) seen (w :: x :: y :: z :: rest)
      = readContent (.hex lead [w]) seen (x :: y :: z :: rest) :=
        readContent_cons (by simp) rfl _
    _ = readContent (.hex lead [x, w]) seen (y :: z :: rest) := readContent_cons (by simp) rfl _
    _ = readContent (.hex lead [y, x, w]) seen (z :: rest) := readContent_cons (by simp) rfl _
    _ = readContent next content rest :=
        readContent_cons (by simp) (by simp only [stepString, h, hclose]) _

/-- A hexadecimal escape does what its code does. -/
theorem readContent_code {w x y z : UInt8} {n : Nat} (h : Text.Hex.value4? w x y z = some n)
    {seen content : List UInt8} {next : Spot}
    (hclose : closeHex none seen n = .ok (next, content)) (rest : List UInt8) :
    readContent .plain seen (Byte.backslash :: hexLetter :: w :: x :: y :: z :: rest) =
      readContent next content rest := by
  rw [readContent_backslash, ← readContent_hex h hclose]
  exact readContent_cons (by simp) rfl _

/-- The second escape of a pair closes it. -/
theorem readContent_pair {w x y z : UInt8} {m : Nat} (h : Text.Hex.value4? w x y z = some m)
    (htrail : isTrail m = true) (lead : Nat) (seen rest : List UInt8) :
    readContent (.pair lead) seen (Byte.backslash :: hexLetter :: w :: x :: y :: z :: rest) =
      readContent .plain (pushChar seen (pairCode lead m)) rest := by
  have hclose : closeHex (some lead) seen m = .ok (.plain, pushChar seen (pairCode lead m)) := by
    rw [closeHex, if_pos htrail]
  calc readContent (.pair lead) seen (Byte.backslash :: hexLetter :: w :: x :: y :: z :: rest)
      = readContent (.pairEscape lead) seen (hexLetter :: w :: x :: y :: z :: rest) :=
        readContent_cons (by simp) rfl _
    _ = readContent (.hex (some lead) []) seen (w :: x :: y :: z :: rest) :=
        readContent_cons (by simp) rfl _
    _ = readContent .plain (pushChar seen (pairCode lead m)) rest := readContent_hex h hclose rest

/-- The bytes of a character are gathered in their order. -/
theorem reverse_pushChar (seen : List UInt8) (code : Nat) :
    (pushChar seen code).reverse = seen.reverse ++ Text.Utf8.encodeChar (Char.ofNat code) := by
  simp [pushChar]

/-- The bytes of a string are those of its first piece and those of the rest of it. -/
theorem quotedBytes_cons (piece : Piece) (pieces : List Piece) (rest : List UInt8) :
    quotedBytes (piece :: pieces) ++ rest = piece.bytes ++ (quotedBytes pieces ++ rest) := by
  simp [quotedBytes]

/-- The bytes that the pieces of a string stand for are gathered. -/
theorem readContent_quotedBytes {pieces : List Piece} {content : List UInt8}
    (h : content? pieces = some content) (seen rest : List UInt8) :
    readContent .plain seen (quotedBytes pieces ++ rest) = .ok (seen.reverse ++ content, rest) := by
  fun_induction content? pieces generalizing content seen with
  | case1 =>
      obtain rfl := Option.some.inj h
      simp [quotedBytes, readContent]
  | case2 b ordinary pieces ih =>
      obtain ⟨content, hcontent, rfl⟩ := Option.map_eq_some_iff.mp h
      rw [quotedBytes_cons, Piece.bytes, List.singleton_append, readContent_plain ordinary,
        ih hcontent, List.reverse_cons, List.append_assoc, List.singleton_append]
  | case3 letter c known pieces ih =>
      obtain ⟨content, hcontent, rfl⟩ := Option.map_eq_some_iff.mp h
      rw [quotedBytes_cons, Piece.bytes, List.cons_append, List.singleton_append,
        readContent_short known, ih hcontent, List.reverse_cons, List.append_assoc,
        List.singleton_append]
  | case4 => contradiction
  | case5 w x y z n digits hlone hlead w' x' y' z' m digits' pieces htrail ih =>
      obtain ⟨content, hcontent, rfl⟩ := Option.map_eq_some_iff.mp h
      have hclose : closeHex none seen n = .ok (.pair n, seen) := by
        rw [closeHex, if_neg hlone, if_pos hlead]
      rw [quotedBytes_cons, quotedBytes_cons]
      simp only [Piece.bytes, List.cons_append, List.nil_append]
      rw [readContent_code digits hclose, readContent_pair digits' htrail, ih hcontent,
        reverse_pushChar, List.append_assoc]
  | case6 => contradiction
  | case7 => contradiction
  | case8 w x y z n digits pieces hlone hplain ih =>
      obtain ⟨content, hcontent, rfl⟩ := Option.map_eq_some_iff.mp h
      have hclose : closeHex none seen n = .ok (.plain, pushChar seen n) := by
        rw [closeHex, if_neg hlone, if_neg hplain]
      rw [quotedBytes_cons]
      simp only [Piece.bytes, List.cons_append, List.nil_append]
      rw [readContent_code digits hclose, ih hcontent, reverse_pushChar, List.append_assoc]

/-- Bytes that are UTF-8 are decoded. -/
theorem decodeContent_of_decode? {content : List UInt8} {text : List Char}
    (h : Text.Utf8.decode? content = some text) (rest : List UInt8) :
    decodeContent content rest = .ok (String.ofList text) := by
  unfold Text.Utf8.decode? at h
  split at h
  · rename_i split_eq
    obtain rfl := Option.some.inj h
    unfold decodeContent
    rw [split_eq]
    rfl
  · contradiction

/-- A string is read, when it says something. -/
theorem readString_quotedBytes {pieces : List Piece} {text : String}
    (h : text? pieces = some text) (rest : List UInt8) :
    readString (quotedBytes pieces ++ rest) = .ok (text, rest) := by
  obtain ⟨chars, hchars, rfl⟩ := Option.map_eq_some_iff.mp h
  obtain ⟨content, hcontent, hdecode⟩ := Option.bind_eq_some_iff.mp hchars
  unfold readString
  rw [readContent_quotedBytes hcontent]
  simp only [bind, Except.bind, List.reverse_nil, List.nil_append]
  rw [decodeContent_of_decode? hdecode]
  rfl

/-- A piece of a string is skipped. -/
theorem skipString_bytes (piece : Piece) (rest : List UInt8) :
    skipString .plain (piece.bytes ++ rest) = skipString .plain rest := by
  have hescape (rest : List UInt8) :
      skipString .plain (Byte.backslash :: rest) = skipString .escape rest := by
    rw [skipString.eq_def]
    rfl
  cases piece with
  | plain b ordinary =>
      obtain ⟨hquote, hbackslash, hprintable⟩ := ordinary
      rw [Piece.bytes, List.singleton_append, skipString, if_neg hquote, if_neg hbackslash,
        if_neg (UInt8.not_lt.mpr hprintable)]
  | short letter c known =>
      have hletter : letter ≠ hexLetter := by
        rintro rfl
        contradiction
      rw [Piece.bytes, List.cons_append, List.singleton_append, hescape, skipString,
        if_neg hletter, known]
      rfl
  | code w x y z n digits =>
      simp only [Piece.bytes, List.cons_append, List.nil_append]
      calc skipString .plain (Byte.backslash :: hexLetter :: w :: x :: y :: z :: rest)
          = skipString (.hex []) (w :: x :: y :: z :: rest) := by
            rw [hescape, skipString, if_pos rfl]
        _ = skipString (.hex [y, x, w]) (z :: rest) := by simp [skipString]
        _ = skipString .plain rest := by
            rw [skipString, digits]
            rfl

/-- A string is skipped, whatever it says. -/
theorem skipString_quotedBytes (pieces : List Piece) (rest : List UInt8) :
    skipString .plain (quotedBytes pieces ++ rest) = .ok rest := by
  induction pieces with
  | nil => rfl
  | cons piece pieces ih => rw [quotedBytes_cons, skipString_bytes, ih]

end Turnstile.Json
