import Mathlib.Data.List.TakeWhile
import Turnstile.Text.Ascii
import Turnstile.Text.Blank

/-!
# Letter case and blanks

Two texts are equal up to letter case when they are equal once all ASCII letters are small,
which is when they are equal once all are capital.  Trimming takes the blanks off both ends
of a text and leaves what stands between them.

Main definitions and results:

- `EqIgnoringCase`, `eqIgnoringCase_iff`: equality up to letter case, by small letters and
  by capital ones.
- `trimChars_eq_nil_iff`: nothing is left of blanks.
- `trimChars_padded`: what stands between blanks is left.
- `trimChars_of_no_blanks`: a text without blanks is left as it is.
-/

namespace Turnstile.Text

/-! ## Letter case -/

/-- A code below the surrogates is the code of its character. -/
theorem toNat_ofNat {n : Nat} (h : n < 0xD800) : (Char.ofNat n).toNat = n := by
  have hvalid : n.isValidChar := Or.inl h
  rw [Char.ofNat, dif_pos hvalid]
  rfl

/-- The code of a character in lower case. -/
theorem toNat_lowerAscii (c : Char) :
    (lowerAscii c).toNat = if 65 ≤ c.toNat ∧ c.toNat ≤ 90 then c.toNat + 32 else c.toNat := by
  unfold lowerAscii
  split
  · exact toNat_ofNat (by omega)
  · rfl

/-- The code of a character in upper case. -/
theorem toNat_upperAscii (c : Char) :
    (upperAscii c).toNat = if 97 ≤ c.toNat ∧ c.toNat ≤ 122 then c.toNat - 32 else c.toNat := by
  unfold upperAscii
  split
  · exact toNat_ofNat (by omega)
  · rfl

/-- Characters that are equal in lower case are equal in upper case. -/
theorem lowerAscii_eq_iff {c d : Char} :
    lowerAscii c = lowerAscii d ↔ upperAscii c = upperAscii d := by
  rw [← Char.toNat_inj, ← Char.toNat_inj, toNat_lowerAscii, toNat_lowerAscii, toNat_upperAscii,
    toNat_upperAscii]
  grind

/-- Texts that are equal up to the case of ASCII letters. -/
def EqIgnoringCase (text other : String) : Prop :=
  text.toList.map lowerAscii = other.toList.map lowerAscii

instance (text other : String) : Decidable (EqIgnoringCase text other) :=
  inferInstanceAs (Decidable (_ = _))

/-- Texts are equal up to letter case exactly when they are equal once all letters are
capital. -/
theorem eqIgnoringCase_iff {text other : String} :
    EqIgnoringCase text other ↔ text.toList.map upperAscii = other.toList.map upperAscii := by
  unfold EqIgnoringCase
  generalize text.toList = l
  generalize other.toList = m
  induction l generalizing m with
  | nil => cases m <;> simp
  | cons c l ih =>
      cases m with
      | nil => simp
      | cons d m => simp only [List.map_cons, List.cons.injEq, lowerAscii_eq_iff, ih]

/-! ## Blanks -/

/-- Leading blanks go. -/
theorem dropWhile_blanks {blanks : List Char} (h : ∀ c ∈ blanks, isBlank c = true)
    (text : List Char) : (blanks ++ text).dropWhile isBlank = text.dropWhile isBlank :=
  List.dropWhile_append_of_pos h

/-- A text that does not begin with a blank stays. -/
theorem dropWhile_of_head {text : List Char} (h : ∀ c ∈ text.head?, isBlank c = false) :
    text.dropWhile isBlank = text := by
  cases text with
  | nil => rfl
  | cons c text =>
      have hc : isBlank c = false := h c rfl
      exact List.dropWhile_cons_of_neg (by simp [hc])

/-- A text is all blank when each of its characters is. -/
theorem isAllBlank_iff {text : String} :
    isAllBlank text = true ↔ ∀ c ∈ text.toList, isBlank c = true := by
  rw [isAllBlank, List.all_eq_true]

/-- Trimming leaves nothing when there is nothing but blanks, and only then. -/
theorem trimChars_eq_nil_iff {text : List Char} :
    trimChars text = [] ↔ ∀ c ∈ text, isBlank c = true := by
  unfold trimChars
  rw [List.reverse_eq_nil_iff, List.dropWhile_eq_nil_iff]
  constructor
  · intro h c hc
    rw [← List.takeWhile_append_dropWhile (p := isBlank) (l := text)] at hc
    rcases List.mem_append.mp hc with hfront | hrest
    · exact List.mem_takeWhile_imp hfront
    · exact h c (List.mem_reverse.mpr hrest)
  · intro h c hc
    exact h c ((List.dropWhile_sublist _).mem (List.mem_reverse.mp hc))

/-- A text that has no blank at its ends is what trimming leaves, whatever blanks stand around
it. -/
theorem trimChars_padded {front text back : List Char} (hfront : ∀ c ∈ front, isBlank c = true)
    (hback : ∀ c ∈ back, isBlank c = true) (hhead : ∀ c ∈ text.head?, isBlank c = false)
    (hlast : ∀ c ∈ text.getLast?, isBlank c = false) :
    trimChars (front ++ text ++ back) = text := by
  have hreversed : ∀ c ∈ back.reverse, isBlank c = true := fun c hc =>
    hback c (List.mem_reverse.mp hc)
  cases text with
  | nil =>
      rw [List.append_nil, trimChars_eq_nil_iff]
      intro c hc
      rcases List.mem_append.mp hc with hc | hc
      · exact hfront c hc
      · exact hback c hc
  | cons c text =>
      have hfirst : ((c :: text) ++ back).dropWhile isBlank = (c :: text) ++ back :=
        dropWhile_of_head hhead
      have hend : (c :: text).reverse.dropWhile isBlank = (c :: text).reverse :=
        dropWhile_of_head (by rwa [List.head?_reverse])
      rw [trimChars, List.append_assoc, dropWhile_blanks hfront, hfirst, List.reverse_append,
        dropWhile_blanks hreversed, hend, List.reverse_reverse]

/-- A text without blanks is left as it is. -/
theorem trimChars_of_no_blanks {text : List Char} (h : ∀ c ∈ text, isBlank c = false) :
    trimChars text = text := by
  have hpadded : trimChars ([] ++ text ++ []) = text :=
    trimChars_padded (by simp) (by simp) (fun c hc => h c (List.mem_of_head? hc))
      (fun c hc => h c (List.mem_of_getLast? hc))
  rwa [List.nil_append, List.append_nil] at hpadded

end Turnstile.Text
