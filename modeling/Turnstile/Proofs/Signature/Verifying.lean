import Mathlib.Data.Bool.AllAny
import Turnstile.Proofs.Text.Hex
import Turnstile.SignTool

/-!
# Which headers are accepted

A header is accepted when what is left of it after trimming gives the signature of the
request: its sixty-four digits, with the letters in either case, behind the mark or behind
nothing.  It counts as missing when it is blank, and as invalid otherwise.  The line that the
signing tool prints is accepted, and the letter case of the method makes no difference.

Main definitions and results:

- `Verifier.Gives`: the texts that give a signature.
- `Verifier.decode?_withoutMark_iff`: what is read behind an optional mark.
- `Verifier.gives_sign_iff`: a text gives the signature when the digest is read from it.
- `Verifier.canonical_of_eqIgnoringCase`: the letter case of the method.
- `SignTool.run_output`, `SignTool.trimChars_signatureLine`: the line that the tool prints.
- `Verifier.verify_accepts_exactly`: which headers are accepted, missing and invalid.
-/

namespace Turnstile

open Text (EqIgnoringCase isBlank lowerAscii trimChars)
open Text.Hex (IsDigit Spells)

namespace Verifier

/-- A text gives a signature: it consists of the same sixty-four hexadecimal digits, with
letters of either case, and the mark may stand in front of them. -/
def Gives (signature : String) (text : List Char) : Prop :=
  ∃ digits : List Char,
    (text = digits ∨ text = "sha256=".toList ++ digits) ∧
      digits.length = 64 ∧ (∀ c ∈ digits, IsDigit c) ∧
      digits.map lowerAscii = signature.toList

/-! ## The mark -/

/-- The mark in front of a text is taken off once. -/
theorem withoutMark_append (text : List Char) : withoutMark ("sha256=".toList ++ text) = text := by
  have hmark : "sha256=".toList = signatureMark := by decide
  rw [hmark, withoutMark, if_pos (List.isPrefixOf_iff_prefix.mpr (List.prefix_append _ _)),
    List.drop_left]

/-- Digits have no mark in front. -/
theorem withoutMark_of_digits {text : List Char} (h : ∀ c ∈ text, IsDigit c) :
    withoutMark text = text := by
  have hmarked : ¬signatureMark.isPrefixOf text = true := by
    rw [List.isPrefixOf_iff_prefix]
    rintro ⟨rest, rfl⟩
    have hletter : IsDigit 's' := h 's' (by simp [signatureMark])
    exact absurd hletter (by decide)
  rw [withoutMark, if_neg hmarked]

/-- A text without its mark is the text itself, or there was the mark in front of it. -/
theorem eq_or_eq_append_withoutMark (text : List Char) :
    text = withoutMark text ∨ text = "sha256=".toList ++ withoutMark text := by
  by_cases hmarked : signatureMark.isPrefixOf text = true
  · obtain ⟨rest, rfl⟩ := List.isPrefixOf_iff_prefix.mp hmarked
    have hrest : withoutMark (signatureMark ++ rest) = rest := withoutMark_append rest
    right
    rw [hrest]
    rfl
  · left
    rw [withoutMark, if_neg hmarked]

/-- What is read of a text without its mark is spelled by digits behind an optional mark. -/
theorem decode?_withoutMark_iff {text : List Char} {bytes : List UInt8} :
    Text.Hex.decode? (withoutMark text) = some bytes ↔
      ∃ digits, (text = digits ∨ text = "sha256=".toList ++ digits) ∧ Spells digits bytes := by
  rw [Text.Hex.decode?_eq_some_iff]
  constructor
  · intro hspells
    exact ⟨withoutMark text, eq_or_eq_append_withoutMark text, hspells⟩
  · rintro ⟨digits, rfl | rfl, hspells⟩
    · rwa [withoutMark_of_digits hspells.digits]
    · rwa [withoutMark_append]

/-! ## The signature -/

variable (verifier : Verifier) (method path : String) (body : List UInt8)

/-- A signature consists of the digits that are written for the digest. -/
theorem toList_sign :
    (verifier.sign method path body).toList =
      Text.Hex.encode (verifier.digest method path body) := by
  rw [sign, Text.Hex.encodeString, String.toList_ofList]

/-- A digest has thirty-two bytes. -/
theorem length_digest : (verifier.digest method path body).length = 32 :=
  Hmac.sha256_length _ _

/-- Digits that spell the digest are sixty-four in number, and in lower case they are the
signature. -/
theorem spells_digest_iff {digits : List Char} :
    Spells digits (verifier.digest method path body) ↔
      digits.length = 64 ∧ (∀ c ∈ digits, IsDigit c) ∧
        digits.map lowerAscii = (verifier.sign method path body).toList := by
  rw [toList_sign]
  constructor
  · intro h
    refine ⟨?_, h.digits, h.lower⟩
    rw [h.length_eq, length_digest]
  · rintro ⟨-, hdigits, hlower⟩
    exact ⟨hdigits, hlower⟩

/-- A text gives the signature exactly when the digest is read from it. -/
theorem gives_sign_iff {text : List Char} :
    Gives (verifier.sign method path body) text ↔
      Text.Hex.decode? (withoutMark text) = some (verifier.digest method path body) := by
  rw [decode?_withoutMark_iff]
  simp only [spells_digest_iff]
  rfl

/-- The signature itself gives it, behind the mark or not. -/
theorem gives_sign :
    Gives (verifier.sign method path body) (verifier.sign method path body).toList ∧
      Gives (verifier.sign method path body)
        ("sha256=".toList ++ (verifier.sign method path body).toList) := by
  have hspells : Spells (verifier.sign method path body).toList
      (verifier.digest method path body) := by
    rw [toList_sign]
    exact Text.Hex.spells_encode _
  have hdigits := (verifier.spells_digest_iff method path body).mp hspells
  exact ⟨⟨_, Or.inl rfl, hdigits⟩, ⟨_, Or.inr rfl, hdigits⟩⟩

/-- The digits of a signature are no blanks. -/
theorem isBlank_of_mem_sign {c : Char} (hc : c ∈ (verifier.sign method path body).toList) :
    isBlank c = false := by
  rw [toList_sign] at hc
  exact ((Text.Hex.spells_encode _).digits c hc).isBlank_eq_false

/-- A request is signed alike whatever the letter case of its method. -/
theorem canonical_of_eqIgnoringCase {method other : String} (h : EqIgnoringCase method other)
    (path : String) (body : List UInt8) :
    canonical method path body = canonical other path body := by
  rw [canonical, canonical, Text.eqIgnoringCase_iff.mp h]

/-! ## The three answers -/

variable {verifier method path body}

/-- Where there is no header, the signature is missing. -/
theorem verify_none : verifier.verify none method path body = .error .missing :=
  rfl

/-- What gives a signature is not empty. -/
theorem Gives.ne_nil {signature : String} {text : List Char} (h : Gives signature text) :
    text ≠ [] := by
  rintro rfl
  obtain ⟨digits, hdigits, hlength, -⟩ := h
  rcases hdigits with rfl | hmarked
  · simp at hlength
  · simp at hmarked

/-- A header is accepted when it gives the signature, and only then. -/
theorem verify_some_eq_ok_iff {text : String} :
    verifier.verify (some text) method path body = .ok () ↔
      Gives (verifier.sign method path body) (trimChars text.toList) := by
  rw [verify, Option.map_some]
  cases trimChars text.toList with
  | nil => exact ⟨fun h => by contradiction, fun h => absurd rfl h.ne_nil⟩
  | cons c trimmed =>
      rw [gives_sign_iff]
      dsimp only
      split <;> simp_all

/-- A header is missing when it is blank, and only then. -/
theorem verify_some_eq_missing_iff {text : String} :
    verifier.verify (some text) method path body = .error .missing ↔
      ∀ c ∈ text.toList, isBlank c = true := by
  rw [← Text.trimChars_eq_nil_iff, verify, Option.map_some]
  cases trimChars text.toList with
  | nil => simp
  | cons c trimmed =>
      dsimp only
      split <;> simp

end Verifier

/-! ## The signing tool -/

namespace SignTool

/-- A run that can be signed prints the line with the signature. -/
theorem run_output {arguments : List String} {secret : Option String}
    {read : Source → Except ReadError (List UInt8)} {plan : Plan} {verifier : Verifier}
    {body : List UInt8} (hprepare : prepare arguments secret = .ok (plan, verifier))
    (hread : read plan.source = .ok body) :
    (run arguments secret read).output =
      signatureLine (verifier.sign plan.method plan.path body) := by
  rw [run, hprepare]
  simp only [hread]
  rfl

/-- What is left of the line is the mark with the signature behind it. -/
theorem trimChars_signatureLine (verifier : Verifier) (method path : String) (body : List UInt8) :
    trimChars (signatureLine (verifier.sign method path body)).toList =
      "sha256=".toList ++ (verifier.sign method path body).toList := by
  have hline : (signatureLine (verifier.sign method path body)).toList =
      [] ++ ("sha256=".toList ++ (verifier.sign method path body).toList) ++ ['\n'] := by
    simp [signatureLine]
  have hnonempty : (verifier.sign method path body).toList ≠ [] :=
    (verifier.gives_sign method path body).1.ne_nil
  rw [hline]
  refine Text.trimChars_padded (by simp) (List.forall_mem_singleton.mpr rfl) ?_ ?_
  · intro c hc
    obtain rfl : 's' = c := by simpa using hc
    decide
  · intro c hc
    rw [List.getLast?_append, List.getLast?_eq_some_getLast hnonempty, Option.some_or] at hc
    obtain rfl : _ = c := by simpa using hc
    exact verifier.isBlank_of_mem_sign method path body (List.getLast_mem hnonempty)

end SignTool

/-! ## The law -/

/-- A header is accepted exactly when, trimmed, it gives the signature of the request; it is
missing exactly when there is none or a blank one; and in all other cases it is invalid.  The
letter case of the method makes no difference, and the line that the signing tool prints is
accepted for the request that it was printed for. -/
theorem Verifier.verify_accepts_exactly (verifier : Verifier) :
    (∀ (signature : Option String) (method path : String) (body : List UInt8),
      let accepted := ∃ text, signature = some text ∧
        Gives (verifier.sign method path body) (trimChars text.toList)
      let missing := ∀ text, signature = some text → ∀ c ∈ text.toList, isBlank c = true
      (verifier.verify signature method path body = .ok () ↔ accepted) ∧
        (verifier.verify signature method path body = .error .missing ↔ missing) ∧
        (verifier.verify signature method path body = .error .invalid ↔ ¬accepted ∧ ¬missing)) ∧
    (∀ (signature : Option String) (method other path : String) (body : List UInt8),
      EqIgnoringCase method other →
        verifier.verify signature method path body = verifier.verify signature other path body) ∧
    ∀ arguments secret read plan body,
      SignTool.prepare arguments secret = .ok (plan, verifier) → read plan.source = .ok body →
        verifier.verify (some (SignTool.run arguments secret read).output) plan.method plan.path
          body = .ok () := by
  refine ⟨?_, ?_, ?_⟩
  · intro signature method path body accepted missing
    cases signature with
    | none => simp [accepted, missing, verify_none]
    | some text =>
        have haccepted : verifier.verify (some text) method path body = .ok () ↔ accepted :=
          verify_some_eq_ok_iff.trans (by simp [accepted])
        have hmissing :
            verifier.verify (some text) method path body = .error .missing ↔ missing :=
          verify_some_eq_missing_iff.trans (by simp [missing])
        refine ⟨haccepted, hmissing, ?_⟩
        -- There are three answers.
        rw [← haccepted, ← hmissing]
        rcases verifier.verify (some text) method path body with (_ | _) | _ <;> simp
  · intro signature method other path body hcase
    unfold verify digest
    rw [canonical_of_eqIgnoringCase hcase]
  · intro arguments secret read plan body hprepare hread
    rw [SignTool.run_output hprepare hread]
    have htrimmed := SignTool.trimChars_signatureLine verifier plan.method plan.path body
    have hgives := (verifier.gives_sign plan.method plan.path body).2
    rw [← htrimmed] at hgives
    exact verify_some_eq_ok_iff.mpr hgives

/-- The verifier of a service whose secret is the sixteen digits written twice. -/
def Verifier.ofDigits : Verifier :=
  ⟨Text.Utf8.encodeString "0123456789abcdef0123456789abcdef", by decide⟩

/-- The signature of an empty event in capitals, with blanks around. -/
def Verifier.capitals : String :=
  "\t sha256=A6C5A3FAEC12F94837B5096E50A925919AC36ACCCF33B4377887814A2DCDA6A4\u3000"

/-- Capitals between blanks, a method in small letters, and the tool without arguments but
the source. -/
theorem Verifier.verify_accepts_exactly_capitals :
    let body := [0x7B, 0x7D]
    let plan : SignTool.Plan := ⟨.standardInput, "POST", "/check-event"⟩
    let secret := some "0123456789abcdef0123456789abcdef"
    Gives (ofDigits.sign "POST" "/check-event" body) (trimChars capitals.toList) ∧
      ofDigits.verify (some capitals) "POST" "/check-event" body = .ok () ∧
      EqIgnoringCase "POST" "post" ∧
      ofDigits.verify (some capitals) "POST" "/check-event" body =
        ofDigits.verify (some capitals) "post" "/check-event" body ∧
      SignTool.prepare ["-"] secret = .ok (plan, ofDigits) ∧
      ofDigits.verify (some (SignTool.run ["-"] secret fun _ => .ok body).output) plan.method
        plan.path body = .ok () := by
  intro body plan secret
  obtain ⟨hanswers, hcase, htool⟩ := ofDigits.verify_accepts_exactly
  let digits := "A6C5A3FAEC12F94837B5096E50A925919AC36ACCCF33B4377887814A2DCDA6A4".toList
  have hdigits : ∀ c ∈ digits, Text.Hex.IsDigit c :=
    List.all_iff_forall_prop.mp (by decide +kernel)
  have hgives : Gives (ofDigits.sign "POST" "/check-event" body) (trimChars capitals.toList) :=
    ⟨digits, Or.inr (by decide +kernel), by decide +kernel, hdigits, by decide +kernel⟩
  have hpost : EqIgnoringCase "POST" "post" := by decide
  have hprepare : SignTool.prepare ["-"] secret = .ok (plan, ofDigits) := rfl
  exact ⟨hgives, (hanswers _ _ _ _).1.mpr ⟨_, rfl, hgives⟩, hpost, hcase _ _ _ _ _ hpost,
    hprepare, htool _ _ _ _ _ hprepare rfl⟩

end Turnstile
