import Turnstile.Proofs.Signature.Verifying
import Turnstile.Proofs.Text.Utf8

/-!
# A signature is for one request

The bytes that a signature covers are three parts, of which the first two end with a line
feed.  Where neither method nor path has one, the first line feed ends the method and the next
one the path, whatever the body holds, so the bytes tell the request up to the letter case of
its method.  What is accepted for one request is accepted for another exactly when their
digests are equal.

Main results:

- `Text.Utf8.lineFeed_mem_encode_iff`: only a line feed has that byte.
- `append_lineFeed_inj`: a line and what follows it, from the bytes of both.
- `canonical_inj`: a request from the bytes that its signature covers.
- `Verifier.verify_of_verified`: a header that was accepted for another request.
- `Verifier.signature_binds_request`: a signature is accepted for its own request, and for no
  other without a collision.
-/

namespace Turnstile

open Text (EqIgnoringCase trimChars upperAscii)

/-! ## Line feeds -/

/-- Among the characters only the line feed is written with its byte. -/
theorem Text.Utf8.lineFeed_mem_encodeChar_iff {c : Char} :
    lineFeed ∈ encodeChar c ↔ c = '\n' := by
  constructor
  · intro h
    have hlast := toNat_lt c
    have hbyte : lineFeed.toNat = 10 := rfl
    have hcode : c.toNat = 10 := by
      unfold encodeChar at h
      dsimp only at h
      split_ifs at h <;>
        simp only [List.mem_cons, List.not_mem_nil, or_false, ← UInt8.toNat_inj,
          UInt8.toNat_ofNat', hbyte] at h <;>
        omega
    exact Char.toNat_inj.mp hcode
  · rintro rfl
    decide

/-- A text has the byte of the line feed when it has a line feed. -/
theorem Text.Utf8.lineFeed_mem_encode_iff {text : List Char} :
    lineFeed ∈ encode text ↔ '\n' ∈ text := by
  simp only [encode, List.mem_flatMap, lineFeed_mem_encodeChar_iff]
  exact exists_eq_right

/-- No letter becomes a line feed in upper case. -/
theorem Text.upperAscii_eq_lineFeed_iff {c : Char} : upperAscii c = '\n' ↔ c = '\n' := by
  rw [← Char.toNat_inj, ← Char.toNat_inj, toNat_upperAscii]
  have hcode : '\n'.toNat = 10 := rfl
  grind

/-- A method has no line feed in upper case when it has none as it is. -/
theorem lineFeed_mem_upper_iff {method : String} :
    lineFeed ∈ Text.Utf8.encode (method.toList.map upperAscii) ↔
      lineFeed ∈ Text.Utf8.encodeString method := by
  rw [Text.Utf8.encodeString, Text.Utf8.lineFeed_mem_encode_iff,
    Text.Utf8.lineFeed_mem_encode_iff, List.mem_map]
  simp only [Text.upperAscii_eq_lineFeed_iff]
  exact exists_eq_right

/-- The first line feed ends the line, whatever follows. -/
theorem append_lineFeed_inj {line other rest rest' : List UInt8} (hline : lineFeed ∉ line)
    (hother : lineFeed ∉ other) :
    line ++ lineFeed :: rest = other ++ lineFeed :: rest' ↔ line = other ∧ rest = rest' := by
  induction line generalizing other with
  | nil =>
      cases other with
      | nil => simp
      | cons b other =>
          have hb : lineFeed ≠ b := fun h => hother (h ▸ List.mem_cons_self)
          simp [hb]
  | cons a line ih =>
      rw [List.mem_cons, not_or] at hline
      cases other with
      | nil => simp [Ne.symm hline.1]
      | cons b other =>
          rw [List.mem_cons, not_or] at hother
          simp only [List.cons_append, List.cons.injEq, ih hline.2 hother.2, and_assoc]

/-! ## The bytes that are signed -/

/-- The bytes that a signature covers tell the request, up to the letter case of the method. -/
theorem canonical_inj {method other path path' : String} {body body' : List UInt8}
    (hmethod : lineFeed ∉ Text.Utf8.encodeString method)
    (hother : lineFeed ∉ Text.Utf8.encodeString other)
    (hpath : lineFeed ∉ Text.Utf8.encodeString path)
    (hpath' : lineFeed ∉ Text.Utf8.encodeString path') :
    canonical method path body = canonical other path' body' ↔
      EqIgnoringCase method other ∧ path = path' ∧ body = body' := by
  rw [← lineFeed_mem_upper_iff] at hmethod hother
  rw [canonical, canonical, append_lineFeed_inj hmethod hother, append_lineFeed_inj hpath hpath',
    Text.Utf8.encode_inj, Text.Utf8.encodeString_inj, Text.eqIgnoringCase_iff]

/-! ## What was accepted for another request -/

namespace Verifier

variable {verifier : Verifier} {method other path path' : String} {body body' : List UInt8}

/-- A header that is accepted for one request is accepted for another when the digests of the
two are equal, and only then. -/
theorem verify_of_verified {text : String}
    (h : verifier.verify (some text) method path body = .ok ()) :
    verifier.verify (some text) other path' body' = .ok () ↔
      verifier.digest method path body = verifier.digest other path' body' := by
  rw [verify_some_eq_ok_iff, gives_sign_iff] at h ⊢
  rw [h, Option.some_inj]

/-- The signature of a request is accepted for it. -/
theorem verify_sign (verifier : Verifier) (method path : String) (body : List UInt8) :
    verifier.verify (some (verifier.sign method path body)) method path body = .ok () := by
  have htrimmed : trimChars (verifier.sign method path body).toList =
      (verifier.sign method path body).toList :=
    Text.trimChars_of_no_blanks fun _ hc => verifier.isBlank_of_mem_sign method path body hc
  rw [verify_some_eq_ok_iff, htrimmed]
  exact (verifier.gives_sign method path body).1

/-- Requests whose method and path have no line feed are covered by the same bytes exactly when
they agree in method, up to its letter case, path and body.  When the keyed hash of what they
are covered by does not collide, the signature of one, and every header that is accepted for
it, is accepted for the other exactly then. -/
theorem signature_binds_request (verifier : Verifier) (body body' : List UInt8)
    (hmethod : lineFeed ∉ Text.Utf8.encodeString method)
    (hother : lineFeed ∉ Text.Utf8.encodeString other)
    (hpath : lineFeed ∉ Text.Utf8.encodeString path)
    (hpath' : lineFeed ∉ Text.Utf8.encodeString path') :
    let covered := canonical method path body
    let covered' := canonical other path' body'
    let alike := EqIgnoringCase method other ∧ path = path' ∧ body = body'
    (covered = covered' ↔ alike) ∧
      ((Hmac.sha256 verifier.secret covered = Hmac.sha256 verifier.secret covered' →
          covered = covered') →
        (verifier.verify (some (verifier.sign method path body)) other path' body' = .ok () ↔
            alike) ∧
          ∀ text, verifier.verify (some text) method path body = .ok () →
            (verifier.verify (some text) other path' body' = .ok () ↔ alike)) := by
  intro covered covered' alike
  have hcovered : covered = covered' ↔ alike := canonical_inj hmethod hother hpath hpath'
  refine ⟨hcovered, fun hcollision => ?_⟩
  have hdigest : verifier.digest method path body = verifier.digest other path' body' ↔ alike := by
    rw [← hcovered]
    exact ⟨hcollision, congrArg (Hmac.sha256 verifier.secret)⟩
  refine ⟨?_, fun text htext => ?_⟩
  · rw [verify_of_verified (verifier.verify_sign method path body), hdigest]
  · rw [verify_of_verified htext, hdigest]

/-- Bytes that move from the path to the body leave the signature of another request, though
the body has a line feed where the path ended. -/
theorem signature_binds_request_movedBytes :
    let body := Text.Utf8.encodeString "c"
    let body' := Text.Utf8.encodeString "b\nc"
    let covered := canonical "POST" "/ab" body
    let covered' := canonical "post" "/a" body'
    lineFeed ∉ Text.Utf8.encodeString "POST" ∧ lineFeed ∉ Text.Utf8.encodeString "post" ∧
      lineFeed ∉ Text.Utf8.encodeString "/ab" ∧ lineFeed ∉ Text.Utf8.encodeString "/a" ∧
      (Hmac.sha256 ofDigits.secret covered = Hmac.sha256 ofDigits.secret covered' →
        covered = covered') ∧
      covered ≠ covered' ∧
      ofDigits.verify (some (ofDigits.sign "POST" "/ab" body)) "POST" "/ab" body = .ok () ∧
      ofDigits.verify (some (ofDigits.sign "POST" "/ab" body)) "post" "/a" body' ≠ .ok () := by
  intro body body' covered covered'
  have hmethod : lineFeed ∉ Text.Utf8.encodeString "POST" := by decide
  have hother : lineFeed ∉ Text.Utf8.encodeString "post" := by decide
  have hpath : lineFeed ∉ Text.Utf8.encodeString "/ab" := by decide
  have hpath' : lineFeed ∉ Text.Utf8.encodeString "/a" := by decide
  have hcollision : Hmac.sha256 ofDigits.secret covered = Hmac.sha256 ofDigits.secret covered' →
      covered = covered' := fun h => absurd h (by decide +kernel)
  obtain ⟨hcovered, hbinds⟩ :=
    ofDigits.signature_binds_request body body' hmethod hother hpath hpath'
  obtain ⟨hsame, -⟩ :=
    ofDigits.signature_binds_request body body hmethod hmethod hpath hpath |>.2 fun _ => rfl
  have hunlike : ¬(EqIgnoringCase "POST" "post" ∧ "/ab" = "/a" ∧ body = body') := by decide
  exact ⟨hmethod, hother, hpath, hpath', hcollision, hcovered.not.mpr hunlike,
    hsame.mpr ⟨rfl, rfl, rfl⟩, (hbinds hcollision).1.not.mpr hunlike⟩

end Verifier

end Turnstile
