import Turnstile.Signature.Hmac
import Turnstile.Text.Ascii
import Turnstile.Text.Blank
import Turnstile.Text.Hex
import Turnstile.Text.Utf8

/-!
# Request signatures

A request is signed with a keyed hash over its method, path and body.  Whoever
knows the secret can make the signature, and the verifier makes it again to
compare.

Main definitions:

- `Verifier`: a secret that is long enough, and `Verifier.ofSecret`.
- `canonical`: the bytes that a signature covers.
- `Verifier.sign`, `Verifier.verify`.
-/

namespace Turnstile

/-! ## Secrets -/

/-- The least length of a secret in bytes. -/
def minSecretLength : Nat := 32

/-- Why a secret cannot be used. -/
inductive SecretError
  | tooShort (length : Nat)
deriving DecidableEq, Repr

/-- The sentence for an error. -/
def SecretError.message : SecretError → String
  | .tooShort length =>
      "HMAC secret must be at least " ++ toString minSecretLength ++ " bytes (got " ++
        toString length ++ ")"

/-- A shared secret of sufficient length. -/
structure Verifier where
  secret : List UInt8
  sufficient : minSecretLength ≤ secret.length

/-- A verifier for a secret. -/
def Verifier.ofSecret (secret : List UInt8) : Except SecretError Verifier :=
  if h : minSecretLength ≤ secret.length then .ok ⟨secret, h⟩
  else .error (.tooShort secret.length)

/-- A verifier shows nothing of its secret. -/
def Verifier.redacted (_ : Verifier) : String :=
  "SignatureVerifier \x7b mac: \"<redacted>\" \x7d"

/-! ## Signing -/

/-- The byte that ends a line. -/
def lineFeed : UInt8 := 0x0A

/-- The bytes that a signature covers: the method in upper case, the path and
the body, each of the first two on a line of its own. -/
def canonical (method path : String) (body : List UInt8) : List UInt8 :=
  Text.Utf8.encode (method.toList.map Text.upperAscii) ++ lineFeed ::
    (Text.Utf8.encodeString path ++ lineFeed :: body)

/-- The keyed hash of a request. -/
def Verifier.digest (verifier : Verifier) (method path : String) (body : List UInt8) :
    List UInt8 :=
  Hmac.sha256 verifier.secret (canonical method path body)

/-- The signature of a request, in hexadecimal digits. -/
def Verifier.sign (verifier : Verifier) (method path : String) (body : List UInt8) : String :=
  Text.Hex.encodeString (verifier.digest method path body)

/-! ## Verifying -/

/-- Why a signature is not accepted. -/
inductive SignatureError
  | missing
  | invalid
deriving DecidableEq, Repr

/-- The mark that may stand in front of a signature. -/
def signatureMark : List Char :=
  ['s', 'h', 'a', '2', '5', '6', '=']

/-- A text without the mark in front, when it is there. -/
def withoutMark (text : List Char) : List Char :=
  if signatureMark.isPrefixOf text then text.drop signatureMark.length else text

/-- Accepts a signature whose digits, of either case and behind an optional mark,
are the digest of the request. -/
def Verifier.verify (verifier : Verifier) (signature : Option String) (method path : String)
    (body : List UInt8) : Except SignatureError Unit :=
  match signature.map fun text => Text.trimChars text.toList with
  | none | some [] => .error .missing
  | some text =>
      if Text.Hex.decode? (withoutMark text) = some (verifier.digest method path body) then .ok ()
      else .error .invalid

end Turnstile
