import Turnstile.Signature.Sha256

/-!
# Keyed hashes

HMAC over SHA-256: a message is hashed behind one block made from the key, and
the digest once more behind another.
-/

namespace Turnstile.Hmac

/-- The length of a block in bytes. -/
def blockLength : Nat := 64

/-- A key of one block: a longer one is hashed first, and zeros fill it up. -/
def blockKey (key : List UInt8) : List UInt8 :=
  let short := if blockLength < key.length then Sha256.hash key else key
  short ++ List.replicate (blockLength - short.length) 0

/-- The keyed hash of a message. -/
def sha256 (key message : List UInt8) : List UInt8 :=
  let key := blockKey key
  let inner := Sha256.hash (key.map (· ^^^ 0x36) ++ message)
  Sha256.hash (key.map (· ^^^ 0x5C) ++ inner)

/-- A keyed hash has thirty-two bytes. -/
theorem sha256_length (key message : List UInt8) : (sha256 key message).length = 32 :=
  Sha256.hash_length _

end Turnstile.Hmac
