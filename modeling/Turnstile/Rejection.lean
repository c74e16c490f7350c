import Turnstile.Event.Inbound
import Turnstile.Fairness.Block
import Turnstile.Json.Writer
import Turnstile.Signature.Verifier

/-!
# Rejections

Why a request is not served: the code that names the reason, the sentence for it,
and how it is answered over HTTP.  The sentences do not show the limits that are
set.

Main definitions:

- `Rejection`: the reasons.
- `Rejection.code`, `message`, `status`, `toJson`.
-/

namespace Turnstile

open Json (Value)

/-- Why a request is not served. -/
inductive Rejection
  | signature (error : SignatureError)
  | duplicateRequest
  | rateLimited
  | fairness (violation : Violation)
  /-- The body is no event; the text says why. -/
  | invalidEvent (text : String)
  | unsupportedMediaType
  | playerNotFound
deriving DecidableEq, Repr

namespace Rejection

/-- The name of a reason. -/
def code : Rejection → String
  | signature .missing => "missing_signature"
  | signature .invalid => "invalid_signature"
  | duplicateRequest => "duplicate_request"
  | rateLimited => "rate_limited"
  | fairness (.eventFlood _) => "event_flood"
  | fairness (.scoreAnomaly _) => "score_anomaly"
  | fairness (.blocked _) => "player_blocked"
  | invalidEvent _ => "invalid_event"
  | unsupportedMediaType => "unsupported_media_type"
  | playerNotFound => "not_found"

/-- The sentence for a reason. -/
def message : Rejection → String
  | signature .missing => "missing signature"
  | signature .invalid => "invalid signature"
  | duplicateRequest => "duplicate request"
  | rateLimited => "rate limit exceeded"
  | fairness (.eventFlood _) => "event flood detected - player blocked"
  | fairness (.scoreAnomaly _) => "score anomaly detected - player blocked"
  | fairness (.blocked _) => "player is temporarily blocked"
  | invalidEvent text => text
  | unsupportedMediaType => "unsupported content type"
  | playerNotFound => "player not found"

/-- The status of the answer. -/
def status : Rejection → Nat
  | signature _ => 401
  | duplicateRequest => 409
  | rateLimited => 429
  | fairness (.eventFlood _) => 429
  | fairness (.scoreAnomaly _) => 403
  | fairness (.blocked _) => 403
  | invalidEvent _ => 400
  | unsupportedMediaType => 415
  | playerNotFound => 404

/-- The body of the answer, its members in the order of their names. -/
def toJson (rejection : Rejection) : Value :=
  let blockedUntil :=
    match rejection with
    | fairness violation => [("blockedUntil", Value.ofInt violation.endsAt.seconds)]
    | _ => []
  let reason :=
    match rejection with
    | fairness (.blocked block) => [("reason", Value.text block.reason.name)]
    | _ => []
  .object (blockedUntil ++
    [("error", .text rejection.code), ("message", .text rejection.message)] ++ reason ++
    [("status", .text "rejected")])

end Rejection

end Turnstile
