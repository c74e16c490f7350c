import Turnstile.Gateway.State
import Turnstile.Http.Header

/-!
# Admitting events

A submitted event passes the stages of admission one after the other: content
type and signature, idempotency lease, token bucket, validation, fairness.  A
stage that refuses it ends the passage, and the lease is given back at the end of
every passage.  Each stage is one step on the state of the service, so steps of
several passages can come in any order.

Main definitions and results:

- `Stage`, `Gateway.advance`: where a passage is, and its next step.
- `Gateway.remaining_advance`: every step brings a passage closer to its end.
- `Gateway.process`: a whole passage.
-/

namespace Turnstile

open Json (Value)

/-! ## Submissions and outcomes -/

/-- What the stages look at in a request. -/
structure Submission where
  method : String
  path : String
  contentType : Option String
  signature : Option String
  idempotencyKey : Option String
  body : List UInt8

/-- The submission of a request. -/
def Submission.ofRequest (method path : String) (headers : Headers) (body : List UInt8) :
    Submission where
  method := method
  path := path
  contentType := headers.visible? contentTypeField
  signature := headers.text? signatureField
  idempotencyKey := headers.text? idempotencyField
  body := body

/-- What the clocks read when the stages look at them. -/
structure Readings where
  /-- The monotonic clock, at the lease. -/
  leaseAt : Instant
  /-- The monotonic clock, at the token bucket. -/
  limiterAt : Instant
  /-- The wall clock, at the fairness rules. -/
  wallAt : WallTime
deriving DecidableEq, Repr

/-- The acknowledgement of an event. -/
structure Acceptance where
  playerId : String
  kind : EventKind
  timestamp : Int
deriving DecidableEq, Repr

/-- The JSON form of an acknowledgement. -/
def Acceptance.toJson (acceptance : Acceptance) : Value :=
  .object [("status", .text "approved"), ("playerId", .text acceptance.playerId),
    ("eventType", .text acceptance.kind.name), ("timestamp", .ofInt acceptance.timestamp)]

/-- What a passage comes to. -/
inductive Outcome
  | approved (acceptance : Acceptance)
  | rejected (rejection : Rejection)
  /-- A clock ran out, and there is no answer. -/
  | crashed (fault : ClockFault)
deriving DecidableEq, Repr

/-! ## Stages -/

/-- Where a passage is.  From the lease on it holds the guard, if there is one. -/
inductive Stage
  /-- Nothing has been checked. -/
  | received
  /-- Content type and signature are good. -/
  | authenticated
  /-- The key, if there is one, is leased. -/
  | leased (guard : Option Guard)
  /-- A token has been taken. -/
  | metered (guard : Option Guard)
  /-- The body is an event. -/
  | parsed (guard : Option Guard) (event : Event)
  /-- The outcome is known. -/
  | decided (guard : Option Guard) (outcome : Outcome)
  /-- The lease has been given back. -/
  | finished (outcome : Outcome)
deriving DecidableEq, Repr

/-- The type of the body that is served. -/
def jsonContentType : String := "application/json"

/-- Whether the body is declared as JSON. -/
def Submission.isJson (submission : Submission) : Bool :=
  match submission.contentType with
  | some text => jsonContentType.toList.isPrefixOf text.toList
  | none => false

namespace Gateway

/-- Checks content type and signature. -/
def authenticate (gateway : Gateway) (submission : Submission) : Stage :=
  if !submission.isJson then .decided none (.rejected .unsupportedMediaType)
  else
    match gateway.verifier.verify submission.signature submission.method submission.path
        submission.body with
    | .ok () => .authenticated
    | .error error => .decided none (.rejected (.signature error))

/-- Leases the key, if there is one. -/
def reserve (gateway : Gateway) (key : Option String) (now : Instant) : Stage × Gateway :=
  match key with
  | none => (.leased none, gateway)
  | some key =>
      let (acquisition, leases) := gateway.leases.acquire key now
      let gateway := { gateway with leases := leases }
      match acquisition with
      | .granted guard => (.leased (some guard), gateway)
      | .duplicate => (.decided none (.rejected .duplicateRequest), gateway)
      | .stuck fault => (.decided none (.crashed fault), gateway)

/-- Takes a token. -/
def meter (gateway : Gateway) (guard : Option Guard) (now : Instant) : Stage × Gateway :=
  let (allowed, limiter) := gateway.limiter.tryAcquire now
  let gateway := { gateway with limiter := limiter }
  if allowed then (.metered guard, gateway)
  else (.decided guard (.rejected .rateLimited), gateway)

/-- Reads the body as an event. -/
def validate (guard : Option Guard) (body : List UInt8) : Stage :=
  match Event.parse body with
  | .ok event => .parsed guard event
  | .error error => .decided guard (.rejected (.invalidEvent error.message))

/-- Judges an event, and forwards it when it is admitted. -/
def consider (gateway : Gateway) (guard : Option Guard) (event : Event) (now : WallTime) :
    Stage × Gateway :=
  let (verdict, tracker) := gateway.tracker.check event now
  let gateway := { gateway with tracker := tracker }
  match verdict with
  | .admitted admission =>
      let timestamp := admission.acceptedAt.seconds
      (.decided guard (.approved ⟨event.playerId, event.kind, timestamp⟩),
        gateway.forward ⟨event, timestamp, admission.cumulativeScore⟩)
  | .refused violation => (.decided guard (.rejected (.fairness violation)), gateway)
  | .stuck fault => (.decided guard (.crashed fault), gateway)

/-- Gives the lease back, if there is one. -/
def giveBack (gateway : Gateway) (guard : Option Guard) : Gateway :=
  match guard with
  | none => gateway
  | some guard => { gateway with leases := gateway.leases.release guard }

/-- The next step of a passage. -/
def advance (gateway : Gateway) (submission : Submission) (readings : Readings) :
    Stage → Stage × Gateway
  | .received => (gateway.authenticate submission, gateway)
  | .authenticated => gateway.reserve submission.idempotencyKey readings.leaseAt
  | .leased guard => gateway.meter guard readings.limiterAt
  | .metered guard => (validate guard submission.body, gateway)
  | .parsed guard event => gateway.consider guard event readings.wallAt
  | .decided guard outcome => (.finished outcome, gateway.giveBack guard)
  | .finished outcome => (.finished outcome, gateway)

end Gateway

/-! ## Passages -/

/-- How many steps a passage may still take. -/
def Stage.remaining : Stage → Nat
  | .received => 6
  | .authenticated => 5
  | .leased _ => 4
  | .metered _ => 3
  | .parsed _ _ => 2
  | .decided _ _ => 1
  | .finished _ => 0

namespace Gateway

/-- Every step brings a passage closer to its end. -/
theorem remaining_advance (gateway : Gateway) (submission : Submission) (readings : Readings)
    (stage : Stage) :
    (gateway.advance submission readings stage).1.remaining ≤ stage.remaining - 1 := by
  cases stage with
  | received =>
      simp only [advance, authenticate]
      split
      · simp [Stage.remaining]
      · split <;> simp [Stage.remaining]
  | authenticated =>
      simp only [advance, reserve]
      split
      · simp [Stage.remaining]
      · split <;> simp [Stage.remaining]
  | leased guard =>
      simp only [advance, meter]
      split <;> simp [Stage.remaining]
  | metered guard =>
      simp only [advance, validate]
      split <;> simp [Stage.remaining]
  | parsed guard event =>
      simp only [advance, consider]
      split <;> simp [Stage.remaining]
  | decided guard outcome => simp [advance, Stage.remaining]
  | finished outcome => simp [advance, Stage.remaining]

/-- Takes a passage to its end, which is at most `steps` away. -/
def complete (submission : Submission) (readings : Readings) :
    (steps : Nat) → (stage : Stage) → stage.remaining ≤ steps → Gateway → Outcome × Gateway
  | _, .finished outcome, _, gateway => (outcome, gateway)
  | 0, .received, h, _ | 0, .authenticated, h, _ | 0, .leased _, h, _ | 0, .metered _, h, _
  | 0, .parsed _ _, h, _ | 0, .decided _ _, h, _ => absurd h (by simp [Stage.remaining])
  | steps + 1, stage, h, gateway =>
      let next := gateway.advance submission readings stage
      complete submission readings steps next.1
        (Nat.le_trans (gateway.remaining_advance submission readings stage) (by omega)) next.2

/-- A whole passage, from the request to its outcome. -/
def process (gateway : Gateway) (submission : Submission) (readings : Readings) :
    Outcome × Gateway :=
  complete submission readings 6 .received (Nat.le_refl 6) gateway

end Gateway

end Turnstile
