import Turnstile.Gateway.Admission
import Turnstile.Http.Route

/-!
# Answering requests

The HTTP surface of the service.  A request is answered in this order: a body that
is declared as too long, an unknown path, a method that the resource does not
have, a body that turns out to be too long, and then what the resource says.

Main definitions:

- `Request`, `Response`.
- `Gateway.respond`: the answer to a request and the state after it.
-/

namespace Turnstile

open Json (Value)

/-! ## Requests and responses -/

/-- A request. -/
structure Request where
  method : String
  target : String
  headers : Headers
  body : List UInt8

/-- A response. -/
structure Response where
  status : Nat
  contentType : Option String
  /-- The methods of the resource, where the request had another. -/
  allow : Option String
  body : String
deriving DecidableEq, Repr

namespace Response

/-- The type of a plain text. -/
def textContentType : String := "text/plain; charset=utf-8"

/-- The type of the exposition of metrics. -/
def metricsContentType : String := "text/plain; version=0.0.4"

/-- A response without a body. -/
def bare (status : Nat) : Response where
  status := status
  contentType := none
  allow := none
  body := ""

/-- A response that is a plain text. -/
def text (status : Nat) (body : String) : Response where
  status := status
  contentType := some textContentType
  allow := none
  body := body

/-- A response that is a JSON value. -/
def json (status : Nat) (value : Value) : Response where
  status := status
  contentType := some jsonContentType
  allow := none
  body := value.toText

/-- The response to a request that is not served. -/
def ofRejection (rejection : Rejection) : Response :=
  json rejection.status rejection.toJson

/-- The same response to a request for the head alone. -/
def withoutBody (response : Response) : Response :=
  { response with body := "" }

end Response

/-! ## Body limits -/

/-- The length that the header declares, when it is a number. -/
def Headers.declaredLength? (headers : Headers) : Option Nat :=
  match headers.visible? contentLengthField with
  | none => none
  | some text =>
      match Text.Numeral.read (.unsigned 64) text.toList with
      | .ok n => some n.toNat
      | .error _ => none

/-- The number of bytes that will be read of a body: a declared length lowers the
limit. -/
def Headers.bodyLimit (headers : Headers) (limit : Nat) : Nat :=
  match headers.declaredLength? with
  | some n => min limit n
  | none => limit

/-- Whether the declared length is above the limit. -/
def Headers.declaresTooLong (headers : Headers) (limit : Nat) : Bool :=
  match headers.declaredLength? with
  | some n => limit < n
  | none => false

/-! ## Resources -/

/-- What a list of blocked players shows of one of them. -/
def Snapshot.toBlockedJson (snapshot : Snapshot) : Value :=
  .object [
    ("blockedUntil", .ofOption (fun block => .ofInt block.endsAt.seconds) snapshot.block),
    ("cumulativeScore", .ofInt snapshot.cumulativeScore),
    ("eventCountInWindow", .ofInt snapshot.eventCountInWindow),
    ("playerId", .text snapshot.playerId),
    ("reason", .ofOption (fun block => .text block.reason.name) snapshot.block)]

namespace Gateway

/-- Counts the outcome of a submission and answers it. -/
def checkEvent (gateway : Gateway) (submission : Submission) (readings : Readings) :
    Except ClockFault Response × Gateway :=
  match gateway.process submission readings with
  | (.approved acceptance, gateway) =>
      (.ok (.json 200 acceptance.toJson),
        { gateway with metrics := gateway.metrics.recordApproved })
  | (.rejected rejection, gateway) =>
      (.ok (.ofRejection rejection),
        { gateway with metrics := gateway.metrics.recordRejection rejection })
  | (.crashed fault, gateway) => (.error fault, gateway)

/-- The players whose block is in force. -/
def listBlocked (gateway : Gateway) (wall : WallTime) : Response :=
  let players := gateway.tracker.blockedPlayers wall
  .json 200 (.object [("blockedPlayers", .array (players.map Snapshot.toBlockedJson)),
    ("count", .ofInt players.length)])

/-- The answer about a player whose id is given as a segment of a path. -/
def aboutPlayer (segment : List Char) (answer : String → Response × Gateway)
    (gateway : Gateway) : Response × Gateway :=
  match decodePercent segment with
  | some playerId => answer playerId
  | none => (.text 400 "Invalid URL: Invalid UTF-8 in \x60player_id\x60", gateway)

/-- The state of a player. -/
def showPlayer (gateway : Gateway) (wall : WallTime) (playerId : String) : Response :=
  match gateway.tracker.snapshot? playerId wall with
  | some snapshot => .json 200 snapshot.toJson
  | none => .ofRejection .playerNotFound

/-- Lifts the block of a player. -/
def unblockPlayer (gateway : Gateway) (wall : WallTime) (playerId : String) :
    Response × Gateway :=
  match gateway.tracker.unblock playerId wall with
  | (some snapshot, tracker) =>
      (.json 200 (.object [("playerId", .text snapshot.playerId), ("status", .text "unblocked")]),
        { gateway with tracker := tracker })
  | (none, tracker) => (.ofRejection .playerNotFound, { gateway with tracker := tracker })

/-- The exposition of metrics, with the gauges set to the sizes of the stores. -/
def exposeMetrics (gateway : Gateway) : Response × Gateway :=
  let metrics :=
    (gateway.metrics.setTrackedPlayers gateway.tracker.size).setLiveLeases gateway.leases.size
  ({ Response.text 200 metrics.render with contentType := some Response.metricsContentType },
    { gateway with metrics := metrics })

/-- The answer of a resource that has the method of the request. -/
def answer (gateway : Gateway) (request : Request) (readings : Readings) (path : String) :
    Route → Except ClockFault Response × Gateway
  | .checkEvent =>
      if request.headers.bodyLimit gateway.maxBodyBytes < request.body.length then
        (.ok (.text 413 "Failed to buffer the request body: length limit exceeded"), gateway)
      else
        gateway.checkEvent (.ofRequest request.method path request.headers request.body) readings
  | .blockedPlayers => (.ok (gateway.listBlocked readings.wallAt), gateway)
  | .player segment =>
      let (response, gateway) := aboutPlayer segment
        (fun playerId => (gateway.showPlayer readings.wallAt playerId, gateway)) gateway
      (.ok response, gateway)
  | .unblock segment =>
      let (response, gateway) := aboutPlayer segment
        (gateway.unblockPlayer readings.wallAt) gateway
      (.ok response, gateway)
  | .health => (.ok (.json 200 (.object [("status", .text "healthy")])), gateway)
  | .metrics =>
      let (response, gateway) := gateway.exposeMetrics
      (.ok response, gateway)

/-- The answer to a request.  Where a resource has the method, a request for the
head alone gets the same answer without its body. -/
def respond (gateway : Gateway) (request : Request) (readings : Readings) :
    Except ClockFault Response × Gateway :=
  let path := pathOf request.target
  let refusal :=
    if request.headers.declaresTooLong gateway.maxBodyBytes then
      some (Response.text 413 "length limit exceeded")
    else none
  match Route.ofPath? path with
  | none => (.ok (refusal.getD (.bare 404)), gateway)
  | some route =>
      if !route.allows request.method then
        (.ok { refusal.getD (.bare 405) with allow := some route.allow }, gateway)
      else
        let (response, gateway) : Except ClockFault Response × Gateway :=
          match refusal with
          | some response => (.ok response, gateway)
          | none => gateway.answer request readings path route
        (if request.method = "HEAD" then response.map Response.withoutBody else response, gateway)

end Gateway

end Turnstile
