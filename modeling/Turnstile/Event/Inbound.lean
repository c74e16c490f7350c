import Turnstile.Event.Decode
import Turnstile.Text.Blank

/-!
# Inbound events

An inbound body becomes an event in two steps.  First it is read as an envelope,
which leaves the payload as it is; then the checks of an event are made in a
fixed order, and the first that fails is reported.

Main definitions:

- `Envelope.shape`: the outer record.
- `Event.ofEnvelope`: the checks.
- `Event.parse`: both steps.
- `EventError.message`: the sentences.
-/

namespace Turnstile

open Json

/-! ## Errors -/

/-- Why a body is no event. -/
inductive EventError
  /-- The body is no envelope; line and column come with the cause. -/
  | malformed (cause : Cause) (line column : Nat)
  | invalidPlayerId
  | unsupportedKind (raw : String)
  | invalidPayload (mismatch : Mismatch)
  | emptyBossId
  | emptyDropId
  | negativeScoreDelta
deriving DecidableEq, Repr

/-- The sentence for an error. -/
def EventError.message : EventError → String
  | .malformed cause line column =>
      "malformed event: " ++ cause.message ++ " at line " ++ toString line ++ " column " ++
        toString column
  | .invalidPlayerId => "invalid playerId"
  | .unsupportedKind raw => "unsupported event type '" ++ raw ++ "'"
  | .invalidPayload mismatch => "invalid payload: " ++ mismatch.message
  | .emptyBossId => "bossId must not be empty"
  | .emptyDropId => "dropId must not be empty"
  | .negativeScoreDelta => "score delta must not be negative"

/-! ## Envelopes -/

/-- A body whose outer record has been read. -/
structure Envelope where
  kind : String
  playerId : String
  timestamp : Int
  payload : Members

/-- An envelope while it is being read. -/
structure EnvelopeDraft where
  kind : Option String
  playerId : Option String
  timestamp : Option Int
  payload : Option Members

/-- The fields of an envelope. -/
def Envelope.shape : Shape EnvelopeDraft Envelope where
  title := "struct RawEvent"
  blank := ⟨none, none, none, none⟩
  fields :=
    [scalarField "type" false (·.kind.isSome) Got.toText
      fun draft s => { draft with kind := some s },
    scalarField "playerId" false (·.playerId.isSome) Got.toText
      fun draft s => { draft with playerId := some s },
    scalarField "ts" false (·.timestamp.isSome) Got.toInt64
      fun draft n => { draft with timestamp := some n },
    { name := "payload"
      optional := false
      filled := (·.payload.isSome)
      fill := fun room draft bytes =>
        (readMembers room bytes).map fun (members, rest) =>
          ({ draft with payload := some members }, rest) }]
  finish := fun draft => do
    let kind ← require "type" draft.kind
    let playerId ← require "playerId" draft.playerId
    let timestamp ← require "ts" draft.timestamp
    let payload ← require "payload" draft.payload
    return ⟨kind, playerId, timestamp, payload⟩

/-- Reads a whole body as an envelope. -/
def Envelope.read (body : List UInt8) : Except Fault Envelope :=
  readText (Envelope.shape.read depthLimit) body

/-! ## Checks -/

/-- A character of a player id. -/
def isPlayerIdChar (c : Char) : Bool :=
  let n := c.toNat
  (48 ≤ n && n ≤ 57) || (65 ≤ n && n ≤ 90) || (97 ≤ n && n ≤ 122) || n == 95 || n == 45

/-- The greatest length of a player id. -/
def maxPlayerIdLength : Nat := 64

/-- One to sixty-four ASCII letters, digits, underscores and hyphens. -/
def isValidPlayerId (id : String) : Bool :=
  let chars := id.toList
  !chars.isEmpty && chars.length ≤ maxPlayerIdLength && chars.all isPlayerIdChar

/-- The names that a payload has to give must not be blank. -/
def Payload.checkNames : Payload → Except EventError Unit
  | .progression _ => .ok ()
  | .bossKill p => if Text.isAllBlank p.bossId then .error .emptyBossId else .ok ()
  | .dropClaim p => if Text.isAllBlank p.dropId then .error .emptyDropId else .ok ()

/-- The event of an envelope. -/
def Event.ofEnvelope (envelope : Envelope) : Except EventError Event := do
  if !isValidPlayerId envelope.playerId then .error .invalidPlayerId
  else
    match EventKind.ofName? envelope.kind with
    | none => .error (.unsupportedKind envelope.kind)
    | some kind =>
        match Payload.ofMembers kind envelope.payload with
        | .error mismatch => .error (.invalidPayload mismatch)
        | .ok payload => do
            payload.checkNames
            if payload.scoreDelta < 0 then .error .negativeScoreDelta
            else return ⟨envelope.playerId, envelope.timestamp, payload⟩

/-- The event of a body. -/
def Event.parse (body : List UInt8) : Except EventError Event :=
  match Envelope.read body with
  | .error fault =>
      let (line, column) := fault.position body
      .error (.malformed fault.cause line column)
  | .ok envelope => Event.ofEnvelope envelope

end Turnstile
