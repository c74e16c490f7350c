import Turnstile.Binary64.Shortest
import Turnstile.Fairness.Record
import Turnstile.Signature.Verifier
import Turnstile.Text.Numeral
import Turnstile.Text.Quoted

/-!
# Settings

The settings of the service, read from variables.  Every variable is checked
before the service starts; one that is blank or not there has its default, apart
from the secret.  The variables are read in a fixed order, and the first that
cannot be used is reported.

Main definitions:

- `Setting`: the variables and their names.
- `Settings.ofLookup`: the settings, or the first bad variable and its flaw.
- `SettingError.message`: the sentences.
-/

namespace Turnstile

open Text (Numeral.Range Numeral.Flaw)

/-! ## Variables -/

/-- The variables that are read. -/
inductive Setting
  | hmacSecret
  | rateLimitRps
  | rateLimitBurst
  | anomalyThreshold
  | scoreThreshold
  | floodBlockSecs
  | scoreBlockSecs
  | idempotencyTtlSecs
  | housekeepingIntervalSecs
  | playerIdleTtlSecs
  | port
  | maxBodyBytes
  | maxConcurrentForwards
  | consumerCapacity
  | playerShards
deriving DecidableEq, Repr

/-- The name of a variable. -/
def Setting.name : Setting → String
  | .hmacSecret => "HMAC_SECRET"
  | .rateLimitRps => "RATE_LIMIT_RPS"
  | .rateLimitBurst => "RATE_LIMIT_BURST"
  | .anomalyThreshold => "ANOMALY_THRESHOLD"
  | .scoreThreshold => "SCORE_THRESHOLD"
  | .floodBlockSecs => "FLOOD_BLOCK_SECS"
  | .scoreBlockSecs => "SCORE_BLOCK_SECS"
  | .idempotencyTtlSecs => "IDEMPOTENCY_TTL_SECS"
  | .housekeepingIntervalSecs => "HOUSEKEEPING_INTERVAL_SECS"
  | .playerIdleTtlSecs => "PLAYER_IDLE_TTL_SECS"
  | .port => "PORT"
  | .maxBodyBytes => "MAX_BODY_BYTES"
  | .maxConcurrentForwards => "MAX_CONCURRENT_FORWARDS"
  | .consumerCapacity => "CONSUMER_CAPACITY"
  | .playerShards => "PLAYER_SHARDS"

/-- What can be wrong with the value of a variable. -/
inductive SettingFlaw
  /-- There is no secret. -/
  | missing
  /-- The secret cannot be used. -/
  | rejected (error : SecretError)
  /-- The raw value is no integer of its type. -/
  | notInteger (raw : String) (flaw : Text.Numeral.Flaw)
  /-- The raw value is no number. -/
  | notNumber (raw : String)
  /-- The number is not finite or not above zero. -/
  | notPositive
  /-- The number is not finite or below one. -/
  | belowOne
  /-- The integer is negative. -/
  | negative
  /-- The integer is zero. -/
  | zero
  /-- The integer is above a bound. -/
  | above (bound value : Nat)
deriving DecidableEq, Repr

/-- A variable that cannot be used, and why. -/
structure SettingError where
  setting : Setting
  flaw : SettingFlaw
deriving DecidableEq, Repr

/-- The sentence for an error; it starts with the variable or names it in a
fixed place. -/
def SettingError.message (error : SettingError) : String :=
  let name := error.setting.name
  let invalid := fun (raw reason : String) =>
    "Invalid value for " ++ name ++ ": " ++ Text.quoted raw ++ " (" ++ reason ++ ")"
  match error.flaw with
  | .missing => name ++ " must be set"
  | .rejected secretError => name ++ " rejected: " ++ secretError.message
  | .notInteger raw flaw => invalid raw flaw.message
  | .notNumber raw => invalid raw "invalid float literal"
  | .notPositive => name ++ " must be a positive number"
  | .belowOne => name ++ " must be at least 1"
  | .negative => name ++ " must not be negative"
  | .zero => name ++ " must be greater than zero"
  | .above bound value =>
      name ++ " must be at most " ++ toString bound ++ " (got " ++ toString value ++ ")"

/-! ## Values -/

/-- The value of a variable as far as it is not blank. -/
def given? (raw : Option String) : Option String :=
  raw.filter fun text => !Text.isAllBlank text

/-- An integer of a type, or the default. -/
def readInteger (range : Text.Numeral.Range) (default : Int) (raw : Option String) :
    Except SettingFlaw Int :=
  match given? raw with
  | none => .ok default
  | some text =>
      match Text.Numeral.read range (Text.trimChars text.toList) with
      | .ok n => .ok n
      | .error flaw => .error (.notInteger text flaw)

/-- A natural number of at most so many bits, or the default. -/
def readNatural (bits : Nat) (default : Nat) (raw : Option String) : Except SettingFlaw Nat :=
  (readInteger (.unsigned bits) default raw).map Int.toNat

/-- A number, or the default. -/
def readNumber (default : Binary64) (raw : Option String) : Except SettingFlaw Binary64 :=
  match given? raw with
  | none => .ok default
  | some text =>
      match Binary64.read? (Text.trimChars text.toList) with
      | some x => .ok x
      | none => .error (.notNumber text)

/-- The same value, unless it has a flaw. -/
def refuse {α : Type} (bad : α → Bool) (flaw : α → SettingFlaw) (a : α) : Except SettingFlaw α :=
  if bad a then .error (flaw a) else .ok a

/-- A natural number that is not zero. -/
def readPositive (bits : Nat) (default : Nat) (raw : Option String) : Except SettingFlaw Nat := do
  let n ← readNatural bits default raw
  refuse (· == 0) (fun _ => .zero) n

/-- A natural number up to a bound. -/
def refuseAbove (bound : Nat) : Nat → Except SettingFlaw Nat :=
  refuse (fun n => decide (bound < n)) fun n => .above bound n

/-- The longest lifetime of a lease and the longest time between two rounds of
housekeeping, in seconds: a day. -/
def maxTtlSecs : Nat := 24 * 60 * 60

/-- The longest time for which a silent player is remembered, in seconds: thirty
days. -/
def maxIdleTtlSecs : Nat := 30 * 24 * 60 * 60

/-- The secret, which has no default. -/
def readSecret (raw : Option String) : Except SettingFlaw Verifier :=
  match raw.filter fun text => text ≠ "" with
  | none => .error .missing
  | some text =>
      match Verifier.ofSecret (Text.Utf8.encodeString text) with
      | .ok verifier => .ok verifier
      | .error error => .error (.rejected error)

/-- Tokens a second. -/
def readRate (raw : Option String) : Except SettingFlaw Binary64 := do
  let x ← readNumber (.ofNat 50) raw
  refuse (fun x => !(x.isFinite && Binary64.zero.lt x)) (fun _ => .notPositive) x

/-- The most tokens. -/
def readBurst (raw : Option String) : Except SettingFlaw Binary64 := do
  let x ← readNumber (.ofNat 100) raw
  refuse (fun x => !(x.isFinite && Binary64.one.le x)) (fun _ => .belowOne) x

/-- The largest gain at once. -/
def readScoreThreshold (raw : Option String) : Except SettingFlaw Int := do
  let n ← readInteger .signed64 1000 raw
  refuse (fun n => decide (n < 0)) (fun _ => .negative) n

/-- A lifetime of at most a day, in seconds. -/
def readTtl (default : Nat) (raw : Option String) : Except SettingFlaw Nat := do
  let n ← readPositive 64 default raw
  refuseAbove maxTtlSecs n

/-- The time for which a silent player is remembered, in seconds; zero is for ever. -/
def readIdleTtl (raw : Option String) : Except SettingFlaw Nat := do
  let n ← readNatural 32 0 raw
  refuseAbove maxIdleTtlSecs n

/-! ## Settings -/

/-- The settings of the service. -/
structure Settings where
  port : Nat
  verifier : Verifier
  rateLimitRps : Binary64
  rateLimitBurst : Binary64
  anomalyThreshold : Nat
  scoreThreshold : Int
  floodBlockSecs : Nat
  scoreBlockSecs : Nat
  idempotencyTtlSecs : Nat
  maxBodyBytes : Nat
  maxConcurrentForwards : Nat
  consumerCapacity : Nat
  playerShards : Nat
  housekeepingIntervalSecs : Nat
  playerIdleTtlSecs : Nat

/-- The value of a variable, or an error that names it. -/
def Setting.read {α : Type} (setting : Setting) (lookup : String → Option String)
    (reader : Option String → Except SettingFlaw α) : Except SettingError α :=
  match reader (lookup setting.name) with
  | .ok a => .ok a
  | .error flaw => .error ⟨setting, flaw⟩

/-- The settings that a lookup of variables gives. -/
def Settings.ofLookup (lookup : String → Option String) : Except SettingError Settings := do
  let verifier ← Setting.hmacSecret.read lookup readSecret
  let rateLimitRps ← Setting.rateLimitRps.read lookup readRate
  let rateLimitBurst ← Setting.rateLimitBurst.read lookup readBurst
  let anomalyThreshold ← Setting.anomalyThreshold.read lookup (readPositive 32 10)
  let scoreThreshold ← Setting.scoreThreshold.read lookup readScoreThreshold
  let floodBlockSecs ← Setting.floodBlockSecs.read lookup (readPositive 32 300)
  let scoreBlockSecs ← Setting.scoreBlockSecs.read lookup (readPositive 32 600)
  let idempotencyTtlSecs ← Setting.idempotencyTtlSecs.read lookup (readTtl 300)
  let housekeepingIntervalSecs ← Setting.housekeepingIntervalSecs.read lookup (readTtl 30)
  let playerIdleTtlSecs ← Setting.playerIdleTtlSecs.read lookup readIdleTtl
  let port ← Setting.port.read lookup (readNatural 16 8081)
  let maxBodyBytes ← Setting.maxBodyBytes.read lookup (readPositive 64 65536)
  let maxConcurrentForwards ← Setting.maxConcurrentForwards.read lookup (readPositive 64 8)
  let consumerCapacity ← Setting.consumerCapacity.read lookup (readPositive 64 100)
  let playerShards ← Setting.playerShards.read lookup (readPositive 64 16)
  return {
    port, verifier, rateLimitRps, rateLimitBurst, anomalyThreshold, scoreThreshold,
    floodBlockSecs, scoreBlockSecs, idempotencyTtlSecs, maxBodyBytes, maxConcurrentForwards,
    consumerCapacity, playerShards, housekeepingIntervalSecs, playerIdleTtlSecs }

/-- The limits of the fairness rules; a window is one second. -/
def Settings.policy (settings : Settings) : Policy where
  anomalyThreshold := settings.anomalyThreshold
  scoreThreshold := settings.scoreThreshold
  floodBlock := settings.floodBlockSecs * nanosPerSecond
  scoreBlock := settings.scoreBlockSecs * nanosPerSecond
  window := Policy.standard.window

/-- The lifetime of a lease in nanoseconds. -/
def Settings.leaseTtl (settings : Settings) : Nat :=
  settings.idempotencyTtlSecs * nanosPerSecond

/-- The time between two rounds of housekeeping in nanoseconds. -/
def Settings.housekeepingInterval (settings : Settings) : Nat :=
  settings.housekeepingIntervalSecs * nanosPerSecond

/-- The time for which a silent player is remembered, unless it is for ever. -/
def Settings.playerIdleTtl (settings : Settings) : Option Span :=
  if settings.playerIdleTtlSecs = 0 then none
  else some (settings.playerIdleTtlSecs * nanosPerSecond)

end Turnstile
