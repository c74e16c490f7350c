import Turnstile.Event.Payload
import Turnstile.Json.Record

/-!
# Decoding payloads

The payload records can be read in two ways: straight from a text, where members
are seen in the order of the text, or from the members of an object that has
been read already, where they are looked up by name in the order of the names.

Main definitions:

- `Progression.shape`, `BossKill.shape`, `DropClaim.shape`: from a text.
- `Payload.ofMembers`: from the members of an object.
-/

namespace Turnstile

open Json

/-! ## From a text -/

/-- A field that keeps a scalar. -/
def scalarField {δ α : Type} (name : String) (optional : Bool) (filled : δ → Bool)
    (accept : Got → Except Mismatch α) (keep : δ → α → δ) : RecordField δ where
  name := name
  optional := optional
  filled := filled
  fill := fun _ draft bytes => (readAs accept bytes).map fun (a, rest) => (keep draft a, rest)

/-- A progression while it is being read; an outer `none` stands for a field that
has not come yet. -/
structure ProgressionDraft where
  deltaXp : Option Int
  activity : Option (Option String)

/-- The fields of a progression. -/
def Progression.shape : Shape ProgressionDraft Progression where
  title := "struct ProgressionPayload"
  blank := ⟨none, none⟩
  fields :=
    [scalarField "deltaXp" false (·.deltaXp.isSome) Got.toInt64
      fun draft n => { draft with deltaXp := some n },
    scalarField "activity" true (·.activity.isSome) (Got.orNull Got.toText)
      fun draft s => { draft with activity := some s }]
  finish := fun draft => do
    let deltaXp ← require "deltaXp" draft.deltaXp
    return ⟨deltaXp, draft.activity.getD none⟩

/-- A boss kill while it is being read. -/
structure BossKillDraft where
  bossId : Option String
  tier : Option (Option Nat)
  points : Option Int

/-- The fields of a boss kill. -/
def BossKill.shape : Shape BossKillDraft BossKill where
  title := "struct BossKillPayload"
  blank := ⟨none, none, none⟩
  fields :=
    [scalarField "bossId" false (·.bossId.isSome) Got.toText
      fun draft s => { draft with bossId := some s },
    scalarField "tier" true (·.tier.isSome) (Got.orNull Got.toUInt32)
      fun draft n => { draft with tier := some n },
    scalarField "points" true (·.points.isSome) Got.toInt64
      fun draft n => { draft with points := some n }]
  finish := fun draft => do
    let bossId ← require "bossId" draft.bossId
    return ⟨bossId, draft.tier.getD none, draft.points.getD 0⟩

/-- A drop claim while it is being read. -/
structure DropClaimDraft where
  dropId : Option String
  weight : Option (Option Binary64)
  source : Option (Option String)

/-- The fields of a drop claim. -/
def DropClaim.shape : Shape DropClaimDraft DropClaim where
  title := "struct DropClaimedPayload"
  blank := ⟨none, none, none⟩
  fields :=
    [scalarField "dropId" false (·.dropId.isSome) Got.toText
      fun draft s => { draft with dropId := some s },
    scalarField "weight" true (·.weight.isSome) (Got.orNull Got.toReal)
      fun draft x => { draft with weight := some x },
    scalarField "source" true (·.source.isSome) (Got.orNull Got.toText)
      fun draft s => { draft with source := some s }]
  finish := fun draft => do
    let dropId ← require "dropId" draft.dropId
    return ⟨dropId, draft.weight.getD none, draft.source.getD none⟩

/-! ## From members -/

/-- The scalar under a name, when there is a member of that name. -/
def member? {α : Type} (members : Members) (name : String) (accept : Got → Except Mismatch α) :
    Except Mismatch (Option α) :=
  match members.find? name with
  | none => .ok none
  | some value => (accept value.got).map some

/-- A progression from members. -/
def Progression.ofMembers (members : Members) : Except Mismatch Progression := do
  let activity ← member? members "activity" (Got.orNull Got.toText)
  let deltaXp ← member? members "deltaXp" Got.toInt64
  let deltaXp ← require "deltaXp" deltaXp
  return ⟨deltaXp, activity.getD none⟩

/-- A boss kill from members; it is worth no points unless it says so. -/
def BossKill.ofMembers (members : Members) : Except Mismatch BossKill := do
  let bossId ← member? members "bossId" Got.toText
  let points ← member? members "points" Got.toInt64
  let tier ← member? members "tier" (Got.orNull Got.toUInt32)
  let bossId ← require "bossId" bossId
  return ⟨bossId, tier.getD none, points.getD 0⟩

/-- A drop claim from members. -/
def DropClaim.ofMembers (members : Members) : Except Mismatch DropClaim := do
  let dropId ← member? members "dropId" Got.toText
  let source ← member? members "source" (Got.orNull Got.toText)
  let weight ← member? members "weight" (Got.orNull Got.toReal)
  let dropId ← require "dropId" dropId
  return ⟨dropId, weight.getD none, source.getD none⟩

/-- The payload of an event of a kind, from members. -/
def Payload.ofMembers (kind : EventKind) (members : Members) : Except Mismatch Payload :=
  match kind with
  | .progression => (Progression.ofMembers members).map .progression
  | .bossKill => (BossKill.ofMembers members).map .bossKill
  | .dropClaimed => (DropClaim.ofMembers members).map .dropClaim

end Turnstile
