import Turnstile.Proofs.Event.RoundTrip
import Turnstile.Proofs.Text.Characters
import Turnstile.Proofs.Text.Utf8

/-!
# The rules for events

A body is an event when it keeps five rules, which are tried in a fixed order, and the first
that it breaks is reported.  The rules are said here without the program: what a player id is
made of, what the members of a payload say, and which names have to say something.

Main definitions:

- `IsPlayerId`: one to sixty-four bytes, all of them letters, digits, underscores and hyphens.
- `Payload.ReadFrom`: what the members of an object say of a payload.
- `Payload.Named`: the names that have to be given are not blank.
- `Envelope.Gives`: the event that an envelope gives.
- `Event.IsInbound`: an event that was read from a body.
- `Event.Refused`: the first rule that a body breaks, with what is said of it.

Main results:

- `isValidPlayerId_iff`, `Payload.ofMembers_eq_ok_iff`, `Payload.checkNames_eq_ok_iff`,
  `Payload.checkNames_eq_error_iff`: the checks are the rules.
- `Event.parse_eq_ok_iff`: the bodies that are events.
- `Event.parse_error_iff`: what is said of all other bodies.
-/

namespace Turnstile

open Json
open Text (isBlank)

/-! ## Player ids -/

/-- A byte of a player id: an ASCII letter or digit, an underscore or a hyphen. -/
def IsPlayerIdByte (b : UInt8) : Prop :=
  (0x30 ≤ b.toNat ∧ b.toNat ≤ 0x39) ∨ (0x41 ≤ b.toNat ∧ b.toNat ≤ 0x5A) ∨
    (0x61 ≤ b.toNat ∧ b.toNat ≤ 0x7A) ∨ b.toNat = 0x5F ∨ b.toNat = 0x2D

/-- A player id: one to sixty-four bytes, all of them fit for one. -/
structure IsPlayerId (id : String) : Prop where
  nonempty : 1 ≤ (Text.Utf8.encodeString id).length
  short : (Text.Utf8.encodeString id).length ≤ 64
  plain : ∀ b ∈ Text.Utf8.encodeString id, IsPlayerIdByte b

/-- The characters that are fit for a player id are those whose bytes are. -/
theorem isPlayerIdChar_iff {c : Char} :
    isPlayerIdChar c = true ↔ ∀ b ∈ Text.Utf8.encodeChar c, IsPlayerIdByte b := by
  have hlast := Text.Utf8.toNat_lt c
  unfold isPlayerIdChar Text.Utf8.encodeChar IsPlayerIdByte
  dsimp only
  split_ifs <;>
    simp only [Bool.or_eq_true, Bool.and_eq_true, decide_eq_true_eq, beq_iff_eq,
      List.forall_mem_cons, List.not_mem_nil, false_implies, implies_true, and_true,
      UInt8.toNat_ofNat'] <;>
    omega

/-- A character that is fit for a player id has one byte. -/
theorem length_encodeChar_of_isPlayerIdChar {c : Char} (h : isPlayerIdChar c = true) :
    (Text.Utf8.encodeChar c).length = 1 := by
  have hascii : c.toNat < 0x80 := by
    simp only [isPlayerIdChar, Bool.or_eq_true, Bool.and_eq_true, decide_eq_true_eq,
      beq_iff_eq] at h
    omega
  simp [Text.Utf8.encodeChar, hascii]

/-- A text of characters that are fit for a player id has as many bytes as characters. -/
theorem length_encode_of_isPlayerIdChar {text : List Char} (h : text.all isPlayerIdChar = true) :
    (Text.Utf8.encode text).length = text.length := by
  induction text with
  | nil => rfl
  | cons c text ih =>
      rw [List.all_cons, Bool.and_eq_true] at h
      rw [Text.Utf8.encode_cons, List.length_append, ih h.2,
        length_encodeChar_of_isPlayerIdChar h.1, List.length_cons, Nat.add_comm]

/-- The characters of a text are fit when its bytes are. -/
theorem all_isPlayerIdChar_iff {text : List Char} :
    text.all isPlayerIdChar = true ↔ ∀ b ∈ Text.Utf8.encode text, IsPlayerIdByte b := by
  simp only [List.all_eq_true, isPlayerIdChar_iff, Text.Utf8.encode, List.mem_flatMap]
  grind

/-- The check for player ids accepts player ids and nothing else. -/
theorem isValidPlayerId_iff {id : String} : isValidPlayerId id = true ↔ IsPlayerId id := by
  have hchecked : isValidPlayerId id = true ↔
      1 ≤ id.toList.length ∧ id.toList.length ≤ 64 ∧ id.toList.all isPlayerIdChar = true := by
    unfold isValidPlayerId maxPlayerIdLength
    cases id.toList <;> simp
  rw [hchecked]
  constructor
  · rintro ⟨hnonempty, hshort, hplain⟩
    rw [← length_encode_of_isPlayerIdChar hplain] at hnonempty hshort
    exact ⟨hnonempty, hshort, all_isPlayerIdChar_iff.mp hplain⟩
  · rintro ⟨hnonempty, hshort, hplain⟩
    rw [Text.Utf8.encodeString] at hnonempty hshort hplain
    rw [← all_isPlayerIdChar_iff] at hplain
    rw [length_encode_of_isPlayerIdChar hplain] at hnonempty hshort
    exact ⟨hnonempty, hshort, hplain⟩

/-! ## Payloads -/

namespace Json.Members

variable {α : Type} (members : Members) (name : String) (accept : Got → Except Mismatch α)

/-- A member of a name is there, and it is accepted as a value. -/
def Says (a : α) : Prop :=
  ∃ value, members.find? name = some value ∧ accept value.got = .ok a

/-- A member of a name is accepted as a value, or there is none and the value is the one that
stands for it. -/
def SaysOr (missing a : α) : Prop :=
  members.Says name accept a ∨ members.find? name = none ∧ a = missing

variable {members name accept}

/-- What is read under a name is said. -/
theorem member?_eq_some_iff {a : α} :
    member? members name accept = .ok (some a) ↔ members.Says name accept a := by
  unfold member? Says
  cases members.find? name with
  | none => simp
  | some value => simp [map_eq_ok_iff]

/-- What is read under a name, or stands for what is missing, is said. -/
theorem member?_getD_iff {missing a : α} :
    (∃ a?, member? members name accept = .ok a? ∧ a?.getD missing = a) ↔
      members.SaysOr name accept missing a := by
  unfold member? SaysOr Says
  cases members.find? name with
  | none => simp [eq_comm]
  | some value => simp [map_eq_ok_iff]

end Json.Members

/-- What the members of an object say of a payload: what it lacks is none, or no points. -/
def Payload.ReadFrom (members : Members) : Payload → Prop
  | .progression p =>
      members.Says "deltaXp" Got.toInt64 p.deltaXp ∧
        members.SaysOr "activity" (Got.orNull Got.toText) none p.activity
  | .bossKill p =>
      members.Says "bossId" Got.toText p.bossId ∧
        members.SaysOr "tier" (Got.orNull Got.toUInt32) none p.tier ∧
        members.SaysOr "points" Got.toInt64 0 p.points
  | .dropClaim p =>
      members.Says "dropId" Got.toText p.dropId ∧
        members.SaysOr "weight" (Got.orNull Got.toReal) none p.weight ∧
        members.SaysOr "source" (Got.orNull Got.toText) none p.source

open Json.Members (member?_eq_some_iff member?_getD_iff)

theorem Progression.ofMembers_eq_ok_iff {members : Members} {p : Progression} :
    Progression.ofMembers members = .ok p ↔ Payload.ReadFrom members (.progression p) := by
  simp only [Progression.ofMembers, bind_eq_ok_iff, require_eq_ok_iff, Payload.ReadFrom,
    ← member?_eq_some_iff, ← member?_getD_iff]
  constructor
  · rintro ⟨activity?, hactivity, delta?, hdelta, delta, rfl, hp⟩
    obtain rfl := Except.ok.inj hp
    exact ⟨hdelta, activity?, hactivity, rfl⟩
  · rintro ⟨hdelta, activity?, hactivity, hsame⟩
    exact ⟨activity?, hactivity, _, hdelta, _, rfl, by rw [hsame]; rfl⟩

theorem BossKill.ofMembers_eq_ok_iff {members : Members} {p : BossKill} :
    BossKill.ofMembers members = .ok p ↔ Payload.ReadFrom members (.bossKill p) := by
  simp only [BossKill.ofMembers, bind_eq_ok_iff, require_eq_ok_iff, Payload.ReadFrom,
    ← member?_eq_some_iff, ← member?_getD_iff]
  constructor
  · rintro ⟨boss?, hboss, points?, hpoints, tier?, htier, boss, rfl, hp⟩
    obtain rfl := Except.ok.inj hp
    exact ⟨hboss, ⟨tier?, htier, rfl⟩, points?, hpoints, rfl⟩
  · rintro ⟨hboss, ⟨tier?, htier, hsame⟩, points?, hpoints, hsame'⟩
    exact ⟨_, hboss, points?, hpoints, tier?, htier, _, rfl, by rw [hsame, hsame']; rfl⟩

theorem DropClaim.ofMembers_eq_ok_iff {members : Members} {p : DropClaim} :
    DropClaim.ofMembers members = .ok p ↔ Payload.ReadFrom members (.dropClaim p) := by
  simp only [DropClaim.ofMembers, bind_eq_ok_iff, require_eq_ok_iff, Payload.ReadFrom,
    ← member?_eq_some_iff, ← member?_getD_iff]
  constructor
  · rintro ⟨drop?, hdrop, source?, hsource, weight?, hweight, drop, rfl, hp⟩
    obtain rfl := Except.ok.inj hp
    exact ⟨hdrop, ⟨weight?, hweight, rfl⟩, source?, hsource, rfl⟩
  · rintro ⟨hdrop, ⟨weight?, hweight, hsame⟩, source?, hsource, hsame'⟩
    exact ⟨_, hdrop, source?, hsource, weight?, hweight, _, rfl, by rw [hsame, hsame']; rfl⟩

/-- A payload of a kind is read from members when they say it, and only then. -/
theorem Payload.ofMembers_eq_ok_iff {kind : EventKind} {members : Members} {payload : Payload} :
    Payload.ofMembers kind members = .ok payload ↔
      payload.kind = kind ∧ payload.ReadFrom members := by
  cases kind <;> cases payload <;>
    simp [Payload.ofMembers, map_eq_ok_iff, Payload.kind, Progression.ofMembers_eq_ok_iff,
      BossKill.ofMembers_eq_ok_iff, DropClaim.ofMembers_eq_ok_iff]

/-- The name that a payload has to give. -/
def Payload.givenName? : Payload → Option String
  | .progression _ => none
  | .bossKill p => some p.bossId
  | .dropClaim p => some p.dropId

/-- The name that has to be given has a character that is not blank. -/
def Payload.Named (payload : Payload) : Prop :=
  ∀ name ∈ payload.givenName?, ∃ c ∈ name.toList, isBlank c = false

/-- The check for names lets through the payloads whose names are given. -/
theorem Payload.checkNames_eq_ok_iff {payload : Payload} :
    payload.checkNames = .ok () ↔ payload.Named := by
  cases payload <;> simp [checkNames, Named, givenName?, Text.isAllBlank]

/-- The check for names reports the name that is blank, and nothing else. -/
theorem Payload.checkNames_eq_error_iff {payload : Payload} {error : EventError} :
    payload.checkNames = .error error ↔
      (∃ p, payload = .bossKill p ∧ (∀ c ∈ p.bossId.toList, isBlank c = true) ∧
        error = .emptyBossId) ∨
      ∃ p, payload = .dropClaim p ∧ (∀ c ∈ p.dropId.toList, isBlank c = true) ∧
        error = .emptyDropId := by
  simp only [← Text.isAllBlank_iff]
  cases payload with
  | progression p => simp [checkNames]
  | bossKill p =>
      cases hblank : Text.isAllBlank p.bossId <;> simp [checkNames, hblank, @eq_comm _ error]
  | dropClaim p =>
      cases hblank : Text.isAllBlank p.dropId <;> simp [checkNames, hblank, @eq_comm _ error]

/-! ## Events -/

/-- The event that an envelope gives, with all of its values. -/
structure Envelope.Gives (envelope : Envelope) (event : Event) : Prop where
  validPlayer : IsPlayerId envelope.playerId
  kind : envelope.kind = event.kind.name
  payload : event.payload.ReadFrom envelope.payload
  named : event.payload.Named
  nonneg : 0 ≤ event.scoreDelta
  playerId : event.playerId = envelope.playerId
  timestamp : event.timestamp = envelope.timestamp

/-- A kind is found under its name and under no other. -/
theorem EventKind.ofName?_eq_some_iff {name : String} {kind : EventKind} :
    EventKind.ofName? name = some kind ↔ name = kind.name := by
  constructor
  · intro h
    unfold ofName? at h
    have hfound := List.find?_some h
    exact (beq_iff_eq.mp hfound).symm
  · rintro rfl
    exact kind.ofName?_name

/-- The checks of an event let through what the envelope gives. -/
theorem Event.ofEnvelope_eq_ok_iff_gives {envelope : Envelope} {event : Event} :
    Event.ofEnvelope envelope = .ok event ↔ envelope.Gives event := by
  rw [Event.ofEnvelope_eq_ok_iff]
  simp only [isValidPlayerId_iff, EventKind.ofName?_eq_some_iff, Payload.ofMembers_eq_ok_iff,
    Payload.checkNames_eq_ok_iff]
  constructor
  · rintro ⟨hplayer, kind, hkind, ⟨hsame, hpayload⟩, hnamed, hscore, hplayerId, htimestamp⟩
    exact {
      validPlayer := hplayer
      kind := hkind.trans (congrArg EventKind.name hsame.symm)
      payload := hpayload
      named := hnamed
      nonneg := Int.not_lt.mp hscore
      playerId := hplayerId
      timestamp := htimestamp }
  · intro h
    exact ⟨h.validPlayer, event.kind, h.kind, ⟨rfl, h.payload⟩, h.named, Int.not_lt.mpr h.nonneg,
      h.playerId, h.timestamp⟩

/-- A body is an event when it is an envelope that gives it. -/
theorem Event.parse_eq_ok_iff {body : List UInt8} {event : Event} :
    Event.parse body = .ok event ↔
      ∃ envelope, Envelope.read body = .ok envelope ∧ envelope.Gives event := by
  unfold Event.parse
  cases Envelope.read body with
  | error fault => simp
  | ok envelope => simp [Event.ofEnvelope_eq_ok_iff_gives]

/-- An event that was read from a body. -/
def Event.IsInbound (event : Event) : Prop :=
  ∃ body, Event.parse body = .ok event

namespace Event.IsInbound

variable {event : Event}

/-- The player of an event that was read from a body has a player id. -/
theorem isPlayerId (h : event.IsInbound) : IsPlayerId event.playerId := by
  obtain ⟨body, hparse⟩ := h
  obtain ⟨envelope, -, hgives⟩ := Event.parse_eq_ok_iff.mp hparse
  rw [hgives.playerId]
  exact hgives.validPlayer

/-- The gain of an event that was read from a body is not negative. -/
theorem scoreDelta_nonneg (h : event.IsInbound) : 0 ≤ event.scoreDelta := by
  obtain ⟨body, hparse⟩ := h
  obtain ⟨envelope, -, hgives⟩ := Event.parse_eq_ok_iff.mp hparse
  exact hgives.nonneg

end Event.IsInbound

/-! ## The first rule that is broken -/

/-- The first rule that an envelope breaks, and what is said of it. -/
inductive Envelope.Refused (envelope : Envelope) : String → Prop
  | playerId (hplayer : ¬IsPlayerId envelope.playerId) : Refused envelope "invalid playerId"
  | kind (hplayer : IsPlayerId envelope.playerId)
      (hkind : ∀ kind : EventKind, envelope.kind ≠ kind.name) :
      Refused envelope ("unsupported event type '" ++ envelope.kind ++ "'")
  | payload {kind : EventKind} {mismatch : Mismatch} (hplayer : IsPlayerId envelope.playerId)
      (hkind : envelope.kind = kind.name)
      (hpayload : Payload.ofMembers kind envelope.payload = .error mismatch) :
      Refused envelope ("invalid payload: " ++ mismatch.message)
  | bossId {p : BossKill} (hplayer : IsPlayerId envelope.playerId)
      (hkind : envelope.kind = "boss_kill")
      (hpayload : Payload.ReadFrom envelope.payload (.bossKill p))
      (hblank : ∀ c ∈ p.bossId.toList, isBlank c = true) :
      Refused envelope "bossId must not be empty"
  | dropId {p : DropClaim} (hplayer : IsPlayerId envelope.playerId)
      (hkind : envelope.kind = "drop_claimed")
      (hpayload : Payload.ReadFrom envelope.payload (.dropClaim p))
      (hblank : ∀ c ∈ p.dropId.toList, isBlank c = true) :
      Refused envelope "dropId must not be empty"
  | score {payload : Payload} (hplayer : IsPlayerId envelope.playerId)
      (hkind : envelope.kind = payload.kind.name)
      (hpayload : payload.ReadFrom envelope.payload) (hnamed : payload.Named)
      (hscore : payload.scoreDelta < 0) :
      Refused envelope "score delta must not be negative"

/-- The first rule that a body breaks, and what is said of it. -/
inductive Event.Refused (body : List UInt8) : String → Prop
  | malformed {fault : Fault} (hread : Envelope.read body = .error fault) :
      Refused body ("malformed event: " ++ fault.message body)
  | envelope {envelope : Envelope} {text : String} (hread : Envelope.read body = .ok envelope)
      (hrefused : envelope.Refused text) : Refused body text

namespace Envelope

variable {envelope : Envelope}

theorem ofEnvelope_of_stranger (hplayer : ¬IsPlayerId envelope.playerId) :
    Event.ofEnvelope envelope = .error .invalidPlayerId := by
  rw [← isValidPlayerId_iff] at hplayer
  simp [Event.ofEnvelope, hplayer]

theorem ofEnvelope_of_unknown (hplayer : IsPlayerId envelope.playerId)
    (hkind : ∀ kind : EventKind, envelope.kind ≠ kind.name) :
    Event.ofEnvelope envelope = .error (.unsupportedKind envelope.kind) := by
  have hnone : EventKind.ofName? envelope.kind = none := by
    rw [Option.eq_none_iff_forall_ne_some]
    intro kind hsome
    exact hkind kind (EventKind.ofName?_eq_some_iff.mp hsome)
  simp [Event.ofEnvelope, isValidPlayerId_iff.mpr hplayer, hnone]

theorem ofEnvelope_of_mismatch {kind : EventKind} {mismatch : Mismatch}
    (hplayer : IsPlayerId envelope.playerId) (hkind : envelope.kind = kind.name)
    (hpayload : Payload.ofMembers kind envelope.payload = .error mismatch) :
    Event.ofEnvelope envelope = .error (.invalidPayload mismatch) := by
  simp [Event.ofEnvelope, isValidPlayerId_iff.mpr hplayer,
    EventKind.ofName?_eq_some_iff.mpr hkind, hpayload]

theorem ofEnvelope_of_readFrom {payload : Payload} (hplayer : IsPlayerId envelope.playerId)
    (hpayload : payload.ReadFrom envelope.payload) (hkind : envelope.kind = payload.kind.name) :
    Event.ofEnvelope envelope =
      payload.checkNames.bind fun _ =>
        if payload.scoreDelta < 0 then .error .negativeScoreDelta
        else .ok ⟨envelope.playerId, envelope.timestamp, payload⟩ := by
  simp only [Event.ofEnvelope, isValidPlayerId_iff.mpr hplayer,
    EventKind.ofName?_eq_some_iff.mpr hkind, Payload.ofMembers_eq_ok_iff.mpr ⟨rfl, hpayload⟩]
  rfl

/-- When the name that a payload has to give is blank, that is the first rule that is broken,
and the check for names says so. -/
theorem refused_of_checkNames {payload : Payload} {error : EventError}
    (hplayer : IsPlayerId envelope.playerId) (hkind : envelope.kind = payload.kind.name)
    (hpayload : payload.ReadFrom envelope.payload) (hnames : payload.checkNames = .error error) :
    envelope.Refused error.message := by
  obtain ⟨p, rfl, hblank, rfl⟩ | ⟨p, rfl, hblank, rfl⟩ := Payload.checkNames_eq_error_iff.mp hnames
  · exact .bossId hplayer hkind hpayload hblank
  · exact .dropId hplayer hkind hpayload hblank

/-- What the checks of an event say of an envelope is about the first rule that it breaks. -/
theorem refused_of_error {error : EventError} (h : Event.ofEnvelope envelope = .error error) :
    envelope.Refused error.message := by
  by_cases hplayer : IsPlayerId envelope.playerId
  case neg =>
    rw [ofEnvelope_of_stranger hplayer] at h
    obtain rfl := Except.error.inj h
    exact .playerId hplayer
  by_cases hknown : ∃ kind : EventKind, envelope.kind = kind.name
  case neg =>
    have hkind : ∀ kind : EventKind, envelope.kind ≠ kind.name := not_exists.mp hknown
    rw [ofEnvelope_of_unknown hplayer hkind] at h
    obtain rfl := Except.error.inj h
    exact .kind hplayer hkind
  obtain ⟨kind, hkind⟩ := hknown
  cases hread : Payload.ofMembers kind envelope.payload with
  | error mismatch =>
      rw [ofEnvelope_of_mismatch hplayer hkind hread] at h
      obtain rfl := Except.error.inj h
      exact .payload hplayer hkind hread
  | ok payload =>
      obtain ⟨rfl, hpayload⟩ := Payload.ofMembers_eq_ok_iff.mp hread
      rw [ofEnvelope_of_readFrom hplayer hpayload hkind] at h
      cases hnames : payload.checkNames with
      | error nameError =>
          rw [hnames] at h
          obtain rfl := Except.error.inj h
          exact refused_of_checkNames hplayer hkind hpayload hnames
      | ok =>
          simp only [hnames, Except.bind] at h
          split at h
          · rename_i hscore
            obtain rfl := Except.error.inj h
            exact .score hplayer hkind hpayload (Payload.checkNames_eq_ok_iff.mp hnames) hscore
          · contradiction

/-- An envelope that breaks a rule is refused with what is said of the first. -/
theorem Refused.exists_error {text : String} (h : envelope.Refused text) :
    ∃ error, Event.ofEnvelope envelope = .error error ∧ error.message = text := by
  cases h with
  | playerId hplayer => exact ⟨_, ofEnvelope_of_stranger hplayer, rfl⟩
  | kind hplayer hkind => exact ⟨_, ofEnvelope_of_unknown hplayer hkind, rfl⟩
  | payload hplayer hkind hpayload => exact ⟨_, ofEnvelope_of_mismatch hplayer hkind hpayload, rfl⟩
  | bossId hplayer hkind hpayload hblank =>
      refine ⟨.emptyBossId, ?_, rfl⟩
      rw [ofEnvelope_of_readFrom hplayer hpayload hkind,
        Payload.checkNames_eq_error_iff.mpr (.inl ⟨_, rfl, hblank, rfl⟩)]
      rfl
  | dropId hplayer hkind hpayload hblank =>
      refine ⟨.emptyDropId, ?_, rfl⟩
      rw [ofEnvelope_of_readFrom hplayer hpayload hkind,
        Payload.checkNames_eq_error_iff.mpr (.inr ⟨_, rfl, hblank, rfl⟩)]
      rfl
  | score hplayer hkind hpayload hnamed hscore =>
      refine ⟨.negativeScoreDelta, ?_, rfl⟩
      rw [ofEnvelope_of_readFrom hplayer hpayload hkind,
        Payload.checkNames_eq_ok_iff.mpr hnamed]
      exact if_pos hscore

end Envelope

/-- What is said of a body that is no event is about the first rule that it breaks. -/
theorem Event.parse_error_iff {body : List UInt8} {text : String} :
    (∃ error, Event.parse body = .error error ∧ error.message = text) ↔
      Event.Refused body text := by
  constructor
  · rintro ⟨error, hparse, rfl⟩
    unfold Event.parse at hparse
    cases hread : Envelope.read body with
    | error fault =>
        rw [hread] at hparse
        obtain rfl := Except.error.inj hparse
        exact .malformed hread
    | ok envelope =>
        rw [hread] at hparse
        exact .envelope hread (Envelope.refused_of_error hparse)
  · intro h
    unfold Event.parse
    cases h with
    | malformed hread =>
        rw [hread]
        exact ⟨_, rfl, rfl⟩
    | envelope hread hrefused =>
        rw [hread]
        exact hrefused.exists_error

end Turnstile
