import Turnstile.Proofs.Event.Reading
import Turnstile.Proofs.Fairness.Limits
import Turnstile.Proofs.Json.Compact

/-!
# Events read back

An event that was read from a body is written out again when it is handed on.  The text
that is written is a body of the same event: its integers are in range because they were
read, its strings are escaped in a way that is undone, and it passes the checks again.

Main definitions:

- `Payload.Rereads`: a payload whose numbers are read back as they are.
- `Envelope.Filled`: the ways in which a field of an envelope can be filled.

Main results:

- `Payload.ofMembers_members`: a payload is read back from its members.
- `Envelope.draft_of_read`: what holds of an envelope because every field leaves it true.
- `Event.checked_of_parse`: what holds of an event that was read.
- `Event.parse_encode_toJson`: an event is read back from its text.
-/

namespace Turnstile

open Json

/-! ## Integers in range -/

/-- An integer that fits in sixty-four bits with its sign. -/
def IsInt64 (n : Int) : Prop :=
  -0x8000000000000000 ≤ n ∧ n ≤ 0x7FFFFFFFFFFFFFFF

/-- What is accepted as a signed integer of sixty-four bits fits in them. -/
theorem isInt64_of_toInt64 {got : Got} {n : Int} (h : got.toInt64 = .ok n) : IsInt64 n := by
  unfold Got.toInt64 Got.toInteger at h
  split at h
  · split at h
    · obtain rfl := Except.ok.inj h
      assumption
    · contradiction
  · contradiction

/-- An integer that fits in sixty-four bits with its sign is accepted. -/
theorem toInt64_int {n : Int} (h : IsInt64 n) : (Got.number (.int n)).toInt64 = .ok n :=
  if_pos h

/-- An integer that fits in sixty-four bits with its sign is read back from its digits. -/
theorem IsInt64.rereads {n : Int} (h : IsInt64 n) : (Number.int n).Rereads :=
  Number.rereads_int h.1 (Int.lt_of_le_of_lt h.2 (by decide))

/-- What is accepted as an unsigned integer of thirty-two bits fits in them. -/
theorem le_of_toUInt32 {got : Got} {n : Nat} (h : got.toUInt32 = .ok n) : n ≤ 0xFFFFFFFF := by
  unfold Got.toUInt32 Got.toInteger at h
  split at h
  · split at h
    · obtain rfl := Except.ok.inj h
      omega
    · contradiction
  · contradiction

/-- An integer that fits in thirty-two bits without a sign is accepted. -/
theorem toUInt32_int {n : Nat} (h : n ≤ 0xFFFFFFFF) :
    (Got.number (.int n)).toUInt32 = .ok n := by
  unfold Got.toUInt32 Got.toInteger
  simp only
  rw [if_pos ⟨by omega, by omega⟩]
  rfl

/-! ## Payloads -/

/-- The numbers of a payload are read back from what is written for them. -/
def Payload.Rereads : Payload → Prop
  | .progression p => IsInt64 p.deltaXp
  | .bossKill p => IsInt64 p.points ∧ ∀ n ∈ p.tier, n ≤ 0xFFFFFFFF
  | .dropClaim p => ∀ x ∈ p.weight, (Number.real x).Rereads

/-- The members of the JSON form of a payload. -/
def Payload.members : Payload → Members
  | .progression p => [("deltaXp", .ofInt p.deltaXp), ("activity", .ofOption .text p.activity)]
  | .bossKill p =>
      [("bossId", .text p.bossId), ("tier", .ofOption (fun n : Nat => .ofInt n) p.tier),
        ("points", .ofInt p.points)]
  | .dropClaim p =>
      [("dropId", .text p.dropId), ("weight", .ofOption (fun x => .number (.real x)) p.weight),
        ("source", .ofOption .text p.source)]

/-- The JSON form of a payload is an object. -/
theorem Payload.toJson_eq (payload : Payload) : payload.toJson = .object payload.members := by
  cases payload <;> rfl

/-- The members of a payload have no parts. -/
theorem Payload.depth_members (payload : Payload) : (Value.object payload.members).depth = 1 := by
  cases payload with
  | progression p => cases hactivity : p.activity <;> simp [members, Value.depth, membersDepth,
      Value.ofInt, Value.ofOption, hactivity]
  | bossKill p => cases htier : p.tier <;> simp [members, Value.depth, membersDepth,
      Value.ofInt, Value.ofOption, htier]
  | dropClaim p =>
      cases hweight : p.weight <;> cases hsource : p.source <;>
        simp [members, Value.depth, membersDepth, Value.ofOption, hweight, hsource]

/-- The numbers among the members of a payload are read back. -/
theorem Payload.Rereads.membersReread {payload : Payload} (h : payload.Rereads) :
    membersReread payload.members := by
  cases payload with
  | progression p =>
      refine ⟨h.rereads, ?_, trivial⟩
      cases p.activity <;> trivial
  | bossKill p =>
      refine ⟨trivial, ?_, h.1.rereads, trivial⟩
      cases htier : p.tier with
      | none => trivial
      | some n => 
          have hn := h.2 n htier
          exact Number.rereads_int (by omega) (by omega)
  | dropClaim p =>
      refine ⟨trivial, ?_, ?_, trivial⟩
      · cases hweight : p.weight with
        | none => trivial
        | some x => exact h x hweight
      · cases p.source <;> trivial

/-- A member that is there is read as what is accepted of it. -/
theorem member?_of_find? {α : Type} {members : Members} {name : String} {value : Value}
    {accept : Got → Except Mismatch α} {a : α} (hfind : members.find? name = some value)
    (haccept : accept value.got = .ok a) : member? members name accept = .ok (some a) := by
  simp only [member?, hfind, haccept]
  rfl

/-- An optional value is read back when the value is; null stands for none. -/
theorem orNull_ofOption {α : Type} {accept : Got → Except Mismatch α} {toValue : α → Value}
    {a? : Option α} (h : ∀ a ∈ a?, accept (toValue a).got = .ok a ∧ (toValue a).got ≠ .null) :
    Got.orNull accept (Value.ofOption toValue a?).got = .ok a? := by
  cases a? with
  | none => rfl
  | some a =>
      obtain ⟨haccept, hnull⟩ := h a rfl
      rw [Value.ofOption, Got.orNull, haccept]
      · rfl
      · exact hnull

/-- An optional string is read back. -/
theorem orNull_toText (s? : Option String) :
    Got.orNull Got.toText (Value.ofOption .text s?).got = .ok s? :=
  orNull_ofOption fun _ _ => ⟨rfl, by simp [Value.got]⟩

/-- A drop claim is read back from its members, whatever its weight. -/
theorem DropClaim.ofMembers_members (p : DropClaim) :
    DropClaim.ofMembers (Payload.members (.dropClaim p)) = .ok p := by
  have hdrop : member? (Payload.members (.dropClaim p)) "dropId" Got.toText =
      .ok (some p.dropId) :=
    member?_of_find? rfl rfl
  have hweight : member? (Payload.members (.dropClaim p)) "weight" (Got.orNull Got.toReal) =
      .ok (some p.weight) :=
    member?_of_find? rfl (orNull_ofOption fun _ _ => ⟨rfl, by simp [Value.got]⟩)
  have hsource : member? (Payload.members (.dropClaim p)) "source" (Got.orNull Got.toText) =
      .ok (some p.source) :=
    member?_of_find? rfl (orNull_toText p.source)
  rw [DropClaim.ofMembers, hdrop, hsource, hweight]
  rfl

/-- A payload is read back from its members. -/
theorem Payload.ofMembers_members {payload : Payload} (h : payload.Rereads) :
    Payload.ofMembers payload.kind payload.members = .ok payload := by
  cases payload with
  | progression p =>
      have hdelta : member? (members (.progression p)) "deltaXp" Got.toInt64 =
          .ok (some p.deltaXp) :=
        member?_of_find? rfl (toInt64_int h)
      have hactivity : member? (members (.progression p)) "activity" (Got.orNull Got.toText) =
          .ok (some p.activity) :=
        member?_of_find? rfl (orNull_toText p.activity)
      rw [kind, ofMembers, Progression.ofMembers, hactivity, hdelta]
      rfl
  | bossKill p =>
      have hboss : member? (members (.bossKill p)) "bossId" Got.toText = .ok (some p.bossId) :=
        member?_of_find? rfl rfl
      have htier : member? (members (.bossKill p)) "tier" (Got.orNull Got.toUInt32) =
          .ok (some p.tier) :=
        member?_of_find? rfl
          (orNull_ofOption fun n hn => ⟨toUInt32_int (h.2 n hn), by simp [Value.got, Value.ofInt]⟩)
      have hpoints : member? (members (.bossKill p)) "points" Got.toInt64 = .ok (some p.points) :=
        member?_of_find? rfl (toInt64_int h.1)
      rw [kind, ofMembers, BossKill.ofMembers, hboss, hpoints, htier]
      rfl
  | dropClaim p =>
      rw [kind, ofMembers, p.ofMembers_members]
      rfl

/-- Mapping a result gives a value exactly when there is a result that is taken to it. -/
theorem map_eq_ok_iff {ε α β : Type} {x : Except ε α} {f : α → β} {b : β} :
    x.map f = .ok b ↔ ∃ a, x = .ok a ∧ f a = b := by
  cases x with
  | error e => simp [Except.map]
  | ok a => simp [Except.map]

/-- A member that is read is there, and is accepted. -/
theorem mem_of_member? {α : Type} {members : Members} {name : String}
    {accept : Got → Except Mismatch α} {a : α}
    (h : member? members name accept = .ok (some a)) :
    ∃ value, (name, value) ∈ members ∧ accept value.got = .ok a := by
  unfold member? at h
  split at h
  · simp at h
  · rename_i value hfind
    obtain ⟨b, haccept, hsome⟩ := map_eq_ok_iff.mp h
    obtain rfl := Option.some.inj hsome
    obtain ⟨⟨found, _⟩, hfound, rfl⟩ := Option.map_eq_some_iff.mp hfind
    have hmember := List.mem_reverse.mp (List.mem_of_find?_eq_some hfound)
    have hname : found = name := by simpa using List.find?_some hfound
    exact ⟨_, hname ▸ hmember, haccept⟩

/-- An optional value that is read is accepted. -/
theorem accept_of_orNull {α : Type} {accept : Got → Except Mismatch α} {got : Got}
    {a? : Option α} (h : Got.orNull accept got = .ok a?) : ∀ a ∈ a?, accept got = .ok a := by
  unfold Got.orNull at h
  split at h
  · obtain rfl := Except.ok.inj h
    simp
  · obtain ⟨a, haccept, rfl⟩ := map_eq_ok_iff.mp h
    intro b hb
    obtain rfl := Option.some.inj hb
    exact haccept

/-- A field that has to be there is there. -/
theorem require_eq_ok_iff {α : Type} {name : String} {a? : Option α} {a : α} :
    require name a? = .ok a ↔ a? = some a := by
  cases a? <;> simp [require]

/-- A progression that is read has its gain in range. -/
theorem Progression.isInt64_of_ofMembers {members : Members} {p : Progression}
    (h : Progression.ofMembers members = .ok p) : IsInt64 p.deltaXp := by
  simp only [Progression.ofMembers, bind_eq_ok_iff, require_eq_ok_iff] at h
  obtain ⟨activity?, -, delta?, hdelta, delta, rfl, hp⟩ := h
  obtain rfl := Except.ok.inj hp
  obtain ⟨_, -, haccept⟩ := mem_of_member? hdelta
  exact isInt64_of_toInt64 haccept

/-- A boss kill that is read has its points and its tier in range. -/
theorem BossKill.inRange_of_ofMembers {members : Members} {p : BossKill}
    (h : BossKill.ofMembers members = .ok p) :
    IsInt64 p.points ∧ ∀ n ∈ p.tier, n ≤ 0xFFFFFFFF := by
  simp only [BossKill.ofMembers, bind_eq_ok_iff, require_eq_ok_iff] at h
  obtain ⟨boss?, -, points?, hpoints, tier?, htier, boss, rfl, hp⟩ := h
  obtain rfl := Except.ok.inj hp
  constructor
  · cases points? with
    | none => exact show IsInt64 0 from ⟨by decide, by decide⟩
    | some points =>
        obtain ⟨_, -, haccept⟩ := mem_of_member? hpoints
        exact isInt64_of_toInt64 haccept
  · intro n hn
    obtain ⟨tier, rfl, hn⟩ : ∃ tier, tier? = some tier ∧ tier = some n := by
      cases tier? with
      | none => contradiction
      | some tier => exact ⟨tier, rfl, hn⟩
    obtain ⟨_, -, haccept⟩ := mem_of_member? htier
    exact le_of_toUInt32 (accept_of_orNull haccept n hn)

/-- A payload that is read is of the kind asked for, and its integers are in range. -/
theorem Payload.of_ofMembers {kind : EventKind} {members : Members} {payload : Payload}
    (h : Payload.ofMembers kind members = .ok payload)
    (hweight : ∀ claim, payload = .dropClaim claim →
      ∀ x ∈ claim.weight, (Number.real x).Rereads) :
    payload.kind = kind ∧ payload.Rereads := by
  cases kind with
  | progression =>
      obtain ⟨p, hp, rfl⟩ := map_eq_ok_iff.mp h
      exact ⟨rfl, p.isInt64_of_ofMembers hp⟩
  | bossKill =>
      obtain ⟨p, hp, rfl⟩ := map_eq_ok_iff.mp h
      exact ⟨rfl, p.inRange_of_ofMembers hp⟩
  | dropClaimed =>
      obtain ⟨p, hp, rfl⟩ := map_eq_ok_iff.mp h
      exact ⟨rfl, hweight p rfl⟩

/-! ## Drafts that are read -/

namespace Json.Shape

variable {δ α : Type} {shape : Shape δ α} {P : δ → Prop}

/-- What every field leaves true holds of the draft when the members have been read. -/
theorem of_readMembers
    (hfill : ∀ field ∈ shape.fields, ∀ room draft bytes next rest, P draft →
      field.fill room draft bytes = .ok (next, rest) → P next)
    {room fuel : Nat} {first : Bool} {draft final : δ} {bytes rest : List UInt8}
    (hdraft : P draft)
    (h : shape.readMembers room fuel first draft bytes = .ok (.complete final rest)) :
    P final := by
  induction fuel generalizing first draft bytes with
  | zero => contradiction
  | succ fuel ih =>
      rw [readMembers, bind_eq_ok_iff] at h
      obtain ⟨next, -, h⟩ := h
      cases next with
      | closed left =>
          obtain ⟨rfl, -⟩ := by simpa [pure, Except.pure] using h
          exact hdraft
      | entry bytes =>
          simp only [bind_eq_ok_iff] at h
          obtain ⟨⟨name, left⟩, -, h⟩ := h
          dsimp only at h
          cases hfield : shape.field? name with
          | none =>
              simp only [hfield, bind_eq_ok_iff] at h
              obtain ⟨_, -, _, -, h⟩ := h
              exact ih hdraft h
          | some field =>
              simp only [hfield] at h
              split at h
              · simp [pure, Except.pure] at h
              · simp only [bind_eq_ok_iff] at h
                obtain ⟨_, -, ⟨next, left⟩, hread, h⟩ := h
                exact ih (hfill field (List.mem_of_find?_eq_some hfield) _ _ _ _ _ hdraft hread) h

/-- What every field leaves true holds of the draft when the elements have been read. -/
theorem of_readItems {fields : List (RecordField δ)}
    (hfill : ∀ field ∈ fields, ∀ room draft bytes next rest, P draft →
      field.fill room draft bytes = .ok (next, rest) → P next)
    {room count : Nat} {title : String} {draft final : δ} {bytes rest : List UInt8}
    (hdraft : P draft)
    (h : readItems room fields count title draft bytes = .ok (.complete final rest)) :
    P final := by
  induction fields generalizing count draft bytes with
  | nil =>
      unfold readItems at h
      split at h
      · contradiction
      · split at h
        · cases h
          exact hdraft
        · split at h
          · split at h <;> contradiction
          · contradiction
  | cons field fields ih =>
      rw [readItems, bind_eq_ok_iff] at h
      obtain ⟨next, -, h⟩ := h
      obtain ⟨hfield, hfields⟩ := List.forall_mem_cons.mp hfill
      cases next with
      | closed left =>
          dsimp only at h
          split at h
          · simp [pure, Except.pure] at h
          · obtain ⟨rfl, -⟩ := by simpa [pure, Except.pure] using h
            exact hdraft
      | entry bytes =>
          simp only [bind_eq_ok_iff] at h
          obtain ⟨⟨next, left⟩, hread, h⟩ := h
          exact ih hfields (hfield _ _ _ _ _ hdraft hread) h

/-- What holds of the blank draft, and what every field leaves true, holds of the draft
that a record is made from. -/
theorem of_read
    (hfill : ∀ field ∈ shape.fields, ∀ room draft bytes next rest, P draft →
      field.fill room draft bytes = .ok (next, rest) → P next)
    (hblank : P shape.blank) {room : Nat} {bytes rest : List UInt8} {a : α}
    (h : shape.read room bytes = .ok (a, rest)) :
    ∃ draft, P draft ∧ shape.finish draft = .ok a := by
  have hconclude {outcome : Outcome δ} (houtcome : shape.conclude outcome = .ok (a, rest)) :
      ∃ draft, outcome = .complete draft rest ∧ shape.finish draft = .ok a := by
    cases outcome with
    | complete draft left =>
        unfold conclude at houtcome
        dsimp only at houtcome
        split at houtcome
        · cases houtcome
          exact ⟨draft, rfl, ‹_›⟩
        · contradiction
    | clash mismatch left => contradiction
  rw [read, bind_eq_ok_iff] at h
  obtain ⟨⟨got, left⟩, -, h⟩ := h
  cases got with
  | sequence =>
      cases room with
      | zero => contradiction
      | succ room =>
          simp only [bind_eq_ok_iff] at h
          obtain ⟨outcome, hread, h⟩ := h
          obtain ⟨draft, rfl, hfinish⟩ := hconclude h
          exact ⟨draft, of_readItems hfill hblank hread, hfinish⟩
  | map =>
      cases room with
      | zero => contradiction
      | succ room =>
          simp only [bind_eq_ok_iff] at h
          obtain ⟨outcome, hread, h⟩ := h
          obtain ⟨draft, rfl, hfinish⟩ := hconclude h
          exact ⟨draft, of_readMembers hfill hblank hread, hfinish⟩
  | _ => contradiction

end Json.Shape

/-! ## Events -/

/-- What is read is accepted. -/
theorem accept_of_readAs {α : Type} {accept : Got → Except Mismatch α} {bytes rest : List UInt8}
    {a : α} (h : readAs accept bytes = .ok (a, rest)) : ∃ got, accept got = .ok a := by
  rw [readAs, bind_eq_ok_iff] at h
  obtain ⟨⟨got, left⟩, -, h⟩ := h
  dsimp only at h
  split at h
  · cases h
    exact ⟨got, ‹_›⟩
  · contradiction

/-- The ways in which a field of an envelope can be filled: the draft after it. -/
inductive Envelope.Filled (draft : EnvelopeDraft) : EnvelopeDraft → Prop
  | kind (s : String) : Filled draft { draft with kind := some s }
  | playerId (s : String) : Filled draft { draft with playerId := some s }
  /-- The time is in range. -/
  | timestamp {n : Int} (hrange : IsInt64 n) : Filled draft { draft with timestamp := some n }
  /-- The payload was read. -/
  | payload {room : Nat} {members : Members} {bytes rest : List UInt8}
      (hread : readMembers room bytes = .ok (members, rest)) :
      Filled draft { draft with payload := some members }

/-- Every field is filled in one of these ways. -/
theorem Envelope.filled {field : RecordField EnvelopeDraft} (hfield : field ∈ shape.fields)
    {room : Nat} {draft next : EnvelopeDraft} {bytes rest : List UInt8}
    (h : field.fill room draft bytes = .ok (next, rest)) : Filled draft next := by
  simp only [shape, List.mem_cons, List.not_mem_nil, or_false] at hfield
  rcases hfield with rfl | rfl | rfl | rfl
  · obtain ⟨⟨s, left⟩, -, hnext⟩ := map_eq_ok_iff.mp h
    cases hnext
    exact .kind s
  · obtain ⟨⟨s, left⟩, -, hnext⟩ := map_eq_ok_iff.mp h
    cases hnext
    exact .playerId s
  · obtain ⟨⟨n, left⟩, hread, hnext⟩ := map_eq_ok_iff.mp h
    cases hnext
    obtain ⟨got, haccept⟩ := accept_of_readAs hread
    exact .timestamp (isInt64_of_toInt64 haccept)
  · obtain ⟨⟨members, left⟩, hread, hnext⟩ := map_eq_ok_iff.mp h
    cases hnext
    exact .payload hread

/-- What holds of the blank draft, and what no way of filling a field takes away, holds of the
draft of an envelope that is read. -/
theorem Envelope.draft_of_read {P : EnvelopeDraft → Prop} (hblank : P shape.blank)
    (hfill : ∀ draft next, P draft → Filled draft next → P next) {body : List UInt8}
    {envelope : Envelope} (h : Envelope.read body = .ok envelope) : P envelope.draft := by
  rw [read, readText, bind_eq_ok_iff] at h
  obtain ⟨⟨found, rest⟩, hread, h⟩ := h
  obtain ⟨⟨kind?, player?, time?, payload?⟩, hdraft, hfinish⟩ :=
    Shape.of_read
      (fun _ hfield _ _ _ _ _ hbefore hread => hfill _ _ hbefore (filled hfield hread)) hblank hread
  simp only [bind_eq_ok_iff] at h
  obtain ⟨_, -, h⟩ := h
  cases h
  simp only [shape, bind_eq_ok_iff, require_eq_ok_iff] at hfinish
  obtain ⟨kind, rfl, player, rfl, time, rfl, payload, rfl, hfinish⟩ := hfinish
  cases hfinish
  exact hdraft

/-- The time of an envelope that is read is in range. -/
theorem Envelope.isInt64_of_read {body : List UInt8} {envelope : Envelope}
    (h : Envelope.read body = .ok envelope) : IsInt64 envelope.timestamp := by
  have hdraft : ∀ n ∈ envelope.draft.timestamp, IsInt64 n := by
    refine draft_of_read (P := fun draft => ∀ n ∈ draft.timestamp, IsInt64 n) (by simp [shape]) ?_ h
    intro draft next hdraft hfilled
    cases hfilled with
    | timestamp hrange =>
        intro n hn
        obtain rfl := Option.some.inj hn
        exact hrange
    | _ => exact hdraft
  exact hdraft _ rfl

/-- What the checks of an event let through. -/
theorem Event.ofEnvelope_eq_ok_iff {envelope : Envelope} {event : Event} :
    Event.ofEnvelope envelope = .ok event ↔
      isValidPlayerId envelope.playerId = true ∧
      ∃ kind, EventKind.ofName? envelope.kind = some kind ∧
        Payload.ofMembers kind envelope.payload = .ok event.payload ∧
        event.payload.checkNames = .ok () ∧ ¬event.payload.scoreDelta < 0 ∧
        event.playerId = envelope.playerId ∧ event.timestamp = envelope.timestamp := by
  constructor
  · intro h
    unfold Event.ofEnvelope at h
    split at h
    · contradiction
    · rename_i hplayer
      split at h
      · contradiction
      · rename_i kind hkind
        split at h
        · contradiction
        · rename_i payload hpayload
          obtain ⟨_, hnames, h⟩ := bind_eq_ok_iff.mp h
          split at h
          · contradiction
          · cases h
            exact ⟨by simpa using hplayer, kind, hkind, hpayload, hnames, ‹_›, rfl, rfl⟩
  · rintro ⟨hplayer, kind, hkind, hpayload, hnames, hscore, hplayerId, htimestamp⟩
    unfold Event.ofEnvelope
    rw [if_neg (by simp [hplayer])]
    simp only [hkind, hpayload]
    refine bind_eq_ok_iff.mpr ⟨(), hnames, ?_⟩
    rw [if_neg hscore, ← hplayerId, ← htimestamp]
    rfl

/-- A kind is found under its name. -/
theorem EventKind.ofName?_name (kind : EventKind) : EventKind.ofName? kind.name = some kind := by
  cases kind <;> rfl

/-- An event that passed the checks, whose numbers are read back as they are. -/
structure Event.Checked (event : Event) : Prop where
  playerId : isValidPlayerId event.playerId = true
  timestamp : IsInt64 event.timestamp
  payload : event.payload.Rereads
  names : event.payload.checkNames = .ok ()
  score : ¬event.payload.scoreDelta < 0

/-- An event that was read came from an envelope that passed the checks. -/
theorem Event.envelope_of_parse {body : List UInt8} {event : Event}
    (hparse : Event.parse body = .ok event) :
    ∃ envelope, Envelope.read body = .ok envelope ∧ Event.ofEnvelope envelope = .ok event := by
  unfold Event.parse at hparse
  cases hread : Envelope.read body with
  | error fault => simp [hread] at hparse
  | ok envelope => exact ⟨envelope, rfl, by simpa [hread] using hparse⟩

/-- An event that was read passed the checks. -/
theorem Event.checked_of_parse {body : List UInt8} {event : Event}
    (hparse : Event.parse body = .ok event)
    (hweight : ∀ claim, event.payload = .dropClaim claim →
      ∀ x ∈ claim.weight, (Number.real x).Rereads) : event.Checked := by
  obtain ⟨envelope, hread, hchecks⟩ := envelope_of_parse hparse
  obtain ⟨hplayer, kind, -, hpayload, hnames, hscore, hplayerId, htimestamp⟩ :=
    Event.ofEnvelope_eq_ok_iff.mp hchecks
  exact {
    playerId := hplayerId ▸ hplayer
    timestamp := htimestamp ▸ Envelope.isInt64_of_read hread
    payload := (Payload.of_ofMembers hpayload hweight).2
    names := hnames
    score := hscore }

namespace Event

/-- The four values that are written for an event. -/
def values (event : Event) : EnvelopeValues :=
  ⟨.text event.kind.name, .text event.playerId, .ofInt event.timestamp, event.payload.members⟩

/-- The JSON form of an event is an object with its four values. -/
theorem toJson_eq (event : Event) : event.toJson = .object event.values.entries := by
  rw [toJson, event.payload.toJson_eq]
  rfl

/-- The envelope of an event. -/
def envelope (event : Event) : Envelope :=
  ⟨event.kind.name, event.playerId, event.timestamp, event.payload.members⟩

/-- The four values make up the envelope. -/
theorem envelope?_values {event : Event} (h : IsInt64 event.timestamp) :
    event.values.envelope? = some event.envelope := by
  have htime : (event.values.timestamp.got.toInt64).toOption = some event.timestamp := by
    rw [values, Value.ofInt, Value.got, toInt64_int h]
    rfl
  rw [EnvelopeValues.envelope?, htime]
  rfl

/-- The numbers of an event are read back. -/
theorem Checked.rereads {event : Event} (h : event.Checked) : event.toJson.Rereads := by
  rw [toJson_eq]
  exact ⟨trivial, trivial, h.timestamp.rereads, h.payload.membersReread, trivial⟩

end Event

/-- The members of an object with none but the four of an envelope are its entries. -/
theorem envelopeEntries?_of_memberValues? {members : List (Member Tree)} {values : Members}
    (hvalues : memberValues? members = some values)
    (hknown : ∀ entry ∈ values, (Envelope.shape.field? entry.1).isSome = true) :
    envelopeEntries? members = some values := by
  induction members generalizing values with
  | nil => exact hvalues
  | cons member members ih =>
      obtain ⟨name, value, tail, hname, hvalue, htail, rfl⟩ := memberValues?_cons hvalues
      obtain ⟨hhead, hknown⟩ := List.forall_mem_cons.mp hknown
      obtain ⟨field, hfield⟩ := Option.isSome_iff_exists.mp hhead
      simp only at hfield
      simp only [envelopeEntries?, hname, hfield, hvalue, ih htail hknown]

namespace Event

/-- A text with the value of an event says its four values. -/
theorem saidBy_of_value? {event : Event} {tree : Tree} (h : tree.value? = some event.toJson) :
    event.values.SaidBy tree := by
  rw [toJson_eq] at h
  cases tree with
  | object gap members =>
      obtain ⟨entries, hentries, hsame⟩ := Option.map_eq_some_iff.mp h
      obtain rfl := Value.object.inj hsame
      refine .object gap members _ (envelopeEntries?_of_memberValues? hentries ?_) (.refl _)
      simp only [EnvelopeValues.entries, List.forall_mem_cons, List.not_mem_nil, false_implies,
        implies_true, and_true]
      exact ⟨rfl, rfl, rfl, rfl⟩
  | _ => simp [Tree.value?] at h

/-- A text with the value of an event is read as its envelope. -/
theorem read_of_value? {event : Event} {tree : Tree} (h : tree.value? = some event.toJson)
    (htime : IsInt64 event.timestamp) : Envelope.read tree.bytes = .ok event.envelope := by
  have hdepth : (Value.object event.values.payload).depth < depthLimit := by
    rw [values, Payload.depth_members]
    decide
  let body : Body := ⟨.none, tree, .none⟩
  have hbody : event.values.SaidBy body.tree := saidBy_of_value? h
  have hread := (Envelope.read_bytes_eq_ok_iff hbody hdepth event.envelope).mpr
    (envelope?_values htime)
  simpa [body, Body.bytes, Blanks.none] using hread

/-- When the text that is written for an event is read as another event, it is read as its
envelope. -/
theorem read_of_readsAs {event read : Event} (h : event.toJson.ReadsAs read.toJson)
    (htime : IsInt64 read.timestamp) :
    Envelope.read (Text.Utf8.encodeString event.toJson.toText) = .ok read.envelope := by
  obtain ⟨tree, hbytes, hvalue⟩ := h
  rw [Text.Utf8.encodeString, Value.toText, String.toList_ofList, ← hbytes]
  exact read_of_value? hvalue htime

/-- What is written for an event is read as its envelope. -/
theorem Checked.read_encode {event : Event} (h : event.Checked) :
    Envelope.read (Text.Utf8.encodeString event.toJson.toText) = .ok event.envelope :=
  read_of_readsAs (event.toJson.exists_tree h.rereads) h.timestamp

/-- An event that was read from a body is read back from the text that is written for it,
if the number that a drop may weigh is. -/
theorem parse_encode_of_rereads {body : List UInt8} {event : Event}
    (hparse : parse body = .ok event)
    (hweight : ∀ claim, event.payload = .dropClaim claim →
      ∀ x ∈ claim.weight, (Number.real x).Rereads) :
    parse (Text.Utf8.encodeString event.toJson.toText) = .ok event := by
  have h := checked_of_parse hparse hweight
  rw [parse, h.read_encode]
  exact ofEnvelope_eq_ok_iff.mpr ⟨h.playerId, event.kind, event.kind.ofName?_name,
    Payload.ofMembers_members h.payload, h.names, h.score, rfl, rfl⟩

/-- An event that was read from a body is read back from the text that is written for it,
unless it is a drop with a weight. -/
theorem parse_encode_toJson {body : List UInt8} {event : Event}
    (hparse : parse body = .ok event)
    (hweight : ∀ claim, event.payload = .dropClaim claim → claim.weight = none) :
    parse (Text.Utf8.encodeString event.toJson.toText) = .ok event := by
  refine parse_encode_of_rereads hparse fun claim hclaim x hx => ?_
  rw [hweight claim hclaim] at hx
  contradiction

/-- A boss kill whose name is a control character, without a tier and without points, is read
back from the text that is written for it. -/
theorem parse_encode_bossKill :
    let body := Text.Utf8.encodeString
      ("\x7b\"type\":\"boss_kill\",\"playerId\":\"p\",\"ts\":-5," ++
        "\"payload\":\x7b\"bossId\":\"\\u0001\"\x7d\x7d")
    let event : Event := ⟨"p", -5, .bossKill ⟨"\x01", none, 0⟩⟩
    parse body = .ok event ∧
      parse (Text.Utf8.encodeString event.toJson.toText) = .ok event := by
  intro body event
  have hparse : parse body = .ok event := by decide +kernel
  exact ⟨hparse, parse_encode_toJson hparse fun _ hclaim => nomatch hclaim⟩

end Event

end Turnstile
