import Mathlib.Data.List.Nodup
import Turnstile.Proofs.Event.Reading
import Turnstile.Proofs.Fairness.Limits
import Turnstile.Proofs.Json.Compact

/-!
# Layout does not matter

Two bodies that say the same kind, player and time, and payloads with the same members,
are the same event or the same error, however they are laid out: as a list or as an
object, with members in any order, strangers among them, blanks between any two tokens,
and members of the payload that later ones override.

Main definitions:

- `Members.Alike`: payloads that cannot be told apart by looking at their members.

Main results:

- `Members.alike_of_perm`, `Members.alike_of_overridden`: order and overridden members.
- `Payload.ofMembers_congr`: payloads that look the same are decoded alike.
- `Event.parse_bytes_eq`: bodies that say the same are the same event or the same error.
-/

namespace Turnstile

open Json

/-! ## Payloads that look the same -/

namespace Json.Members

/-- Under every name there is the same to see: the last member with it is the same scalar,
or a list, or an object, in both. -/
def Alike (members members' : Members) : Prop :=
  ∀ name, (members.find? name).map Value.got = (members'.find? name).map Value.got

/-- The last member under a name is the one that is found. -/
theorem find?_append (members more : Members) (name : String) :
    (members ++ more).find? name = (more.find? name).or (members.find? name) := by
  unfold find?
  rw [List.reverse_append, List.find?_append, Option.map_or]

/-- A member that is there is found, or one that overrides it. -/
theorem find?_ne_none_of_mem {members : Members} {name : String} {value : Value}
    (h : (name, value) ∈ members) : members.find? name ≠ none := by
  simp only [find?, ne_eq, Option.map_eq_none_iff, List.find?_eq_none, not_forall]
  exact ⟨(name, value), List.mem_reverse.mpr h, by simp⟩

/-- A member that a later one overrides does not count. -/
theorem alike_of_overridden (before : Members) {after : Members} {name : String}
    {value later : Value} (h : (name, later) ∈ after) :
    Alike (before ++ (name, value) :: after) (before ++ after) := by
  intro asked
  rw [List.append_cons, find?_append, find?_append, find?_append]
  by_cases hasked : name = asked
  · subst hasked
    obtain ⟨found, hfound⟩ := Option.ne_none_iff_exists'.mp (find?_ne_none_of_mem h)
    simp [hfound]
  · have hnone : find? [(name, value)] asked = none := by
      simp [find?, hasked]
    rw [hnone, Option.none_or]

/-- Of members with different names, the one that is asked for is found. -/
theorem find?_eq_some_iff_mem {members : Members} (hnames : (members.map Prod.fst).Nodup)
    (name : String) (value : Value) :
    members.find? name = some value ↔ (name, value) ∈ members := by
  constructor
  · intro h
    obtain ⟨⟨found, value⟩, hfound, rfl⟩ := Option.map_eq_some_iff.mp h
    have hname := List.find?_some hfound
    rw [beq_iff_eq] at hname
    subst hname
    exact List.mem_reverse.mp (List.mem_of_find?_eq_some hfound)
  · intro h
    obtain ⟨found, hfound⟩ := Option.ne_none_iff_exists'.mp (find?_ne_none_of_mem h)
    obtain ⟨⟨same, _⟩, hsome, rfl⟩ := Option.map_eq_some_iff.mp hfound
    have hname := List.find?_some hsome
    have hmem := List.mem_reverse.mp (List.mem_of_find?_eq_some hsome)
    rw [beq_iff_eq] at hname
    subst hname
    obtain ⟨-, rfl⟩ := Prod.mk.inj (List.inj_on_of_nodup_map hnames hmem h rfl)
    exact hfound

/-- The order of members with different names does not count. -/
theorem alike_of_perm {members members' : Members} (hperm : members.Perm members')
    (hnames : (members.map Prod.fst).Nodup) : Alike members members' := by
  have hnames' : (members'.map Prod.fst).Nodup := (hperm.map Prod.fst).nodup_iff.mp hnames
  intro name
  congr 1
  ext value
  rw [find?_eq_some_iff_mem hnames, find?_eq_some_iff_mem hnames', hperm.mem_iff]

end Json.Members

/-! ## Decoding -/

/-- A member is decoded by what there is to see under its name. -/
theorem member?_congr {α : Type} {members members' : Members} (h : members.Alike members')
    (name : String) (accept : Got → Except Mismatch α) :
    member? members name accept = member? members' name accept := by
  have hname := h name
  unfold member?
  cases hfind : members.find? name <;> cases hfind' : members'.find? name <;>
    simp_all

/-- Payloads that look the same are decoded alike, to the same error if there is one. -/
theorem Payload.ofMembers_congr {members members' : Members} (h : members.Alike members')
    (kind : EventKind) : Payload.ofMembers kind members = Payload.ofMembers kind members' := by
  cases kind <;>
    simp only [ofMembers, Progression.ofMembers, BossKill.ofMembers, DropClaim.ofMembers,
      member?_congr h]

/-- Envelopes that differ in their payloads alone, and whose payloads look the same, are
checked alike. -/
theorem Event.ofEnvelope_congr {kind playerId : String} {timestamp : Int}
    {members members' : Members} (h : members.Alike members') :
    Event.ofEnvelope ⟨kind, playerId, timestamp, members⟩ =
      Event.ofEnvelope ⟨kind, playerId, timestamp, members'⟩ := by
  simp only [Event.ofEnvelope, Payload.ofMembers_congr h]

/-! ## Bodies -/

/-- Four values whose payload is changed make up the envelope whose payload is changed. -/
theorem EnvelopeValues.envelope?_eq_some {kind playerId timestamp : Value} {members : Members}
    {envelope : Envelope}
    (h : EnvelopeValues.envelope? ⟨kind, playerId, timestamp, members⟩ = some envelope)
    (members' : Members) :
    envelope.payload = members ∧
      EnvelopeValues.envelope? ⟨kind, playerId, timestamp, members'⟩ =
        some { envelope with payload := members' } := by
  simp only [envelope?, Option.bind_eq_bind, Option.bind_eq_some_iff] at h ⊢
  obtain ⟨kind, hkind, player, hplayer, time, htime, henvelope⟩ := h
  obtain rfl := Option.some.inj henvelope
  exact ⟨rfl, kind, hkind, player, hplayer, time, htime, rfl⟩

/-- Take two bodies that say the same kind, player and time, and payloads that look the
same and do not nest too deep.  If one of them is an envelope, both are, and they are the
same event or the same error. -/
theorem Event.parse_bytes_eq {kind playerId timestamp : Value} {members members' : Members}
    (halike : members.Alike members') {body body' : Body}
    (hsaid : EnvelopeValues.SaidBy ⟨kind, playerId, timestamp, members⟩ body.tree)
    (hsaid' : EnvelopeValues.SaidBy ⟨kind, playerId, timestamp, members'⟩ body'.tree)
    (hdepth : (Value.object members).depth < depthLimit)
    (hdepth' : (Value.object members').depth < depthLimit) {envelope : Envelope}
    (hread : Envelope.read body.bytes = .ok envelope) :
    Event.parse body'.bytes = Event.parse body.bytes := by
  have hvalues := (Envelope.read_bytes_eq_ok_iff hsaid hdepth envelope).mp hread
  obtain ⟨hpayload, hvalues'⟩ := EnvelopeValues.envelope?_eq_some hvalues members'
  have hread' := (Envelope.read_bytes_eq_ok_iff hsaid' hdepth' _).mpr hvalues'
  obtain ⟨kind, playerId, timestamp, payload⟩ := envelope
  obtain rfl : payload = members := hpayload
  simp only [Event.parse, hread, hread']
  exact (Event.ofEnvelope_congr halike).symm

/-- One blank. -/
def Json.Blanks.single (b : UInt8) (hblank : Byte.isBlank b = true) : Blanks where
  bytes := [b]
  blank := List.forall_mem_singleton.mpr hblank

/-- An event as a list: `["progression","p",1,{"deltaXp":5}]`. -/
def listedBody : Body where
  before := .none
  tree := .array .none
    [⟨.none, .text (textPieces "progression"), .none⟩, ⟨.none, .text (textPieces "p"), .none⟩,
      ⟨.none, .number (.ofInt 1), .none⟩,
      ⟨.none, .object .none
        [⟨.none, textPieces "deltaXp", .none, .none, .number (.ofInt 5), .none⟩], .none⟩]
  after := .none

/-- The event of `listedBody` as an object in another order: there is a stranger that no
reader could make sense of, and a first gain that a second one overrides. -/
def rearrangedBody : Body where
  before := .single 0x0A rfl
  tree := .object .none
    [⟨.none, textPieces "payload", .none, .none, .object .none
        [⟨.none, textPieces "deltaXp", .none, .none, .null, .none⟩,
          ⟨.none, textPieces "deltaXp", .none, .none, .number (.ofInt 5), .none⟩], .none⟩,
      ⟨.none, textPieces "ts", .single 0x20 rfl, .none, .number (.ofInt 1), .none⟩,
      ⟨.none, textPieces "x", .none, .none,
        .array .none [⟨.none, .text [.code 0x44 0x38 0x30 0x30 0xD800 rfl], .none⟩], .none⟩,
      ⟨.none, textPieces "playerId", .none, .none, .text (textPieces "p"), .none⟩,
      ⟨.none, textPieces "type", .none, .none, .text (textPieces "progression"), .none⟩]
  after := .none

/-- What the listed body and the rearranged one say, with the members of the payload as they
stand in each. -/
def sharedValues (payload : Members) : EnvelopeValues :=
  ⟨.text "progression", .text "p", .ofInt 1, payload⟩

/-- The listed body and the rearranged one are the same event. -/
theorem Event.parse_rearrangedBody :
    Event.parse listedBody.bytes = Event.parse rearrangedBody.bytes ∧
      Event.parse rearrangedBody.bytes = .ok ⟨"p", 1, .progression ⟨5, none⟩⟩ := by
  have hone : (Numeral.ofInt 1).number? = some (.int 1) :=
    Numeral.number?_ofInt (by decide) (by decide)
  have hfive : (Numeral.ofInt 5).number? = some (.int 5) :=
    Numeral.number?_ofInt (by decide) (by decide)
  have hlisted : (sharedValues [("deltaXp", .ofInt 5)]).SaidBy listedBody.tree := by
    refine .list _ _ ?_
    simp [itemValues?, memberValues?, Tree.value?, text?_textPieces, hone, hfive, sharedValues,
      EnvelopeValues.entries, Value.ofInt]
  have hrearranged :
      (sharedValues [("deltaXp", .null), ("deltaXp", .ofInt 5)]).SaidBy rearrangedBody.tree := by
    refine .object _ _ _ ?_ (List.reverse_perm _)
    simp [envelopeEntries?, memberValues?, Tree.value?, text?_textPieces, hone, hfive,
      sharedValues, EnvelopeValues.entries, Value.ofInt, Shape.field?, Envelope.shape, scalarField]
  have hread : Envelope.read rearrangedBody.bytes =
      .ok ⟨"progression", "p", 1, [("deltaXp", .null), ("deltaXp", .ofInt 5)]⟩ :=
    (Envelope.read_bytes_eq_ok_iff hrearranged (by decide) _).mpr rfl
  have halike : Members.Alike [("deltaXp", .null), ("deltaXp", .ofInt 5)]
      [("deltaXp", .ofInt 5)] :=
    Members.alike_of_overridden [] List.mem_cons_self
  refine ⟨parse_bytes_eq halike hrearranged hlisted (by decide) (by decide) hread, ?_⟩
  rw [parse, hread]
  rfl

end Turnstile
