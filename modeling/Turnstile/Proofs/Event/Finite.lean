import Turnstile.Proofs.Event.RoundTrip
import Turnstile.Proofs.Json.Drift

/-!
# Numbers that are read are finite

A text has no way to say an infinity: a number that is out of range is a fault, and all that a
reader computes from digits in range is finite.  So is the weight of a drop, which may also be
the number nearest to an integer.

Main definitions:

- `Json.Number.Finite`: a number that is in range.

Main results:

- `Json.finite_of_readNumber`: a number that is read is finite.
- `Event.weight_isFinite`: the weight of a drop that is read is finite.
-/

namespace Turnstile

namespace Json

open Binary64

/-! ## Numbers -/

/-- An integer that fits in sixty-four bits and its sign, or a finite binary64 number. -/
def Number.Finite : Number → Prop
  | .int n => n.natAbs ≤ significandLimit
  | .real x => x.isFinite = true

/-! ## Literals -/

/-- Digits are gathered as long as they fit. -/
theorem gather_le {significand : Nat} (hsignificand : significand ≤ significandLimit)
    (digits : List UInt8) : (gather significand digits).1 ≤ significandLimit := by
  induction digits generalizing significand with
  | nil => exact hsignificand
  | cons d digits ih =>
      rw [gather]
      split
      · exact hsignificand
      · exact ih (Nat.not_lt.mp ‹_›)

theorem Literal.finite_signed (literal : Literal) {x : Binary64} (hx : x.isFinite = true) :
    (literal.signed x).Finite := by
  unfold Literal.signed
  split
  · exact isFinite_neg hx
  · exact hx

/-- A literal in range has a finite value. -/
theorem Literal.finite_of_value {literal : Literal} {rest : List UInt8} {n : Number}
    (h : literal.value rest = .ok n) : n.Finite := by
  have hwhole := gather_le (Nat.zero_le _) literal.whole
  have hfraction := gather_le hwhole literal.fraction
  unfold Literal.value at h
  dsimp only at h
  split at h
  · obtain rfl := Except.ok.inj h
    unfold Literal.integer
    split
    · exact hwhole
    split
    · exact literal.finite_signed (isFinite_ofParts (nearest_lt_of_fits hwhole))
    · simpa [Number.Finite] using hwhole
  split at h
  · split at h
    · contradiction
    · obtain rfl := Except.ok.inj h
      exact literal.finite_signed (by decide)
  split at h
  · rename_i hscale
    obtain rfl := Except.ok.inj h
    exact literal.finite_signed (scale?_isFinite hfraction hscale)
  · contradiction

/-- A number that is read is finite. -/
theorem finite_of_readNumber {negative : Bool} {bytes rest : List UInt8} {n : Number}
    (h : readNumber negative bytes = .ok (n, rest)) : n.Finite := by
  unfold readNumber at h
  simp only [bind_eq_ok_iff] at h
  obtain ⟨⟨literal, left⟩, -, number, hvalue, h⟩ := h
  cases h
  exact Literal.finite_of_value hvalue

/-! ## Values -/

/-- A value that is finite if it is a number. -/
def Value.Bounded : Value → Prop
  | .number n => n.Finite
  | _ => True

/-- A scalar that is a number is finite. -/
theorem finite_of_readScalar {bytes rest : List UInt8} {n : Number}
    (h : readScalar bytes = .ok (.number n, rest)) : n.Finite := by
  have hnumber {negative : Bool} {text : List UInt8}
      (hmap : ((readNumber negative text).map fun read => (Got.number read.1, read.2)) =
        .ok (.number n, rest)) : n.Finite := by
    obtain ⟨⟨number, left⟩, hread, hsame⟩ := map_eq_ok_iff.mp hmap
    cases hsame
    exact finite_of_readNumber hread
  unfold readScalar at h
  split at h
  · contradiction
  split at h
  · rename_i b _ _ letters word hword
    obtain ⟨left, -, hsame⟩ := map_eq_ok_iff.mp h
    unfold wordOf? at hword
    grind
  split at h
  · exact hnumber h
  split at h
  · exact hnumber h
  split at h
  · obtain ⟨⟨text, left⟩, -, hsame⟩ := map_eq_ok_iff.mp h
    simp at hsame
  split at h
  · simp at h
  split at h
  · simp at h
  · contradiction

/-- A value that is read is finite if it is a number. -/
theorem bounded_of_readValue {room : Nat} {bytes rest : List UInt8} {value : Value}
    (h : readValue room bytes = .ok (value, rest)) : value.Bounded := by
  unfold readValue at h
  rw [bind_eq_ok_iff] at h
  obtain ⟨⟨got, left⟩, hscalar, h⟩ := h
  cases got with
  | number n =>
      cases h
      exact finite_of_readScalar hscalar
  | null | bool b | text s =>
      cases h
      trivial
  | sequence =>
      cases room with
      | zero => contradiction
      | succ room =>
          simp only [bind_eq_ok_iff] at h
          obtain ⟨_, -, h⟩ := h
          cases h
          trivial
  | map =>
      cases room with
      | zero => contradiction
      | succ room =>
          simp only [bind_eq_ok_iff] at h
          obtain ⟨_, -, h⟩ := h
          cases h
          trivial

/-- What holds of every value that is read holds of the members of an object. -/
theorem forall_of_readEntries {α : Type} {P : α → Prop} {value : Reader α}
    (hvalue : ∀ bytes a rest, value bytes = .ok (a, rest) → P a) {fuel : Nat}
    {seen members : List (String × α)} {bytes rest : List UInt8}
    (hseen : ∀ member ∈ seen, P member.2)
    (h : readEntries value fuel seen bytes = .ok (members, rest)) :
    ∀ member ∈ members, P member.2 := by
  induction fuel generalizing seen bytes with
  | zero => contradiction
  | succ fuel ih =>
      rw [readEntries, bind_eq_ok_iff] at h
      obtain ⟨next, -, h⟩ := h
      cases next with
      | closed left =>
          cases h
          simpa using hseen
      | entry bytes =>
          simp only [bind_eq_ok_iff] at h
          obtain ⟨⟨name, left⟩, -, left', -, ⟨a, more⟩, hread, h⟩ := h
          exact ih (List.forall_mem_cons.mpr ⟨hvalue _ _ _ hread, hseen⟩) h

/-- The members of an object that is read are finite where they are numbers. -/
theorem bounded_of_readMembers {room : Nat} {bytes rest : List UInt8} {members : Members}
    (h : readMembers room bytes = .ok (members, rest)) :
    ∀ member ∈ members, member.2.Bounded := by
  unfold readMembers at h
  rw [bind_eq_ok_iff] at h
  obtain ⟨⟨got, left⟩, -, h⟩ := h
  cases got with
  | map =>
      cases room with
      | zero => contradiction
      | succ room =>
          exact forall_of_readEntries (fun _ _ _ hread => bounded_of_readValue hread) (by simp) h
  | _ => contradiction

end Json

open Json

/-! ## Weights -/

/-- The payload of an envelope that is read is finite where it has numbers. -/
theorem Envelope.bounded_of_read {body : List UInt8} {envelope : Envelope}
    (h : Envelope.read body = .ok envelope) :
    ∀ member ∈ envelope.payload, member.2.Bounded := by
  have hdraft : ∀ members ∈ envelope.draft.payload, ∀ member ∈ members, member.2.Bounded := by
    refine draft_of_read
      (P := fun draft => ∀ members ∈ draft.payload, ∀ member ∈ members, member.2.Bounded)
      (by simp [shape]) ?_ h
    intro draft next hdraft hfilled
    cases hfilled with
    | payload hread =>
        intro members hmembers
        obtain rfl := Option.some.inj hmembers
        exact bounded_of_readMembers hread
    | _ => exact hdraft
  exact hdraft _ rfl

/-- A number that is accepted for a finite value is finite. -/
theorem isFinite_of_toReal {value : Value} (hvalue : value.Bounded) {x : Binary64}
    (h : value.got.toReal = .ok x) : x.isFinite = true := by
  cases value with
  | number n =>
      cases n with
      | int n =>
          obtain rfl := Except.ok.inj h
          exact Binary64.isFinite_ofParts (nearest_lt_of_fits hvalue)
      | real y =>
          obtain rfl := Except.ok.inj h
          exact hvalue
  | _ => contradiction

/-- The weight of a drop is finite when the members are. -/
theorem DropClaim.weight_isFinite {members : Members} {claim : DropClaim}
    (hmembers : ∀ member ∈ members, member.2.Bounded)
    (h : DropClaim.ofMembers members = .ok claim) : ∀ x ∈ claim.weight, x.isFinite = true := by
  simp only [ofMembers, bind_eq_ok_iff, require_eq_ok_iff] at h
  obtain ⟨drop?, -, source?, -, weight?, hweight, drop, rfl, hclaim⟩ := h
  obtain rfl := Except.ok.inj hclaim
  intro x hx
  obtain rfl : weight? = some (some x) := by
    cases weight? with
    | none => contradiction
    | some weight => exact congrArg some hx
  obtain ⟨value, hvalue, haccept⟩ := mem_of_member? hweight
  exact isFinite_of_toReal (hmembers _ hvalue) (accept_of_orNull haccept x rfl)

/-- The weight of a drop that is read from a body is finite. -/
theorem Event.weight_isFinite {body : List UInt8} {event : Event}
    (hparse : Event.parse body = .ok event) {claim : DropClaim}
    (hclaim : event.payload = .dropClaim claim) : ∀ x ∈ claim.weight, x.isFinite = true := by
  obtain ⟨envelope, hread, hchecks⟩ := Event.envelope_of_parse hparse
  obtain ⟨-, kind, -, hpayload, -⟩ := Event.ofEnvelope_eq_ok_iff.mp hchecks
  rw [hclaim] at hpayload
  cases kind with
  | dropClaimed =>
      obtain ⟨found, hfound, hsame⟩ := map_eq_ok_iff.mp hpayload
      obtain rfl := Payload.dropClaim.inj hsame
      exact DropClaim.weight_isFinite (Envelope.bounded_of_read hread) hfound
  | progression | bossKill =>
      obtain ⟨_, -, hsame⟩ := map_eq_ok_iff.mp hpayload
      contradiction

end Turnstile
