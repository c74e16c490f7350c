import Turnstile.Proofs.Event.Finite

/-!
# Weights of drops read back

A drop that is handed on is written out with the shortest digits of its weight.  The reader that
gets the text computes the weight from those digits with a rounding at each step, and so it may
get another number than the one that was written.  All else of the event is read back.

Main results:

- `Event.parse_encode_reweighed`: a drop is read back but for its weight.
- `Event.parse_encode_weighed`: how the weight is read back, and which weights survive.
-/

namespace Turnstile

open Json Binary64

/-! ## Another weight -/

/-- The text of a finite number is read as the number that its digits make up. -/
theorem Json.Value.readsAs_real {x y : Binary64} (hx : x.isFinite = true)
    (hread : readBack? x = some y) :
    (Value.number (.real x)).ReadsAs (.number (.real y)) := by
  obtain ⟨numeral, hbytes, hvalue⟩ := Number.exists_numeral_real hx
  refine ⟨.number numeral, hbytes, ?_⟩
  rw [Tree.value?, hvalue, hread]
  rfl

/-- A drop claim with another weight. -/
def DropClaim.reweigh (claim : DropClaim) (y : Binary64) : DropClaim :=
  { claim with weight := some y }

/-- A drop of an event with another weight. -/
def Event.reweigh (event : Event) (claim : DropClaim) (y : Binary64) : Event :=
  { event with payload := .dropClaim (claim.reweigh y) }

/-- Strings and integers in range are read back, null as well. -/
theorem Json.Value.readsAs_ofOption (s? : Option String) :
    (Value.ofOption .text s?).ReadsAs (Value.ofOption .text s?) := by
  refine Value.exists_tree _ ?_
  cases s? <;> trivial

namespace Event

variable {body : List UInt8} {event : Event} {claim : DropClaim} {x y : Binary64}

/-- What is written for a drop with a weight is a text of the drop with the weight that is read
back. -/
theorem readsAs_reweigh (hclaim : event.payload = .dropClaim claim)
    (hweight : claim.weight = some x) (hx : x.isFinite = true) (htime : IsInt64 event.timestamp)
    (hread : readBack? x = some y) :
    event.toJson.ReadsAs (event.reweigh claim y).toJson := by
  have hpayload : (Value.object event.payload.members).ReadsAs
      (.object (event.reweigh claim y).payload.members) := by
    rw [hclaim]
    refine MembersReadAs.object (.cons _ (Value.exists_tree _ trivial) (.cons _ ?_
      (.cons _ (Value.readsAs_ofOption _) .nil)))
    rw [hweight]
    exact Value.readsAs_real hx hread
  have hkind : (Value.text event.kind.name).ReadsAs
      (.text (event.reweigh claim y).kind.name) := by
    rw [Event.kind, hclaim]
    exact Value.exists_tree _ trivial
  rw [toJson_eq, toJson_eq]
  exact MembersReadAs.object (.cons _ hkind (.cons _ (Value.exists_tree _ trivial)
    (.cons _ (Value.exists_tree _ htime.rereads) (.cons _ hpayload .nil))))

/-- A drop that was read from a body is read back from the text that is written for it, with the
weight that the digits make up. -/
theorem parse_encode_reweighed (hparse : parse body = .ok event)
    (hclaim : event.payload = .dropClaim claim) (hweight : claim.weight = some x)
    (hread : readBack? x = some y) :
    parse (Text.Utf8.encodeString event.toJson.toText) = .ok (event.reweigh claim y) := by
  obtain ⟨envelope, henvelope, hchecks⟩ := envelope_of_parse hparse
  obtain ⟨hplayer, -, -, -, hnames, -, hplayerId, htimestamp⟩ := ofEnvelope_eq_ok_iff.mp hchecks
  have htime : IsInt64 event.timestamp := htimestamp ▸ Envelope.isInt64_of_read henvelope
  have hx := weight_isFinite hparse hclaim x hweight
  have htext := read_of_readsAs (readsAs_reweigh hclaim hweight hx htime hread) htime
  have hid : isValidPlayerId event.playerId = true := hplayerId ▸ hplayer
  rw [hclaim] at hnames
  rw [parse, htext]
  refine ofEnvelope_eq_ok_iff.mpr ⟨hid, .dropClaimed, rfl, ?_, hnames, ?_, rfl, rfl⟩
  · exact map_eq_ok_iff.mpr ⟨_, (claim.reweigh y).ofMembers_members, rfl⟩
  · exact Int.lt_irrefl 0

/-- A drop is read back as it is just if its weight is. -/
theorem parse_encode_eq_iff (hparse : parse body = .ok event)
    (hclaim : event.payload = .dropClaim claim) (hweight : claim.weight = some x) :
    parse (Text.Utf8.encodeString event.toJson.toText) = .ok event ↔ readBack? x = some x := by
  have hx := weight_isFinite hparse hclaim x hweight
  obtain ⟨y, hread⟩ := Option.isSome_iff_exists.mp (readBack?_isSome hx)
  rw [parse_encode_reweighed hparse hclaim hweight hread, hread, Except.ok.injEq, Option.some_inj]
  constructor
  · intro h
    have hpayload : Payload.dropClaim (claim.reweigh y) = .dropClaim claim :=
      (congrArg Event.payload h).trans hclaim
    have hsame := congrArg DropClaim.weight (Payload.dropClaim.inj hpayload)
    exact Option.some_inj.mp (hsame.trans hweight)
  · rintro rfl
    obtain ⟨drop, weight, source⟩ := claim
    obtain ⟨player, time, payload⟩ := event
    simp only at hclaim hweight
    subst hclaim hweight
    rfl

/-- A drop with a weight that was read from a body is always read back from the text that is
written for it, and but for the weight it is the same.  The weight is the number that the written
digits make up, which is as near as a few roundings allow.  It is the same where the digits and
their power are exact; and a whole number up to `2 ^ 53` is the same unless it is lost by a tenth
of its tenfold. -/
theorem parse_encode_weighed (hparse : parse body = .ok event)
    (hclaim : event.payload = .dropClaim claim) (hweight : claim.weight = some x) :
    (∃ y, parse (Text.Utf8.encodeString event.toJson.toText) = .ok (event.reweigh claim y) ∧
      readBack? x = some y ∧ y.isFinite = true ∧
      |y.toRat - x.toRat| ≤ |x.toRat| / 2 ^ 48 + 4 / unitsInOne) ∧
    (x.written.1 ≤ 2 ^ 53 → x.written.2.natAbs ≤ 22 →
      parse (Text.Utf8.encodeString event.toJson.toText) = .ok event) ∧
    ∀ n : Int, n.natAbs ≤ 2 ^ 53 → x = ofInt n →
      (parse (Text.Utf8.encodeString event.toJson.toText) = .ok event ↔
        ¬LosesTenth n.natAbs) := by
  have hx := weight_isFinite hparse hclaim x hweight
  have hsame := parse_encode_eq_iff hparse hclaim hweight
  refine ⟨?_, fun hdigits hpower => hsame.mpr (readBack?_of_exact hx hdigits hpower), ?_⟩
  · obtain ⟨y, hread⟩ := Option.isSome_iff_exists.mp (readBack?_isSome hx)
    obtain ⟨hfinite, hnear⟩ := readBack?_near hx hread
    exact ⟨y, parse_encode_reweighed hparse hclaim hweight hread, hread, hfinite, hnear⟩
  · rintro n hn rfl
    exact hsame.trans (readBack?_ofInt_eq_iff hn)

/-- A drop of weight minus seven, whose digits `70` and power `-1` are exact, comes back as it
was. -/
theorem parse_encode_weighed_exact :
    let body := Text.Utf8.encodeString
      ("\x7b\"type\":\"drop_claimed\",\"playerId\":\"p\",\"ts\":0," ++
        "\"payload\":\x7b\"dropId\":\"d\",\"weight\":-7\x7d\x7d")
    let event : Event := ⟨"p", 0, .dropClaim ⟨"d", some (ofInt (-7)), none⟩⟩
    parse body = .ok event ∧ (ofInt (-7)).written.1 ≤ 2 ^ 53 ∧
      (ofInt (-7)).written.2.natAbs ≤ 22 ∧ (-7 : Int).natAbs ≤ 2 ^ 53 ∧
      parse (Text.Utf8.encodeString event.toJson.toText) = .ok event := by
  intro body event
  have hparse : parse body = .ok event := by decide +kernel
  have hwritten := written_ofInt (by decide : (-7 : Int).natAbs ≤ 2 ^ 53)
  have hdigits : (ofInt (-7)).written.1 ≤ 2 ^ 53 := by
    rw [hwritten]
    decide
  have hpower : (ofInt (-7)).written.2.natAbs ≤ 22 := by
    rw [hwritten]
    decide
  exact ⟨hparse, hdigits, hpower, by decide,
    (parse_encode_weighed hparse rfl rfl).2.1 hdigits hpower⟩

/-- The least odd number whose tenfold does not fit comes back as the next number, which is a
fourth more. -/
theorem parse_encode_lostTenth :
    let body := Text.Utf8.encodeString
      ("\x7b\"type\":\"drop_claimed\",\"playerId\":\"p\",\"ts\":0," ++
        "\"payload\":\x7b\"dropId\":\"d\",\"weight\":1801439850948199\x7d\x7d")
    let event : Event := ⟨"p", 0, .dropClaim ⟨"d", some (ofInt 1801439850948199), none⟩⟩
    let other : Binary64 := ⟨4835064559944964509⟩
    parse body = .ok event ∧ (1801439850948199 : Int).natAbs ≤ 2 ^ 53 ∧
      parse (Text.Utf8.encodeString event.toJson.toText) =
        .ok ⟨"p", 0, .dropClaim ⟨"d", some other, none⟩⟩ ∧
      other ≠ ofInt 1801439850948199 := by
  decide +kernel

end Event

end Turnstile
