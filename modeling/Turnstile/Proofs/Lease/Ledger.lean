import Turnstile.Proofs.Lease.Ownership

/-!
# The ledger of leases

Who was granted which key, and when, can be written down from the operations and
answers of a run alone.  The store writes down less: one lease for each key, and
leases that ran out are forgotten.  Yet what it remembers is always enough to tell
whether a key is held.

Main definitions and results:

- `LeaseDesk.Ledger`, `LeaseDesk.Ledger.InForce`: who holds what since when, and
  whether a key is held.
- `LeaseDesk.Ledger.after`: the ledger of a run.
- `LeaseDesk.Faithful`, `LeaseDesk.Faithful.isHeld_iff`: the store says what the
  ledger says, from the clock on.
- `LeaseDesk.Faithful.grant`, `LeaseDesk.Faithful.release`, `LeaseDesk.Faithful.purge`:
  leases that are granted, given back and dropped leave the store in agreement with the
  ledger, at any reading that is not past the clock.
- `LeaseDesk.Faithful.step`: so does every operation of an orderly run.
-/

namespace Turnstile
namespace LeaseDesk

/-- Giving a guard back reads no clock. -/
instance : Timed Op where
  time?
    | .acquire _ now | .purge now => some now
    | .release _ => none

/-! ## The ledger -/

/-- A key that somebody was granted, and when. -/
structure Holding where
  key : String
  since : Instant
deriving DecidableEq, Repr

/-- What was granted in a run, by number; `none` where the guard was given back. -/
abbrev Ledger := List (Option Holding)

namespace Ledger

/-- What an operation and its answer change in the ledger. -/
def note (ledger : Ledger) : Op → Answer → Ledger
  | .acquire key now, .granted _ => ledger ++ [some ⟨key, now⟩]
  | .release number, _ => ledger.set number none
  | _, _ => ledger

/-- The ledger after a run, from its operations and their answers. -/
def after (ledger : Ledger) : List Op → List Answer → Ledger
  | op :: ops, answer :: answers => (ledger.note op answer).after ops answers
  | _, _ => ledger

/-- A guard for the key is out, and a lifetime has not passed since it was given. -/
def InForce (ttl : Nat) (ledger : Ledger) (key : String) (now : Instant) : Prop :=
  ∃ holding : Holding, some holding ∈ ledger ∧ holding.key = key ∧ now < holding.since + ttl

end Ledger

/-! ## What the store remembers -/

/-- The store agrees with the ledger at a clock that no reading has passed: the numbers
that are out have the keys of the ledger, a lease lasts as long as the holding of its guard,
and a holding that is in force at the clock has its lease. -/
structure Faithful (ledger : Ledger) (desk : LeaseDesk) (clock : Instant) : Prop
    extends desk.Owned where
  length : ledger.length = desk.guards.length
  keys : ∀ n, (ledger.getD n none).map Holding.key = (desk.held? n).map Guard.key
  lasting : ∀ {n : Nat} {key : String} {holding : Holding} {lease : Lease},
    desk.held? n = some ⟨key, lease.id⟩ → ledger.getD n none = some holding →
      desk.store.live.get? key = some lease → lease.expiry = holding.since + desk.store.ttl
  kept : ∀ {n : Nat} {guard : Guard} {holding : Holding},
    desk.held? n = some guard → ledger.getD n none = some holding →
      clock < holding.since + desk.store.ttl →
        desk.store.live.get? guard.key = some ⟨guard.id, holding.since + desk.store.ttl⟩

/-- A new store agrees with the empty ledger at every clock. -/
theorem faithful_new (ttl : Nat) (clock : Instant) : Faithful [] (new ttl) clock where
  toOwned := owned_new ttl
  length := rfl
  keys := by simp [held?, new]
  lasting := by simp [held?, new]
  kept := by simp [held?, new]

namespace Faithful

variable {ledger : Ledger} {desk : LeaseDesk} {clock : Instant}

/-- A number that is out stands in the ledger with the same key. -/
theorem holding_of_held? (h : Faithful ledger desk clock) {n : Nat} {guard : Guard}
    (hout : desk.held? n = some guard) :
    ∃ holding, ledger.getD n none = some holding ∧ holding.key = guard.key := by
  have hkeys := h.keys n
  rw [hout] at hkeys
  exact Option.map_eq_some_iff.mp hkeys

/-- A number in the ledger is out with the same key. -/
theorem held?_of_holding (h : Faithful ledger desk clock) {n : Nat} {holding : Holding}
    (hnoted : ledger.getD n none = some holding) :
    ∃ guard, desk.held? n = some guard ∧ guard.key = holding.key := by
  have hkeys := h.keys n
  rw [hnoted] at hkeys
  exact Option.map_eq_some_iff.mp hkeys.symm

/-- At every reading from the clock on, the store says of a key what the ledger says. -/
theorem isHeld_iff (h : Faithful ledger desk clock) {now : Instant} (hnow : clock ≤ now)
    (key : String) :
    desk.store.isHeld key now = true ↔ ledger.InForce desk.store.ttl key now := by
  rw [LeaseStore.isHeld_iff]
  constructor
  · rintro ⟨lease, hlease, hearly⟩
    obtain ⟨n, hout⟩ := h.owner hlease
    obtain ⟨holding, hnoted, hkey⟩ := h.holding_of_held? hout
    rw [h.lasting hout hnoted hlease] at hearly
    exact ⟨holding, some_mem_iff_getD.mpr ⟨n, hnoted⟩, hkey, hearly⟩
  · rintro ⟨holding, hmem, hkey, hearly⟩
    obtain ⟨n, hnoted⟩ := some_mem_iff_getD.mp hmem
    obtain ⟨guard, hout, hsame⟩ := h.held?_of_holding hnoted
    have hlease := h.kept hout hnoted (Int.lt_of_le_of_lt hnow hearly)
    rw [hsame, hkey] at hlease
    exact ⟨_, hlease, hearly⟩

/-- A store that agrees with the ledger at the clock agrees with it at every later clock. -/
theorem wait (h : Faithful ledger desk clock) {now : Instant} (hnow : clock ≤ now) :
    Faithful ledger desk now :=
  { h with kept := fun hout hnoted hlate => h.kept hout hnoted (Int.lt_of_le_of_lt hnow hlate) }

/-- Nobody has a holding in force at the clock on a key that is free at an earlier reading. -/
theorem key_ne_of_free (h : Faithful ledger desk clock) {key : String} {now : Instant}
    (hnow : now ≤ clock) (hfree : desk.store.isHeld key now = false) {n : Nat} {guard : Guard}
    {holding : Holding} (hout : desk.held? n = some guard)
    (hnoted : ledger.getD n none = some holding)
    (hlate : clock < holding.since + desk.store.ttl) : guard.key ≠ key := by
  intro hsame
  have hlease := h.kept hout hnoted hlate
  rw [hsame] at hlease
  have hheld : desk.store.isHeld key now = true :=
    LeaseStore.isHeld_iff.mpr ⟨_, hlease, Int.lt_of_le_of_lt hnow hlate⟩
  rw [hfree] at hheld
  contradiction

/-- A lease that is granted is the one of its holding.  No other holding of the key is in
force at the clock, since the key was free at a reading that is not past it, and so none that
is in force loses its lease. -/
theorem grant (h : Faithful ledger desk clock) (hids : 0 < desk.idsLeft) {key : String}
    {now expiry : Instant} (hnow : now ≤ clock) (hfree : desk.store.isHeld key now = false)
    (hend : now.later? desk.store.ttl = some expiry) :
    Faithful (ledger ++ [some ⟨key, now⟩])
      ⟨{ desk.store with
          lastId := desk.store.lastId + 1
          live := desk.store.live.insert key ⟨desk.store.lastId + 1, expiry⟩ },
        desk.guards ++ [some ⟨key, desk.store.lastId + 1⟩]⟩ clock := by
  have hexpiry := Instant.eq_add_of_later? hend
  have howned := h.toOwned.grant hids key expiry
  refine { howned with length := ?_, keys := ?_, lasting := ?_, kept := ?_ }
  · simp [h.length]
  · intro n
    rw [held?_append, getD_append_slot, h.length]
    split
    · rfl
    · exact h.keys n
  · intro n other holding lease hout hnoted hlease
    rw [held?_append] at hout
    rw [getD_append_slot, h.length] at hnoted
    rw [Table.get?_insert] at hlease
    split at hlease
    · rename_i hsame
      obtain rfl := Option.some.inj hlease
      -- The new id has one owner, and that has the last number.
      have hlast : n = desk.guards.length :=
        howned.distinct ((held?_append desk _ _ n).trans hout)
          ((held?_append desk _ _ desk.guards.length).trans (if_pos rfl)) rfl
      rw [if_pos hlast] at hnoted
      obtain rfl := Option.some.inj hnoted
      exact hexpiry
    · rename_i hother
      split at hout
      · exact absurd (congrArg Guard.key (Option.some.inj hout)).symm hother
      · rename_i hold
        rw [if_neg hold] at hnoted
        exact h.lasting hout hnoted hlease
  · intro n guard holding hout hnoted hlate
    rw [held?_append] at hout
    rw [getD_append_slot, h.length] at hnoted
    split at hout
    · rename_i hlast
      rw [if_pos hlast] at hnoted
      obtain rfl := Option.some.inj hout
      obtain rfl := Option.some.inj hnoted
      rw [Table.get?_insert, if_pos rfl, hexpiry]
    · rename_i hold
      rw [if_neg hold] at hnoted
      have hother := h.key_ne_of_free hnow hfree hout hnoted hlate
      rw [Table.get?_insert, if_neg hother]
      exact h.kept hout hnoted hlate

/-- A guard that is taken back takes its holding with it and leaves the leases of the
others. -/
theorem release (h : Faithful ledger desk clock) {number : Nat} {guard : Guard}
    (hout : desk.held? number = some guard) :
    Faithful (ledger.set number none)
      ⟨desk.store.release guard, desk.guards.set number none⟩ clock := by
  refine { h.toOwned.release hout with length := ?_, keys := ?_, lasting := ?_, kept := ?_ }
  · simp [h.length]
  · intro n
    rw [held?_set, getD_set_slot]
    split
    · rfl
    · exact h.keys n
  · intro n key holding lease hother hnoted hlease
    rw [held?_set] at hother
    rw [getD_set_slot] at hnoted
    rw [LeaseStore.get?_release] at hlease
    split at hother
    · contradiction
    · rename_i hne
      rw [if_neg hne] at hnoted
      split at hlease
      · contradiction
      · simpa using h.lasting hother hnoted hlease
  · intro n other holding hother hnoted hlate
    rw [held?_set] at hother
    rw [getD_set_slot] at hnoted
    split at hother
    · contradiction
    · rename_i hne
      rw [if_neg hne] at hnoted
      rw [LeaseStore.ttl_release] at hlate ⊢
      have hlease := h.kept hother hnoted hlate
      have hmine : ¬(other.key = guard.key ∧
          (desk.store.live.get? guard.key).map Lease.id = some guard.id) := by
        rintro ⟨hsame, hid⟩
        rw [← hsame, hlease] at hid
        exact hne (h.distinct hother hout (Option.some.inj hid))
      rw [LeaseStore.get?_release, if_neg hmine]
      exact hlease

/-- Dropping leases that ran out by a reading not past the clock drops none that is in force
at the clock. -/
theorem purge (h : Faithful ledger desk clock) {now : Instant} (hnow : now ≤ clock) :
    Faithful ledger ⟨(desk.store.purge now).2, desk.guards⟩ clock := by
  refine { h.toOwned.purge now with
    length := h.length
    keys := h.keys
    lasting := fun hout hnoted hlease =>
      h.lasting hout hnoted (LeaseStore.get?_of_get?_purge hlease)
    kept := ?_ }
  intro n guard holding hout hnoted hlate
  have hlease := h.kept hout hnoted hlate
  have hearly := Int.lt_of_le_of_lt hnow hlate
  rw [LeaseStore.get?_purge, hlease]
  exact Option.filter_eq_some_iff.mpr ⟨rfl, by simpa using hearly⟩

/-- Giving back a guard that is not out changes nothing in the ledger. -/
theorem absent (h : Faithful ledger desk clock) {number : Nat}
    (hout : desk.held? number = none) : Faithful (ledger.set number none) desk clock := by
  have hsame : ∀ n, (ledger.set number none).getD n none = ledger.getD n none := by
    intro n
    rw [getD_set_slot]
    split
    · rename_i hn
      have hkeys := h.keys number
      rw [hout] at hkeys
      rw [hn, Option.map_eq_none_iff.mp hkeys]
    · rfl
  refine { h.toOwned with length := ?_, keys := ?_, lasting := ?_, kept := ?_ }
  · simp [h.length]
  · intro n
    rw [hsame]
    exact h.keys n
  · intro n key holding lease hother hnoted
    rw [hsame] at hnoted
    exact h.lasting hother hnoted
  · intro n guard holding hother hnoted
    rw [hsame] at hnoted
    exact h.kept hother hnoted

/-- Every operation keeps the store in agreement with the ledger, as long as ids are
left, no lease would end beyond the clock, and the clock does not go back. -/
theorem step (h : Faithful ledger desk clock) {op : Op}
    (hids : acquisitions [(desk.step op).1] ≤ desk.idsLeft)
    (hrange : ∀ key now, op = .acquire key now → (now.later? desk.store.ttl).isSome)
    (hclock : clock ≤ (Timed.time? op).getD clock) :
    Faithful (ledger.note op (desk.step op).1) (desk.step op).2
      ((Timed.time? op).getD clock) := by
  have hends := desk.stepped op
  generalize (desk.step op).1 = answer at hids hends ⊢
  generalize (desk.step op).2 = after at hends ⊢
  cases hends with
  | granted hfree hend => exact (h.wait hclock).grant hids (Int.le_refl _) hfree hend
  | duplicate => exact h.wait hclock
  | stuck hfree hend => simpa [hend] using hrange _ _ rfl
  | released hout => exact h.release hout
  | absent hout => exact h.absent hout
  | purged => exact (h.wait hclock).purge (Int.le_refl _)

end Faithful

end LeaseDesk
end Turnstile
