import Mathlib.Logic.Equiv.Basic
import Turnstile.Proofs.Lease.Ledger

/-!
# Guards under other numbers

A desk numbers its guards in the order in which it gave them out.  Whoever keeps them in
places of his own, some of which are empty, has the same desk under other numbers, and what
the ledger says of it stays true.

Main results:

- `LeaseDesk.Faithful.renumber`: numbers can be exchanged.
- `LeaseDesk.Faithful.widen`, `LeaseDesk.Faithful.seat`: a new place is empty, and a guard
  that is given out can take an empty place.
- `LeaseDesk.Faithful.stuck`: an id that is used up for nothing does no harm.
-/

namespace Turnstile

/-! ## Places -/

section Places

variable {α : Type}

/-- A place that keeps what it has. -/
theorem set_getD_self (slots : List (Option α)) (place : Nat) :
    slots.set place (slots.getD place none) = slots := by
  by_cases hin : place < slots.length
  · simp [hin]
  · exact List.set_eq_of_length_le (Nat.not_lt.mp hin)

/-- A new place is empty. -/
theorem getD_append_none (slots : List (Option α)) (number : Nat) :
    (slots ++ [none]).getD number none = slots.getD number none := by
  by_cases hold : number < slots.length
  · simp [List.getElem?_append_left hold]
  · rw [List.getD_eq_getElem?_getD, List.getD_eq_getElem?_getD,
      List.getElem?_append_right (Nat.not_lt.mp hold),
      List.getElem?_eq_none (Nat.not_lt.mp hold)]
    cases number - slots.length <;> simp

/-- What takes an empty place has come last and changed places. -/
theorem getD_set_eq_swap {slots : List (Option α)} {place : Nat} (hplace : place < slots.length)
    (hempty : slots.getD place none = none) (a : α) (number : Nat) :
    (slots.set place (some a)).getD number none =
      (slots ++ [some a]).getD (Equiv.swap place slots.length number) none := by
  rw [getD_append_slot]
  by_cases hsame : number = place
  · subst hsame
    simp [hplace]
  · have hother : (slots.set place (some a)).getD number none = slots.getD number none := by
      simp [Ne.symm hsame]
    rw [hother]
    by_cases hlast : number = slots.length
    · subst hlast
      rw [Equiv.swap_apply_right, if_neg (Nat.ne_of_lt hplace), hempty]
      simp
    · rw [Equiv.swap_apply_of_ne_of_ne hsame hlast, if_neg hlast]

end Places

/-! ## The desk -/

namespace LeaseDesk
namespace Faithful

variable {ledger : Ledger} {desk : LeaseDesk} {clock : Instant}

/-- Guards and holdings that exchange their numbers alike still go together. -/
theorem renumber (h : Faithful ledger desk clock) {guards : List (Option Guard)} {other : Ledger}
    (rename : Equiv.Perm Nat) (hlength : other.length = guards.length)
    (hguards : ∀ n, guards.getD n none = desk.guards.getD (rename n) none)
    (hledger : ∀ n, other.getD n none = ledger.getD (rename n) none) :
    Faithful other ⟨desk.store, guards⟩ clock := by
  have hheld : ∀ n, (⟨desk.store, guards⟩ : LeaseDesk).held? n = desk.held? (rename n) := hguards
  refine { distinct := ?_, issued := ?_, owner := ?_, length := hlength, keys := ?_,
           lasting := ?_, kept := ?_ }
  · intro m n guard guard' hm hn hid
    rw [hheld] at hm hn
    exact rename.injective (h.distinct hm hn hid)
  · intro n guard hn
    rw [hheld] at hn
    exact h.issued hn
  · intro key lease hlease
    obtain ⟨n, hn⟩ := h.owner hlease
    exact ⟨rename.symm n, by rw [hheld, rename.apply_symm_apply, hn]⟩
  · intro n
    rw [hheld, hledger]
    exact h.keys (rename n)
  · intro n key holding lease hn hnoted
    rw [hheld] at hn
    rw [hledger] at hnoted
    exact h.lasting hn hnoted
  · intro n guard holding hn hnoted
    rw [hheld] at hn
    rw [hledger] at hnoted
    exact h.kept hn hnoted

/-- A new place is empty and changes nothing. -/
theorem widen (h : Faithful ledger desk clock) :
    Faithful (ledger ++ [none]) ⟨desk.store, desk.guards ++ [none]⟩ clock :=
  h.renumber (Equiv.refl Nat) (by simp [h.length]) (getD_append_none _) (getD_append_none _)

/-- A lease that is granted to an empty place is the one of its holding. -/
theorem seat (h : Faithful ledger desk clock) (hids : 0 < desk.idsLeft) {place : Nat}
    (hplace : place < desk.guards.length) (hempty : desk.held? place = none) {key : String}
    {now expiry : Instant} (hnow : now ≤ clock) (hfree : desk.store.isHeld key now = false)
    (hend : now.later? desk.store.ttl = some expiry) :
    Faithful (ledger.set place (some ⟨key, now⟩))
      ⟨{ desk.store with
          lastId := desk.store.lastId + 1
          live := desk.store.live.insert key ⟨desk.store.lastId + 1, expiry⟩ },
        desk.guards.set place (some ⟨key, desk.store.lastId + 1⟩)⟩ clock := by
  have hvacant : ledger.getD place none = none := by
    have hkeys := h.keys place
    rw [hempty] at hkeys
    exact Option.map_eq_none_iff.mp hkeys
  refine (h.grant hids hnow hfree hend).renumber (Equiv.swap place desk.guards.length)
    (by simp [h.length]) (getD_set_eq_swap hplace hempty _) ?_
  rw [← h.length]
  exact getD_set_eq_swap (h.length ▸ hplace) hvacant _

/-- An id that is used up without a lease leaves guards and leases together. -/
theorem stuck (h : Faithful ledger desk clock) (hids : 0 < desk.idsLeft) :
    Faithful ledger
      ⟨{ desk.store with lastId := desk.store.lastId + 1 }, desk.guards⟩ clock :=
  { h with toOwned := h.toOwned.stuck hids }

end Faithful
end LeaseDesk

end Turnstile
