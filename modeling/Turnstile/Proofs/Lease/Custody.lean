import Mathlib.Data.List.Nodup
import Mathlib.Data.List.Perm.Subperm
import Turnstile.Proofs.Lease.Ownership

/-!
# Every lease has one owner

A lease that is filed belongs to one guard that is out, whatever the clock reads: the
clock may go back, leases may run out and be taken over, and a lease may be refused
because it would end beyond the clock.  The owner alone can give it back; nobody else can
end it before it has run out.

Main definitions and results:

- `LeaseDesk.Owns`: a guard that is out is that of a lease.
- `LeaseDesk.Freed`: what can take a lease from its key.
- `LeaseDesk.get?_release_of_held?`, `LeaseDesk.freed_of_gone`: what giving a guard back,
  and what any operation, takes away.
- `LeaseDesk.Owned.run`: leases and owners stay together through every run.
- `LeaseDesk.Owned.size_le`: there are no more leases than guards that are out.
- `LeaseDesk.leases_have_one_owner`: after every run each lease has exactly one owner.
-/

namespace Turnstile
namespace LeaseDesk

variable {desk : LeaseDesk}

/-! ## Owners -/

/-- The guard of a number is out, and it is the one of the lease under a key. -/
def Owns (desk : LeaseDesk) (number : Nat) (key : String) (lease : Lease) : Prop :=
  desk.held? number = some ⟨key, lease.id⟩

instance (desk : LeaseDesk) (number : Nat) (key : String) (lease : Lease) :
    Decidable (desk.Owns number key lease) :=
  inferInstanceAs (Decidable (desk.held? number = some ⟨key, lease.id⟩))

/-- A guard is out under some number. -/
theorem mem_outstanding_iff {guard : Guard} :
    guard ∈ desk.outstanding ↔ ∃ number, desk.held? number = some guard := by
  unfold outstanding held?
  rw [← some_mem_iff_getD, List.mem_filterMap]
  constructor
  · rintro ⟨slot, hslot, rfl⟩
    exact hslot
  · intro hslot
    exact ⟨some guard, hslot, rfl⟩

/-- The owner of a lease is the only one. -/
theorem Owned.existsUnique_owner (h : desk.Owned) {key : String} {lease : Lease}
    (hlease : desk.store.live.get? key = some lease) :
    ∃! number, desk.Owns number key lease := by
  obtain ⟨number, howner⟩ := h.owner hlease
  refine ⟨number, howner, ?_⟩
  intro other hother
  exact h.distinct hother howner rfl

/-! ## What takes a lease away -/

/-- Giving a guard back takes the lease that it owns, and no other. -/
theorem get?_release_of_held? {number : Nat} {guard : Guard}
    (hout : desk.held? number = some guard) (key : String) :
    (desk.step (.release number)).2.store.live.get? key =
      (desk.store.live.get? key).filter fun lease => ¬desk.Owns number key lease := by
  have hends := desk.stepped (.release number)
  generalize (desk.step (.release number)).1 = answer at hends
  generalize (desk.step (.release number)).2 = after at hends ⊢
  cases hends with
  | absent hnone => simp [hout] at hnone
  | released hsome =>
      obtain rfl := Option.some.inj (hout.symm.trans hsome)
      rw [LeaseStore.get?_release]
      have howns (lease : Lease) :
          desk.Owns number key lease ↔ key = guard.key ∧ lease.id = guard.id := by
        unfold Owns
        rw [hout, Option.some.injEq, Guard.mk.injEq]
        exact and_congr eq_comm eq_comm
      cases hlease : desk.store.live.get? key with
      | none => simp
      | some lease =>
          rw [Option.filter_some]
          by_cases hkey : key = guard.key
          · subst hkey
            by_cases hid : lease.id = guard.id
            · simp [hlease, howns, hid]
            · simp [hlease, howns, hid]
          · simp [howns, hkey]

/-- What can take a lease from its key: its owner, or, once it has run out, a round of
dropping such leases and somebody who asks for the key. -/
inductive Freed (desk : LeaseDesk) (key : String) (lease : Lease) : Op → Prop
  | returned {number : Nat} (howner : desk.Owns number key lease) :
      Freed desk key lease (.release number)
  | purged {now : Instant} (hover : lease.expiry ≤ now) : Freed desk key lease (.purge now)
  | takenOver {now : Instant} (hover : lease.expiry ≤ now) :
      Freed desk key lease (.acquire key now)

/-- A lease that is no longer under its key was given back by its owner, or had run out and
was dropped or gave way. -/
theorem freed_of_gone {op : Op} {key : String} {lease : Lease}
    (hlease : desk.store.live.get? key = some lease)
    (hgone : (desk.step op).2.store.live.get? key ≠ some lease) : desk.Freed key lease op := by
  have hends := desk.stepped op
  have hreturn (number : Nat) (guard : Guard) (hout : desk.held? number = some guard) :=
    get?_release_of_held? hout key
  generalize hafter : (desk.step op).2 = after at hends hgone
  generalize (desk.step op).1 = answer at hends
  cases hends with
  | @granted other now expiry hfree hend =>
      rw [Table.get?_insert] at hgone
      split at hgone
      · rename_i hsame
        subst hsame
        refine .takenOver (Int.not_lt.mp fun hearly => ?_)
        have hheld := LeaseStore.isHeld_iff.mpr ⟨lease, hlease, hearly⟩
        rw [hfree] at hheld
        contradiction
      · exact absurd hlease hgone
  | duplicate hheld => exact absurd hlease hgone
  | stuck hfree hend => exact absurd hlease hgone
  | @released number guard hout =>
      refine .returned ?_
      rw [← hafter, hreturn number guard hout, hlease] at hgone
      by_contra hother
      simp [hother] at hgone
  | absent hout => exact absurd hlease hgone
  | @purged now =>
      refine .purged (Int.not_lt.mp fun hearly => hgone ?_)
      rw [LeaseStore.get?_purge, hlease]
      exact Option.filter_eq_some_iff.mpr ⟨rfl, by simpa using hearly⟩

/-- A lease that would end beyond the clock leaves all others, and nobody gets a guard. -/
theorem live_of_stuck {key : String} {now : Instant} {fault : ClockFault}
    (hstuck : (desk.step (.acquire key now)).1 = .stuck fault) :
    (desk.step (.acquire key now)).2.store.live = desk.store.live ∧
      (desk.step (.acquire key now)).2.guards = desk.guards := by
  have hends := desk.stepped (.acquire key now)
  rw [hstuck] at hends
  generalize (desk.step (.acquire key now)).2 = after at hends ⊢
  cases hends with
  | stuck hfree hend => exact ⟨rfl, rfl⟩

/-! ## Runs -/

/-- Every run keeps leases and owners together, as long as ids are left. -/
theorem Owned.run (h : desk.Owned) {ops : List Op}
    (hids : acquisitions (desk.run ops).1 ≤ desk.idsLeft) : (desk.run ops).2.Owned := by
  induction ops generalizing desk with
  | nil => exact h
  | cons op ops ih =>
      obtain ⟨hfirst, hlater⟩ := idsLeft_run_cons hids
      rw [run_cons_snd]
      exact ih (h.step hfirst) hlater

/-- Leases have owners of their own, so there are no more of them than guards that are
out. -/
theorem Owned.size_le (h : desk.Owned) : desk.store.size ≤ desk.outstanding.length := by
  let owners : List Guard :=
    desk.store.live.entries.map fun (key, lease) => ⟨key, lease.id⟩
  have hkeys : owners.map Guard.key = desk.store.live.entries.map Prod.fst := by
    rw [List.map_map]
    rfl
  have hnodup : owners.Nodup := by
    refine List.Nodup.of_map Guard.key ?_
    rw [hkeys]
    exact desk.store.live.nodup
  have hout : owners ⊆ desk.outstanding := by
    intro guard hguard
    obtain ⟨⟨key, lease⟩, hentry, rfl⟩ := List.mem_map.mp hguard
    exact mem_outstanding_iff.mpr (h.owner ((Table.mem_entries_iff _ _ _).mp hentry))
  calc desk.store.size = owners.length := (List.length_map _).symm
    _ ≤ desk.outstanding.length := (List.subperm_of_subset hnodup hout).length_le

/-! ## The law -/

/-- After any run, by whatever clock, that gave out fewer leases than there are ids: every
lease that is filed is owned by exactly one guard that is out, and no two guards that are
out share an id; a guard that is given back takes the lease that it owns and no other;
nothing but that, unless the lease has run out, takes it from its key; a lease that would
end beyond the clock leaves the others as they are.  So there are no more leases than
guards that are out, and none when no guard is. -/
theorem leases_have_one_owner {ttl : Nat} {ops : List Op}
    (hfew : acquisitions ((new ttl).run ops).1 < UInt64.size) :
    let desk := ((new ttl).run ops).2
    let live := desk.store.live
    (∀ key lease, live.get? key = some lease → ∃! number, desk.Owns number key lease) ∧
    (∀ m n g h, desk.held? m = some g → desk.held? n = some h → m ≠ n → g.id ≠ h.id) ∧
    (∀ number guard, desk.held? number = some guard → ∀ key,
      (desk.step (.release number)).2.store.live.get? key =
        (live.get? key).filter fun lease => ¬desk.Owns number key lease) ∧
    (∀ op key lease, live.get? key = some lease →
      (desk.step op).2.store.live.get? key ≠ some lease → desk.Freed key lease op) ∧
    (∀ key now fault, (desk.step (.acquire key now)).1 = .stuck fault →
      (desk.step (.acquire key now)).2.store.live = live) ∧
    desk.store.size ≤ desk.outstanding.length ∧
    (desk.outstanding = [] → desk.store.size = 0) := by
  intro desk live
  have hids : acquisitions ((new ttl).run ops).1 ≤ (new ttl).idsLeft := Nat.le_sub_one_of_lt hfew
  have howned : desk.Owned := (owned_new ttl).run hids
  have hle : desk.store.size ≤ desk.outstanding.length := howned.size_le
  refine ⟨?_, ?_, ?_, ?_, ?_, hle, ?_⟩
  · intro key lease hlease
    exact howned.existsUnique_owner hlease
  · intro m n g h hg hh hmn hid
    exact hmn (howned.distinct hg hh hid)
  · intro number guard hout key
    exact get?_release_of_held? hout key
  · intro op key lease hlease hgone
    exact freed_of_gone hlease hgone
  · intro key now fault hstuck
    exact (live_of_stuck hstuck).1
  · intro hnone
    rw [hnone] at hle
    exact Nat.le_zero.mp hle

/-- A key is taken over, a lease on another does not come about, and then the clock is set
back: two guards for the key are out, and the lease is that of the second alone. -/
theorem leases_have_one_owner_taken_over :
    let second : Nat := nanosPerSecond
    let ops : List Op := [.acquire "boss" 0, .acquire "raid" (Instant.maxSeconds * second),
      .acquire "boss" second, .purge 5, .acquire "boss" 3]
    let desk := ((new second).run ops).2
    let lease : Lease := ⟨3, 2 * second⟩
    acquisitions ((new second).run ops).1 < UInt64.size ∧ desk.outstanding.length = 2 ∧
      desk.store.live.get? "boss" = some lease ∧ desk.Owns 1 "boss" lease ∧
      (∃! number, desk.Owns number "boss" lease) ∧
      (desk.step (.release 0)).2.store.live.get? "boss" = some lease := by
  intro second ops desk lease
  have hfew : acquisitions ((new second).run ops).1 < UInt64.size := by decide
  have hlease : desk.store.live.get? "boss" = some lease := by decide
  have hstale : ¬desk.Owns 0 "boss" lease := by decide
  have hdesk : ((new second).run ops).2 = desk := rfl
  obtain ⟨hone, -, hreturn, -⟩ := leases_have_one_owner hfew
  rw [hdesk] at hone hreturn
  refine ⟨hfew, by decide, hlease, by decide, hone "boss" lease hlease, ?_⟩
  rw [hreturn 0 ⟨"boss", 1⟩ (by decide) "boss", hlease, Option.filter_some]
  exact if_pos (decide_eq_true hstale)

end LeaseDesk
end Turnstile
