import Turnstile.Lease
import Turnstile.Proofs.Timeline

/-!
# Leases and their owners

What the operations on leases can do, said once, and the invariant that ties leases
to guards: no two guards that are out share an id, and every lease that is filed
belongs to a guard that is out.

Main definitions and results:

- `LeaseStore.Acquired`, `LeaseDesk.Stepped`: the ends of asking for a lease, and of
  any operation.
- `LeaseDesk.held?`: the guard of a number while it is out.
- `LeaseDesk.Owned`, `LeaseDesk.Owned.step`: the invariant, and that it is kept.
- `LeaseDesk.acquisitions`, `LeaseDesk.idsLeft`: the ids used up, and those left.
-/

namespace Turnstile

/-- A monotonic time that can be moved on is moved by the whole duration. -/
theorem Instant.eq_add_of_later? {t moved : Instant} {nanos : Nat}
    (h : t.later? nanos = some moved) : moved = t + nanos := by
  simp only [Instant.later?, Option.ite_none_right_eq_some] at h
  exact (Option.some.inj h.2).symm

/-! ## The store -/

namespace LeaseStore

/-- A key is held by a lease that is filed under it and has not run out. -/
theorem isHeld_iff {store : LeaseStore} {key : String} {now : Instant} :
    store.isHeld key now = true ↔
      ∃ lease, store.live.get? key = some lease ∧ now < lease.expiry := by
  unfold isHeld
  cases store.live.get? key <;> simp

/-- The ways in which asking for a lease can end: the answer and the store after it. -/
inductive Acquired (store : LeaseStore) (key : String) (now : Instant) :
    Acquisition → LeaseStore → Prop
  /-- Another lease holds the key, and nothing changes. -/
  | duplicate (hheld : store.isHeld key now = true) : Acquired store key now .duplicate store
  /-- The next id is given out. -/
  | granted {expiry : Instant} (hfree : store.isHeld key now = false)
      (hend : now.later? store.ttl = some expiry) :
      Acquired store key now (.granted ⟨key, store.lastId + 1⟩)
        { store with
          lastId := store.lastId + 1
          live := store.live.insert key ⟨store.lastId + 1, expiry⟩ }
  /-- The lease would end beyond the clock; its id is used up. -/
  | stuck (hfree : store.isHeld key now = false) (hend : now.later? store.ttl = none) :
      Acquired store key now (.stuck .monotonic) { store with lastId := store.lastId + 1 }

/-- Asking for a lease always has one of these ends. -/
theorem acquired (store : LeaseStore) (key : String) (now : Instant) :
    store.Acquired key now (store.acquire key now).1 (store.acquire key now).2 := by
  unfold acquire
  split
  · rename_i hheld
    exact .duplicate hheld
  · rename_i hheld
    have hfree : store.isHeld key now = false := by simpa using hheld
    cases hend : now.later? store.ttl with
    | some expiry => exact .granted hfree hend
    | none => exact .stuck hfree hend

/-- A guard that is taken back frees its key when the lease is its own. -/
theorem get?_release (store : LeaseStore) (guard : Guard) (key : String) :
    (store.release guard).live.get? key =
      if key = guard.key ∧ (store.live.get? guard.key).map Lease.id = some guard.id then none
      else store.live.get? key := by
  unfold release
  by_cases hown : (store.live.get? guard.key).map Lease.id = some guard.id
  · simp [hown, Table.get?_erase]
  · simp [hown]

@[simp]
theorem lastId_release (store : LeaseStore) (guard : Guard) :
    (store.release guard).lastId = store.lastId := by
  unfold release
  split <;> rfl

@[simp]
theorem ttl_release (store : LeaseStore) (guard : Guard) :
    (store.release guard).ttl = store.ttl := by
  unfold release
  split <;> rfl

/-- Purging keeps the leases that have not run out. -/
theorem get?_purge (store : LeaseStore) (now : Instant) (key : String) :
    (store.purge now).2.live.get? key =
      (store.live.get? key).filter fun lease => now < lease.expiry := by
  unfold purge
  exact Table.get?_filter _ _ key

/-- What is left after purging was there before. -/
theorem get?_of_get?_purge {store : LeaseStore} {now : Instant} {key : String} {lease : Lease}
    (h : (store.purge now).2.live.get? key = some lease) : store.live.get? key = some lease := by
  rw [get?_purge, Option.filter_eq_some_iff] at h
  exact h.1

end LeaseStore

/-! ## Numbered slots -/

section Slots

variable {α : Type}

/-- A new slot gets the next number. -/
theorem getD_append_slot (slots : List (Option α)) (a : α) (number : Nat) :
    (slots ++ [some a]).getD number none =
      if number = slots.length then some a else slots.getD number none := by
  by_cases hlast : number = slots.length
  · subst hlast
    simp
  · rw [if_neg hlast]
    by_cases hold : number < slots.length
    · simp [List.getElem?_append_left hold]
    · have hbeyond : (slots ++ [some a]).length ≤ number := by
        rw [List.length_append, List.length_singleton]
        omega
      rw [List.getD_eq_getElem?_getD, List.getD_eq_getElem?_getD,
        List.getElem?_eq_none hbeyond, List.getElem?_eq_none (Nat.not_lt.mp hold)]

/-- A slot that is emptied is empty, and no other changes. -/
theorem getD_set_slot (slots : List (Option α)) (freed number : Nat) :
    (slots.set freed none).getD number none =
      if number = freed then none else slots.getD number none := by
  by_cases hsame : number = freed
  · subst hsame
    by_cases hin : number < slots.length
    · simp [hin]
    · simp [Nat.not_lt.mp hin]
  · simp [hsame, Ne.symm hsame]

/-- What stands in a slot has a number. -/
theorem some_mem_iff_getD {slots : List (Option α)} {a : α} :
    some a ∈ slots ↔ ∃ number, slots.getD number none = some a := by
  constructor
  · intro h
    obtain ⟨number, hnumber⟩ := List.mem_iff_getElem?.mp h
    exact ⟨number, by simp [hnumber]⟩
  · rintro ⟨number, hnumber⟩
    rw [List.getD_eq_getElem?_getD] at hnumber
    cases hslot : slots[number]? with
    | none => simp [hslot] at hnumber
    | some slot =>
        rw [hslot, Option.getD_some] at hnumber
        exact hnumber ▸ List.mem_of_getElem? hslot

end Slots

/-! ## The desk -/

namespace LeaseDesk

/-- The guard of a number, while it is out. -/
def held? (desk : LeaseDesk) (number : Nat) : Option Guard :=
  desk.guards.getD number none

/-- A guard that is given out takes the next number. -/
theorem held?_append (desk : LeaseDesk) (store : LeaseStore) (guard : Guard) (number : Nat) :
    (⟨store, desk.guards ++ [some guard]⟩ : LeaseDesk).held? number =
      if number = desk.guards.length then some guard else desk.held? number :=
  getD_append_slot desk.guards guard number

/-- A guard that is taken back is no longer out. -/
theorem held?_set (desk : LeaseDesk) (store : LeaseStore) (freed number : Nat) :
    (⟨store, desk.guards.set freed none⟩ : LeaseDesk).held? number =
      if number = freed then none else desk.held? number :=
  getD_set_slot desk.guards freed number

/-- Only numbers that were given out are held. -/
theorem lt_of_held? {desk : LeaseDesk} {number : Nat} {guard : Guard}
    (h : desk.held? number = some guard) : number < desk.guards.length := by
  refine Nat.lt_of_not_le fun hbeyond => ?_
  simp [held?, hbeyond] at h

/-- The ways in which an operation can end: its answer and the desk after it. -/
inductive Stepped (desk : LeaseDesk) : Op → Answer → LeaseDesk → Prop
  /-- The next number and the next id are given out. -/
  | granted {key : String} {now expiry : Instant} (hfree : desk.store.isHeld key now = false)
      (hend : now.later? desk.store.ttl = some expiry) :
      Stepped desk (.acquire key now) (.granted desk.guards.length)
        ⟨{ desk.store with
            lastId := desk.store.lastId + 1
            live := desk.store.live.insert key ⟨desk.store.lastId + 1, expiry⟩ },
          desk.guards ++ [some ⟨key, desk.store.lastId + 1⟩]⟩
  /-- Another lease holds the key, and nothing changes. -/
  | duplicate {key : String} {now : Instant} (hheld : desk.store.isHeld key now = true) :
      Stepped desk (.acquire key now) .duplicate desk
  /-- The lease would end beyond the clock; its id is used up. -/
  | stuck {key : String} {now : Instant} (hfree : desk.store.isHeld key now = false)
      (hend : now.later? desk.store.ttl = none) :
      Stepped desk (.acquire key now) (.stuck .monotonic)
        ⟨{ desk.store with lastId := desk.store.lastId + 1 }, desk.guards⟩
  /-- A guard that is out is taken back. -/
  | released {number : Nat} {guard : Guard} (hout : desk.held? number = some guard) :
      Stepped desk (.release number) (.released true)
        ⟨desk.store.release guard, desk.guards.set number none⟩
  /-- There is no such guard, and nothing changes. -/
  | absent {number : Nat} (hout : desk.held? number = none) :
      Stepped desk (.release number) (.released false) desk
  /-- Leases that ran out are dropped. -/
  | purged {now : Instant} :
      Stepped desk (.purge now) (.purged (desk.store.purge now).1)
        ⟨(desk.store.purge now).2, desk.guards⟩

/-- Every operation has one of these ends. -/
theorem stepped (desk : LeaseDesk) (op : Op) :
    desk.Stepped op (desk.step op).1 (desk.step op).2 := by
  cases op with
  | acquire key now =>
      have hends := desk.store.acquired key now
      simp only [step, acquire]
      generalize desk.store.acquire key now = result at hends ⊢
      obtain ⟨acquisition, store⟩ := result
      cases hends with
      | duplicate hheld => exact .duplicate hheld
      | granted hfree hend => exact .granted hfree hend
      | stuck hfree hend => exact .stuck hfree hend
  | release number =>
      simp only [step, release]
      split
      · rename_i guard hout
        exact .released hout
      · rename_i hout
        exact .absent hout
  | purge now => exact .purged

@[simp]
theorem run_cons_fst (desk : LeaseDesk) (op : Op) (ops : List Op) :
    (desk.run (op :: ops)).1 = (desk.step op).1 :: ((desk.step op).2.run ops).1 :=
  rfl

@[simp]
theorem run_cons_snd (desk : LeaseDesk) (op : Op) (ops : List Op) :
    (desk.run (op :: ops)).2 = ((desk.step op).2.run ops).2 :=
  rfl

/-- No operation changes how long leases last. -/
theorem ttl_step (desk : LeaseDesk) (op : Op) :
    (desk.step op).2.store.ttl = desk.store.ttl := by
  have hends := desk.stepped op
  generalize (desk.step op).1 = answer at hends
  generalize (desk.step op).2 = after at hends ⊢
  cases hends with
  | released => exact LeaseStore.ttl_release _ _
  | _ => rfl

/-- A run does not change how long leases last. -/
theorem ttl_run (desk : LeaseDesk) (ops : List Op) :
    (desk.run ops).2.store.ttl = desk.store.ttl := by
  induction ops generalizing desk with
  | nil => rfl
  | cons op ops ih => rw [run_cons_snd, ih, ttl_step]

theorem run_append_fst (desk : LeaseDesk) (before after : List Op) :
    (desk.run (before ++ after)).1 =
      (desk.run before).1 ++ ((desk.run before).2.run after).1 := by
  induction before generalizing desk with
  | nil => rfl
  | cons op ops ih =>
      rw [List.cons_append, run_cons_fst, run_cons_fst, run_cons_snd, ih]
      rfl

/-! ## Ids -/

/-- Whether an answer used up an id: a lease was granted, or would end beyond the clock. -/
def Answer.takesId : Answer → Bool
  | .granted _ | .stuck _ => true
  | _ => false

/-- How many ids a run used up. -/
def acquisitions (answers : List Answer) : Nat :=
  answers.countP Answer.takesId

theorem acquisitions_cons (answer : Answer) (answers : List Answer) :
    acquisitions (answer :: answers) = acquisitions [answer] + acquisitions answers := by
  rw [acquisitions, ← List.singleton_append, List.countP_append]
  rfl

/-- The ids that can still be given out before they wrap around. -/
def idsLeft (desk : LeaseDesk) : Nat :=
  UInt64.size - 1 - desk.store.lastId.toNat

/-- The next id is one more, as long as ids are left. -/
theorem toNat_nextId {desk : LeaseDesk} (hids : 0 < desk.idsLeft) :
    (desk.store.lastId + 1).toNat = desk.store.lastId.toNat + 1 := by
  unfold idsLeft UInt64.size at hids
  rw [UInt64.toNat_add]
  simp only [UInt64.reduceToNat]
  omega

/-- The ids that an answer used up are no longer left. -/
theorem idsLeft_step (desk : LeaseDesk) {op : Op}
    (hids : acquisitions [(desk.step op).1] ≤ desk.idsLeft) :
    desk.idsLeft ≤ (desk.step op).2.idsLeft + acquisitions [(desk.step op).1] := by
  have hends := desk.stepped op
  generalize (desk.step op).1 = answer at hids hends ⊢
  generalize (desk.step op).2 = after at hends ⊢
  cases hends with
  | granted | stuck =>
      change 1 ≤ desk.idsLeft at hids
      have hnext := toNat_nextId hids
      simp only [idsLeft, hnext, acquisitions, Answer.takesId, List.countP_singleton]
      simp only [↓reduceIte]
      omega
  | duplicate => exact Nat.le_add_right _ _
  | released => simp [idsLeft]
  | absent => exact Nat.le_add_right _ _
  | purged => simp [idsLeft, LeaseStore.purge]

/-- Where ids are left for a run, they are left for its first operation, and then for the rest. -/
theorem idsLeft_run_cons {desk : LeaseDesk} {op : Op} {ops : List Op}
    (hids : acquisitions (desk.run (op :: ops)).1 ≤ desk.idsLeft) :
    acquisitions [(desk.step op).1] ≤ desk.idsLeft ∧
      acquisitions ((desk.step op).2.run ops).1 ≤ (desk.step op).2.idsLeft := by
  rw [run_cons_fst, acquisitions_cons] at hids
  have hfirst : acquisitions [(desk.step op).1] ≤ desk.idsLeft :=
    Nat.le_trans (Nat.le_add_right _ _) hids
  have hleft := desk.idsLeft_step hfirst
  exact ⟨hfirst, by omega⟩

/-! ## Ownership -/

/-- Guards that are out have ids of their own that were given out, and every lease that
is filed belongs to one of them. -/
structure Owned (desk : LeaseDesk) : Prop where
  distinct : ∀ {m n : Nat} {g h : Guard}, desk.held? m = some g → desk.held? n = some h →
    g.id = h.id → m = n
  issued : ∀ {n : Nat} {g : Guard}, desk.held? n = some g →
    g.id.toNat ≤ desk.store.lastId.toNat
  owner : ∀ {key : String} {lease : Lease}, desk.store.live.get? key = some lease →
    ∃ n, desk.held? n = some ⟨key, lease.id⟩

/-- On a new desk, which has neither guards nor leases, every lease has its owner. -/
theorem owned_new (ttl : Nat) : (new ttl).Owned where
  distinct := by simp [held?, new]
  issued := by simp [held?, new]
  owner := by simp [new, LeaseStore.new]

/-- A lease that is granted belongs to its new guard. -/
theorem Owned.grant {desk : LeaseDesk} (h : desk.Owned) (hids : 0 < desk.idsLeft) (key : String)
    (expiry : Instant) :
    (⟨{ desk.store with
          lastId := desk.store.lastId + 1
          live := desk.store.live.insert key ⟨desk.store.lastId + 1, expiry⟩ },
        desk.guards ++ [some ⟨key, desk.store.lastId + 1⟩]⟩ : LeaseDesk).Owned := by
  have hnext := toNat_nextId hids
  -- The new id is above all that were given out, so no guard that is out has it.
  have hnew : ∀ {n : Nat} {g : Guard}, desk.held? n = some g → g.id ≠ desk.store.lastId + 1 := by
    intro n g hg hid
    have hissued := h.issued hg
    rw [hid, hnext] at hissued
    omega
  refine ⟨?_, ?_, ?_⟩
  · intro m n g g' hg hg' hid
    rw [held?_append] at hg hg'
    split at hg
    · rename_i hm
      obtain rfl := Option.some.inj hg
      split at hg'
      · rename_i hn
        exact hm.trans hn.symm
      · exact absurd hid.symm (hnew hg')
    · split at hg'
      · obtain rfl := Option.some.inj hg'
        exact absurd hid (hnew hg)
      · exact h.distinct hg hg' hid
  · intro n g hg
    rw [held?_append] at hg
    split at hg
    · obtain rfl := Option.some.inj hg
      exact Nat.le_refl _
    · have hissued := h.issued hg
      dsimp only
      omega
  · intro other lease hlease
    rw [Table.get?_insert] at hlease
    split at hlease
    · rename_i hsame
      obtain rfl := Option.some.inj hlease
      exact ⟨desk.guards.length, by rw [held?_append, if_pos rfl, hsame]⟩
    · obtain ⟨n, hn⟩ := h.owner hlease
      have hold := lt_of_held? hn
      exact ⟨n, by rw [held?_append, if_neg (by omega), hn]⟩

/-- A guard that is taken back frees its own lease only, so the other leases keep their
owners. -/
theorem Owned.release {desk : LeaseDesk} (h : desk.Owned) {number : Nat} {guard : Guard}
    (hout : desk.held? number = some guard) :
    (⟨desk.store.release guard, desk.guards.set number none⟩ : LeaseDesk).Owned := by
  refine ⟨?_, ?_, ?_⟩
  · intro m n g g' hg hg' hid
    rw [held?_set] at hg hg'
    split at hg
    · contradiction
    · split at hg'
      · contradiction
      · exact h.distinct hg hg' hid
  · intro n g hg
    rw [held?_set] at hg
    split at hg
    · contradiction
    · simpa using h.issued hg
  · intro key lease hlease
    rw [LeaseStore.get?_release] at hlease
    split at hlease
    · contradiction
    · rename_i hother
      obtain ⟨n, hn⟩ := h.owner hlease
      have hne : n ≠ number := by
        rintro rfl
        obtain rfl := Option.some.inj (hout.symm.trans hn)
        exact hother ⟨rfl, by simp [hlease]⟩
      exact ⟨n, by rw [held?_set, if_neg hne, hn]⟩

/-- An id that is used up without a lease belongs to nobody. -/
theorem Owned.stuck {desk : LeaseDesk} (h : desk.Owned) (hids : 0 < desk.idsLeft) :
    (⟨{ desk.store with lastId := desk.store.lastId + 1 }, desk.guards⟩ : LeaseDesk).Owned where
  distinct := h.distinct
  issued {n guard} hout := by
    have hissued : guard.id.toNat ≤ desk.store.lastId.toNat := h.issued hout
    dsimp only
    rw [toNat_nextId hids]
    exact Nat.le_succ_of_le hissued
  owner := h.owner

/-- A lease that is purged is missed by nobody. -/
theorem Owned.purge {desk : LeaseDesk} (h : desk.Owned) (now : Instant) :
    (⟨(desk.store.purge now).2, desk.guards⟩ : LeaseDesk).Owned where
  distinct := h.distinct
  issued := h.issued
  owner hlease := h.owner (LeaseStore.get?_of_get?_purge hlease)

/-- Every operation keeps leases and owners together, as long as ids are left. -/
theorem Owned.step {desk : LeaseDesk} (h : desk.Owned) {op : Op}
    (hids : acquisitions [(desk.step op).1] ≤ desk.idsLeft) : (desk.step op).2.Owned := by
  have hends := desk.stepped op
  generalize (desk.step op).1 = answer at hids hends
  generalize (desk.step op).2 = after at hends ⊢
  cases hends with
  | granted => exact h.grant hids _ _
  | duplicate => exact h
  | stuck => exact h.stuck hids
  | released hout => exact h.release hout
  | absent => exact h
  | purged => exact h.purge _

end LeaseDesk

end Turnstile
