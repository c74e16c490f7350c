import Turnstile.Table
import Turnstile.Time

/-!
# Idempotency leases

A lease reserves a key while a request is being processed.  Whoever holds a lease
has a guard for it, and giving the guard back frees the key, unless the lease ran
out and the key was taken over in the meantime.

Main definitions:

- `LeaseStore.acquire`, `release`, `purge`: the operations on the store.
- `LeaseDesk`: a store together with the guards that it gave out, and its
  operations as data.
-/

namespace Turnstile

/-! ## The store -/

/-- A reservation that is in force before `expiry`. -/
structure Lease where
  id : UInt64
  expiry : Instant
deriving DecidableEq, Repr

/-- What the holder of a lease has in hand. -/
structure Guard where
  key : String
  id : UInt64
deriving DecidableEq, Repr

/-- The leases by their keys.  Ids are counted up and wrap around. -/
structure LeaseStore where
  /-- The lifetime of a lease in nanoseconds. -/
  ttl : Nat
  lastId : UInt64
  live : Table Lease

/-- What asking for a lease comes to. -/
inductive Acquisition
  | granted (guard : Guard)
  /-- Another lease on the key is in force. -/
  | duplicate
  /-- The lease would end beyond the clock. -/
  | stuck (fault : ClockFault)
deriving DecidableEq, Repr

namespace LeaseStore

/-- A store without leases. -/
def new (ttl : Nat) : LeaseStore where
  ttl := ttl
  lastId := 0
  live := Table.empty

/-- Whether a lease on a key is in force. -/
def isHeld (store : LeaseStore) (key : String) (now : Instant) : Bool :=
  match store.live.get? key with
  | some lease => now < lease.expiry
  | none => false

/-- Asks for a lease on a key.  A lease that ran out gives way. -/
def acquire (store : LeaseStore) (key : String) (now : Instant) : Acquisition × LeaseStore :=
  if store.isHeld key now then (.duplicate, store)
  else
    let id := store.lastId + 1
    match now.later? store.ttl with
    | some expiry =>
        (.granted ⟨key, id⟩,
          { store with lastId := id, live := store.live.insert key ⟨id, expiry⟩ })
    | none => (.stuck .monotonic, { store with lastId := id })

/-- Takes a guard back.  It frees its key only when the lease is still its own. -/
def release (store : LeaseStore) (guard : Guard) : LeaseStore :=
  if (store.live.get? guard.key).map Lease.id = some guard.id then
    { store with live := store.live.erase guard.key }
  else store

/-- Drops the leases that ran out, and tells how many there were. -/
def purge (store : LeaseStore) (now : Instant) : Nat × LeaseStore :=
  let live := store.live.filter fun _ lease => now < lease.expiry
  (store.live.size - live.size, { store with live := live })

/-- The number of leases, those that ran out included. -/
def size (store : LeaseStore) : Nat :=
  store.live.size

end LeaseStore

/-! ## Guards in hand -/

/-- A store and every guard that it gave out, in order; a guard that was given
back is `none`. -/
structure LeaseDesk where
  store : LeaseStore
  guards : List (Option Guard)

namespace LeaseDesk

/-- A desk before any lease. -/
def new (ttl : Nat) : LeaseDesk where
  store := LeaseStore.new ttl
  guards := []

/-- The guards that are still out. -/
def outstanding (desk : LeaseDesk) : List Guard :=
  desk.guards.filterMap id

/-- An operation on a desk; a guard is named by its number. -/
inductive Op
  | acquire (key : String) (now : Instant)
  | release (number : Nat)
  | purge (now : Instant)
deriving DecidableEq, Repr

/-- What an operation answers. -/
inductive Answer
  | granted (number : Nat)
  | duplicate
  | stuck (fault : ClockFault)
  | released (done : Bool)
  | purged (count : Nat)
deriving DecidableEq, Repr

/-- Asks for a lease and keeps its guard. -/
def acquire (desk : LeaseDesk) (key : String) (now : Instant) : Answer × LeaseDesk :=
  match desk.store.acquire key now with
  | (.granted guard, store) =>
      (.granted desk.guards.length, ⟨store, desk.guards ++ [some guard]⟩)
  | (.duplicate, store) => (.duplicate, { desk with store := store })
  | (.stuck fault, store) => (.stuck fault, { desk with store := store })

/-- Gives a guard back, when it is still out. -/
def release (desk : LeaseDesk) (number : Nat) : Answer × LeaseDesk :=
  match desk.guards.getD number none with
  | some guard => (.released true, ⟨desk.store.release guard, desk.guards.set number none⟩)
  | none => (.released false, desk)

/-- Carries out an operation. -/
def step (desk : LeaseDesk) : Op → Answer × LeaseDesk
  | .acquire key now => desk.acquire key now
  | .release number => desk.release number
  | .purge now =>
      let (count, store) := desk.store.purge now
      (.purged count, { desk with store := store })

/-- Carries out operations one after the other. -/
def run (desk : LeaseDesk) : List Op → List Answer × LeaseDesk
  | [] => ([], desk)
  | op :: ops =>
      let (answer, desk) := desk.step op
      let (answers, desk) := desk.run ops
      (answer :: answers, desk)

end LeaseDesk

end Turnstile
