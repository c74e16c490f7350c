import Turnstile.Proofs.Lease.Ledger

/-!
# Leases exclude exactly

A key is refused exactly while somebody holds it: while a guard for the key is out
that was given less than a lifetime ago.  The ledger of a run can be kept without a
store, by that law alone, and the store answers from it.  So it makes no difference
when leases that ran out are dropped, nor whether their guards come back.

Main definitions and results:

- `LeaseDesk.Ledger.play`: what an operation does to the ledger, without a store.
- `LeaseDesk.Ledger.current`, `LeaseDesk.Ledger.current_foldl_play`: the holdings in
  force, which decide all that comes later.
- `LeaseDesk.Orderly`: runs in which neither the clock nor the ids give out.
- `LeaseDesk.Faithful.run`: the store agrees with the ledger at the end of a run.
- `LeaseDesk.acquire_granted_iff`: a key is granted exactly when nobody holds it.
-/

namespace Turnstile
namespace LeaseDesk

/-! ## The ledger without a store -/

/-- Whether an operation drops the leases that ran out. -/
def Op.isPurge : Op → Bool
  | .purge _ => true
  | _ => false

namespace Ledger

variable {ttl : Nat} {key : String} {clock now : Instant}

instance (ttl : Nat) (ledger : Ledger) (key : String) (now : Instant) :
    Decidable (ledger.InForce ttl key now) :=
  decidable_of_iff
    (∃ slot ∈ ledger, ∃ holding ∈ slot, holding.key = key ∧ now < holding.since + ttl) <| by
      constructor
      · rintro ⟨_, hmem, holding, rfl, hforce⟩
        exact ⟨holding, hmem, hforce⟩
      · rintro ⟨holding, hmem, hforce⟩
        exact ⟨_, hmem, holding, rfl, hforce⟩

/-- What an operation does to the ledger when a key is refused exactly while it is held. -/
def play (ttl : Nat) (ledger : Ledger) : Op → Ledger
  | .acquire key now => if ledger.InForce ttl key now then ledger else ledger ++ [some ⟨key, now⟩]
  | .release number => ledger.set number none
  | .purge _ => ledger

/-- Dropping the leases that ran out leaves no trace in the ledger. -/
theorem foldl_play_filter (ledger : Ledger) (ops : List Op) :
    (ops.filter fun op => !op.isPurge).foldl (play ttl) ledger = ops.foldl (play ttl) ledger := by
  induction ops generalizing ledger with
  | nil => rfl
  | cons op ops ih =>
      cases op with
      | acquire key now => exact ih _
      | release number => exact ih _
      | purge now => exact ih ledger

/-- The ledger without the holdings that ran out. -/
def current (ttl : Nat) (ledger : Ledger) (now : Instant) : Ledger :=
  ledger.map (Option.filter fun holding => now < holding.since + ttl)

@[simp]
theorem length_current (ledger : Ledger) : (ledger.current ttl now).length = ledger.length :=
  List.length_map _

/-- Whether a key is held can be seen from the holdings that did not run out. -/
theorem inForce_iff_current {ledger : Ledger} :
    ledger.InForce ttl key now ↔
      ∃ holding : Holding, some holding ∈ ledger.current ttl now ∧ holding.key = key := by
  have hcurrent : ∀ holding : Holding,
      some holding ∈ ledger.current ttl now ↔
        some holding ∈ ledger ∧ now < holding.since + ttl := by
    intro holding
    simp only [current, List.mem_map, Option.filter_eq_some_iff, decide_eq_true_eq]
    constructor
    · rintro ⟨_, hmem, rfl, hlate⟩
      exact ⟨hmem, hlate⟩
    · rintro ⟨hmem, hlate⟩
      exact ⟨_, hmem, rfl, hlate⟩
  constructor
  · rintro ⟨holding, hmem, hkey, hlate⟩
    exact ⟨holding, (hcurrent holding).mpr ⟨hmem, hlate⟩, hkey⟩
  · rintro ⟨holding, hmem, hkey⟩
    obtain ⟨hnoted, hlate⟩ := (hcurrent holding).mp hmem
    exact ⟨holding, hnoted, hkey, hlate⟩

/-- What has run out at a clock has run out at every later one. -/
theorem current_current (ledger : Ledger) (hnow : clock ≤ now) :
    (ledger.current ttl clock).current ttl now = ledger.current ttl now := by
  simp only [current, List.map_map]
  refine List.map_congr_left fun slot _ => ?_
  rw [Function.comp_apply, Option.filter_filter]
  congr 1
  funext holding
  have hlater : now < holding.since + ttl → clock < holding.since + ttl :=
    Int.lt_of_le_of_lt hnow
  simpa using hlater

/-- Ledgers with the same holdings in force keep them the same. -/
theorem current_eq_of_le {ledger other : Ledger}
    (hsame : ledger.current ttl clock = other.current ttl clock) (hnow : clock ≤ now) :
    ledger.current ttl now = other.current ttl now := by
  rw [← current_current ledger hnow, hsame, current_current other hnow]

/-- Ledgers with the same holdings in force refuse the same keys. -/
theorem inForce_congr {ledger other : Ledger}
    (hsame : ledger.current ttl now = other.current ttl now) :
    ledger.InForce ttl key now ↔ other.InForce ttl key now := by
  rw [inForce_iff_current, inForce_iff_current, hsame]

/-- A holding that ran out can leave the ledger. -/
theorem current_set_none {ledger : Ledger} {number : Nat} {holding : Holding}
    (hnoted : ledger.getD number none = some holding) (hlate : holding.since + ttl ≤ now) :
    current ttl (ledger.set number none) now = ledger.current ttl now := by
  apply List.ext_getElem?
  intro n
  simp only [current, List.getElem?_map, List.getElem?_set]
  split
  · rename_i hnumber
    subst hnumber
    rw [List.getD_eq_getElem?_getD] at hnoted
    cases hslot : ledger[number]? with
    | none => simp [hslot] at hnoted
    | some slot =>
        rw [hslot, Option.getD_some] at hnoted
        subst hnoted
        have hin : number < ledger.length := (List.getElem?_eq_some_iff.mp hslot).1
        have hgone : ¬now < holding.since + ttl := Int.not_lt.mpr hlate
        simp [hin, Option.filter, hgone]
  · rfl

/-- An operation keeps ledgers alike that have the same holdings in force. -/
theorem current_play {ledger other : Ledger} {op : Op}
    (hsame : ledger.current ttl clock = other.current ttl clock)
    (hclock : clock ≤ (Timed.time? op).getD clock) :
    (ledger.play ttl op).current ttl ((Timed.time? op).getD clock) =
      (other.play ttl op).current ttl ((Timed.time? op).getD clock) := by
  have hlater := current_eq_of_le hsame hclock
  cases op with
  | acquire key now =>
      change ledger.current ttl now = other.current ttl now at hlater
      simp only [play, inForce_congr hlater]
      split
      · exact hlater
      · change current ttl (ledger ++ [some ⟨key, now⟩]) now =
          current ttl (other ++ [some ⟨key, now⟩]) now
        unfold current at hlater ⊢
        rw [List.map_append, List.map_append, hlater]
  | release number =>
      unfold current at hlater ⊢
      simp only [play, List.map_set, hlater]
  | purge now => exact hlater

/-- A run keeps ledgers alike that have the same holdings in force. -/
theorem current_foldl_play {ledger other : Ledger} {ops : List Op}
    (hsame : ledger.current ttl clock = other.current ttl clock)
    (hchron : Chronological clock (ops ++ [.acquire key now])) :
    (ops.foldl (play ttl) ledger).current ttl now =
      (ops.foldl (play ttl) other).current ttl now := by
  induction ops generalizing ledger other clock with
  | nil => exact current_eq_of_le hsame hchron.start_le_head
  | cons op ops ih => exact ih (current_play hsame hchron.start_le_head) hchron.tail

end Ledger

/-! ## The store and the ledger along a run -/

namespace Faithful

variable {ledger : Ledger} {desk : LeaseDesk} {clock now : Instant}

/-- Asking for a lease is answered from the ledger. -/
theorem acquire_fst (h : Faithful ledger desk clock) (key : String) (hnow : clock ≤ now)
    (hend : (now.later? desk.store.ttl).isSome) :
    (desk.acquire key now).1 =
      if ledger.InForce desk.store.ttl key now then .duplicate else .granted ledger.length := by
  have hheld := h.isHeld_iff hnow key
  have hends : desk.Stepped (.acquire key now) (desk.acquire key now).1 (desk.acquire key now).2 :=
    desk.stepped (.acquire key now)
  generalize (desk.acquire key now).1 = answer at hends ⊢
  generalize (desk.acquire key now).2 = after at hends
  cases hends with
  | granted hfree => rw [if_neg (by simp [← hheld, hfree]), h.length]
  | duplicate hout => rw [if_pos (hheld.mp hout)]
  | stuck _ hnever => simp [hnever] at hend

/-- A key that is held is refused, and nothing changes. -/
theorem acquire_of_inForce (h : Faithful ledger desk clock) {key : String} (hnow : clock ≤ now)
    (hforce : ledger.InForce desk.store.ttl key now) :
    desk.acquire key now = (.duplicate, desk) := by
  have hheld := (h.isHeld_iff hnow key).mpr hforce
  simp [LeaseDesk.acquire, LeaseStore.acquire, hheld]

/-- The ledger goes on as it does without a store. -/
theorem note_eq_play (h : Faithful ledger desk clock) {op : Op}
    (hrange : ∀ key now, op = .acquire key now → (now.later? desk.store.ttl).isSome)
    (hclock : clock ≤ (Timed.time? op).getD clock) :
    ledger.note op (desk.step op).1 = ledger.play desk.store.ttl op := by
  cases op with
  | acquire key now =>
      have hanswer : (desk.step (.acquire key now)).1 =
          if ledger.InForce desk.store.ttl key now then .duplicate else .granted ledger.length :=
        h.acquire_fst key hclock (hrange key now rfl)
      rw [hanswer]
      by_cases hforce : ledger.InForce desk.store.ttl key now <;>
        simp [Ledger.play, Ledger.note, hforce]
  | release number => rfl
  | purge now => rfl

/-- At the end of a run the store agrees with the ledger, and that is the one that is
kept without a store. -/
theorem run (h : Faithful ledger desk clock) {ops rest : List Op}
    (hids : acquisitions (desk.run ops).1 ≤ desk.idsLeft)
    (hrange : ∀ key now, .acquire key now ∈ ops → (now.later? desk.store.ttl).isSome)
    (hchron : Chronological clock (ops ++ rest)) :
    ledger.after ops (desk.run ops).1 = ops.foldl (Ledger.play desk.store.ttl) ledger ∧
      ∃ final, Chronological final rest ∧
        Faithful (ledger.after ops (desk.run ops).1) (desk.run ops).2 final := by
  induction ops generalizing ledger desk clock with
  | nil => exact ⟨rfl, clock, hchron, h⟩
  | cons op ops ih =>
      obtain ⟨hfirst, hleft⟩ := idsLeft_run_cons hids
      have hends : ∀ key now, op = .acquire key now → (now.later? desk.store.ttl).isSome :=
        fun key now hop => hrange key now (hop ▸ List.mem_cons_self)
      have hplay := h.note_eq_play hends hchron.start_le_head
      have hnext := h.step hfirst hends hchron.start_le_head
      have hlater : ∀ key now, .acquire key now ∈ ops →
          (now.later? (desk.step op).2.store.ttl).isSome := by
        intro key now hmem
        rw [ttl_step]
        exact hrange key now (List.mem_cons_of_mem op hmem)
      have hrest := ih hnext hleft hlater hchron.tail
      rw [ttl_step] at hrest
      rw [List.foldl_cons, ← hplay]
      exact hrest

end Faithful

/-! ## The law -/

/-- The runs in which a key is refused exactly while it is held: the clock never goes back, no
lease would end beyond it, and fewer leases are granted than there are ids. -/
structure Orderly (ttl : Nat) (start : Instant) (ops : List Op) : Prop where
  chronological : Chronological start ops
  ends : ∀ key now, .acquire key now ∈ ops → (now.later? ttl).isSome
  few : acquisitions ((new ttl).run ops).1 < UInt64.size

namespace Orderly

variable {ttl : Nat} {start : Instant} {ops : List Op} {key : String} {now : Instant}

/-- At any point of an orderly run the store agrees with its ledger. -/
theorem faithful {rest : List Op} (h : Orderly ttl start (ops ++ rest)) :
    Ledger.after [] ops ((new ttl).run ops).1 = ops.foldl (Ledger.play ttl) [] ∧
      ∃ final, Chronological final rest ∧
        Faithful (Ledger.after [] ops ((new ttl).run ops).1) ((new ttl).run ops).2 final := by
  have hids : acquisitions ((new ttl).run ops).1 ≤ (new ttl).idsLeft := by
    have hfew := h.few
    rw [run_append_fst, acquisitions, List.countP_append] at hfew
    change _ ≤ UInt64.size - 1
    unfold acquisitions
    omega
  have hends : ∀ key now, .acquire key now ∈ ops → (now.later? ttl).isSome :=
    fun key now hmem => h.ends key now (List.mem_append_left _ hmem)
  exact (faithful_new ttl start).run hids hends h.chronological

/-- When an orderly run comes to ask for a key, the store agrees with its ledger at that
moment. -/
theorem faithful_now (h : Orderly ttl start (ops ++ [.acquire key now])) :
    Faithful (ops.foldl (Ledger.play ttl) []) ((new ttl).run ops).2 now := by
  obtain ⟨hplay, final, hlast, hfaithful⟩ := h.faithful
  rw [hplay] at hfaithful
  exact hfaithful.wait hlast.start_le_head

/-- After an orderly run a lease is granted unless the key is held. -/
theorem acquire_fst (h : Orderly ttl start (ops ++ [.acquire key now])) :
    (((new ttl).run ops).2.acquire key now).1 =
      if Ledger.InForce ttl (ops.foldl (Ledger.play ttl) []) key now then .duplicate
      else .granted (ops.foldl (Ledger.play ttl) []).length := by
  have httl : ((new ttl).run ops).2.store.ttl = ttl := ttl_run (new ttl) ops
  have hend := h.ends key now (List.mem_append_right _ List.mem_cons_self)
  have hanswer := h.faithful_now.acquire_fst key (Int.le_refl now) (by rwa [httl])
  rw [httl] at hanswer
  exact hanswer

/-- After orderly runs whose ledgers have the same holdings in force, the answer is the
same. -/
theorem acquire_fst_congr {others : List Op} {earlier : Instant}
    (h : Orderly ttl start (ops ++ [.acquire key now]))
    (hothers : Orderly ttl earlier (others ++ [.acquire key now]))
    (hsame : Ledger.current ttl (others.foldl (Ledger.play ttl) []) now =
      Ledger.current ttl (ops.foldl (Ledger.play ttl) []) now) :
    (((new ttl).run others).2.acquire key now).1 = (((new ttl).run ops).2.acquire key now).1 := by
  have hlength := congrArg List.length hsame
  rw [Ledger.length_current, Ledger.length_current] at hlength
  rw [h.acquire_fst, hothers.acquire_fst, hlength]
  simp only [Ledger.inForce_congr hsame]

/-- After an orderly run that took back a guard whose lease had run out, the holdings in
force are those of the run without it. -/
theorem current_release {before after : List Op} {number : Nat} {holding : Holding}
    {reading : Instant}
    (h : Orderly ttl start (before ++ .release number :: after ++ [.acquire key now]))
    (hnoted : (Ledger.after [] before ((new ttl).run before).1).getD number none = some holding)
    (hreading : reading ∈ times before) (hlate : holding.since + ttl ≤ reading) :
    Ledger.current ttl ((before ++ after).foldl (Ledger.play ttl) []) now =
      Ledger.current ttl ((before ++ .release number :: after).foldl (Ledger.play ttl) []) now := by
  rw [List.append_assoc, List.cons_append] at h
  rw [h.faithful.1] at hnoted
  rw [List.foldl_append, List.foldl_append, List.foldl_cons]
  exact Ledger.current_foldl_play (Ledger.current_set_none hnoted hlate).symm
    (h.chronological.of_mem hreading).tail

end Orderly

/-- A key is granted exactly when no guard for it is out that was given less than a
lifetime ago; otherwise it is refused and nothing changes.  The answer is the same
whenever leases that ran out are dropped, and whether or not a guard whose lease had
run out, as it has when another took it over, was given back. -/
theorem acquire_granted_iff {ttl : Nat} {start : Instant} {ops : List Op} {key : String}
    {now : Instant} (h : Orderly ttl start (ops ++ [.acquire key now])) :
    let desk := ((new ttl).run ops).2
    let ledger := Ledger.after [] ops ((new ttl).run ops).1
    ((∃ number, (desk.acquire key now).1 = .granted number) ↔ ¬ledger.InForce ttl key now) ∧
    (ledger.InForce ttl key now → desk.acquire key now = (.duplicate, desk)) ∧
    (∀ others earlier,
      (others.filter fun op => !op.isPurge) = (ops.filter fun op => !op.isPurge) →
      Orderly ttl earlier (others ++ [.acquire key now]) →
      (((new ttl).run others).2.acquire key now).1 = (desk.acquire key now).1) ∧
    (∀ before number after holding reading,
      ops = before ++ .release number :: after →
      (Ledger.after [] before ((new ttl).run before).1).getD number none = some holding →
      reading ∈ times before → holding.since + ttl ≤ reading →
      Orderly ttl start (before ++ after ++ [.acquire key now]) →
      (((new ttl).run (before ++ after)).2.acquire key now).1 = (desk.acquire key now).1) := by
  dsimp only
  rw [h.faithful.1]
  refine ⟨?_, ?_, ?_, ?_⟩
  · rw [h.acquire_fst]
    split <;> simp [*]
  · intro hforce
    refine h.faithful_now.acquire_of_inForce (Int.le_refl now) ?_
    rw [ttl_run]
    exact hforce
  · intro others earlier hsame hothers
    refine h.acquire_fst_congr hothers ?_
    rw [← Ledger.foldl_play_filter [] others, hsame, Ledger.foldl_play_filter]
  · rintro before number after holding reading rfl hnoted hreading hlate hshort
    exact h.acquire_fst_congr hshort (h.current_release hnoted hreading hlate)

/-- A guard that comes back after its key was taken over does not free the key. -/
theorem acquire_granted_iff_taken_over :
    let ops : List Op := [.acquire "boss" 0, .purge 5, .acquire "boss" 10, .release 0]
    let desk := ((new 10).run ops).2
    Orderly 10 0 (ops ++ [.acquire "boss" 12]) ∧
      desk.acquire "boss" 12 = (.duplicate, desk) := by
  have horderly : Orderly 10 0
      ([.acquire "boss" 0, .purge 5, .acquire "boss" 10, .release 0] ++ [.acquire "boss" 12]) := by
    refine ⟨?_, ?_, ?_⟩
    · unfold Chronological
      decide
    · intro key now hmem
      have hnow : now = 0 ∨ now = 10 ∨ now = 12 := by grind
      rcases hnow with rfl | rfl | rfl <;> rfl
    · decide
  exact ⟨horderly, (acquire_granted_iff horderly).2.1 (by decide)⟩

end LeaseDesk
end Turnstile
