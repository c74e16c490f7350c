import Mathlib.Data.Set.Card
import Mathlib.Data.List.Nodup
import Turnstile.Proofs.Fairness.Judgement
import Turnstile.Proofs.Fairness.Records

/-!
# Shards put together

Every record lies in the shard of its player, so the entries of all shards together are one
record for each player that has one.  What the sweeps over all shards count and list can
then be told from the records of the players, whatever the order of the entries.

Main definitions and results:

- `Tracker.Routed`, `Tracker.Routed.step`: every record lies in the shard of its player, and
  stays there through every operation.
- `Tracker.entries`, `Tracker.Routed.mem_entries_iff`: the records of all players.
- `Tracker.players`, `Tracker.Routed.size_eq_ncard`, `Tracker.Routed.evicted_eq_ncard`: what
  the sweeps count.
- `Tracker.Routed.pairwise_blockedPlayers`, `Tracker.Routed.mem_blockedPlayers_iff`: what
  the sweeps list.
- `Tracker.Rearranged`: the same records in another order.
-/

namespace Turnstile

/-- Tables with the same entries, in any order, have the same values. -/
theorem Table.get?_eq_of_perm {α : Type} {s t : Table α} (h : s.entries.Perm t.entries)
    (name : String) : s.get? name = t.get? name := by
  apply Option.ext
  intro a
  rw [← Table.mem_entries_iff, ← Table.mem_entries_iff]
  exact h.mem_iff

namespace Tracker

variable {tracker : Tracker}

/-! ## Records in their shards -/

/-- Every record lies in the shard of its player. -/
def Routed (tracker : Tracker) : Prop :=
  ∀ (i : Nat) (shard : Table Activity), tracker.shards[i]? = some shard →
    ∀ entry ∈ shard.entries, tracker.slot entry.1 = i

/-- In a new tracker there is nothing to misplace. -/
theorem routed_new (policy : Policy) (route : String → Nat) (shardCount : Nat) :
    (new policy route shardCount).Routed := by
  intro i shard hshard entry hentry
  have hempty : shard = Table.empty := (List.mem_replicate.mp (List.mem_of_getElem? hshard)).2
  rw [hempty] at hentry
  exact absurd hentry List.not_mem_nil

/-- A record is filed in the shard of its player. -/
theorem Routed.store (h : tracker.Routed) (playerId : String) (activity : Activity) :
    (tracker.store playerId activity).Routed := by
  intro i shard hshard entry hentry
  rw [slot_store]
  rw [Tracker.store, List.getElem?_modify] at hshard
  obtain ⟨before, hbefore, hmodified⟩ := Option.map_eq_some_iff.mp hshard
  split at hmodified
  · rename_i hslot
    subst hmodified
    have hkey : entry.1 = playerId ∨ entry.1 ∈ before.entries.map Prod.fst :=
      (mem_keys_fileUnder playerId entry.1 activity before.entries).mp
        (List.mem_map_of_mem hentry)
    rcases hkey with hnew | hold
    · rw [hnew]
      exact hslot
    · obtain ⟨other, hother, hsame⟩ := List.mem_map.mp hold
      rw [← hsame]
      exact h i before hbefore other hother
  · subst hmodified
    exact h i before hbefore entry hentry

/-- Every operation leaves the records in their shards. -/
theorem Routed.step (h : tracker.Routed) (op : Op) : (tracker.step op).2.Routed := by
  cases op with
  | check event now => exact h.store event.playerId _
  | unblock playerId now =>
      simp only [Tracker.step, unblock]
      split
      · exact h
      · exact h.store playerId _
  | evictIdle now idle =>
      intro i shard hshard entry hentry
      simp only [Tracker.step, evictIdle, List.getElem?_map, Option.map_eq_some_iff] at hshard
      obtain ⟨before, hbefore, rfl⟩ := hshard
      have hslot : (tracker.step (.evictIdle now idle)).2.slot entry.1 = tracker.slot entry.1 := by
        simp [Tracker.step, evictIdle, slot]
      rw [hslot]
      exact h i before hbefore entry (List.mem_filter.mp hentry).1
  | snapshot playerId now => exact h
  | blockedPlayers now => exact h
  | size => exact h

/-! ## The records of all players -/

/-- The records of all players, shard by shard. -/
def entries (tracker : Tracker) : List (String × Activity) :=
  tracker.shards.flatMap Table.entries

/-- The records of all players are those that are found. -/
theorem Routed.mem_entries_iff (h : tracker.Routed) {playerId : String} {activity : Activity} :
    (playerId, activity) ∈ tracker.entries ↔ tracker.record? playerId = some activity := by
  unfold entries record?
  rw [List.mem_flatMap]
  constructor
  · rintro ⟨shard, hshard, hentry⟩
    obtain ⟨i, hi⟩ := List.mem_iff_getElem?.mp hshard
    have hslot : tracker.slot playerId = i := h i shard hi _ hentry
    rw [hslot, List.getD_eq_getElem?_getD, hi]
    exact (Table.mem_entries_iff _ _ _).mp hentry
  · intro hrecord
    cases hshard : tracker.shards[tracker.slot playerId]? with
    | none => simp [hshard] at hrecord
    | some shard =>
        rw [List.getD_eq_getElem?_getD, hshard] at hrecord
        exact ⟨shard, List.mem_of_getElem? hshard, (Table.mem_entries_iff _ _ _).mpr hrecord⟩

/-- No player has two records. -/
theorem Routed.nodup_entries (h : tracker.Routed) :
    (tracker.entries.map Prod.fst).Nodup := by
  rw [entries, List.map_flatMap, List.nodup_flatMap]
  refine ⟨fun shard _ => shard.nodup, ?_⟩
  rw [List.pairwise_iff_getElem]
  intro i j hi hj hlt name hname hother
  obtain ⟨entry, hentry, rfl⟩ := List.mem_map.mp hname
  obtain ⟨other, hmem, hsame⟩ := List.mem_map.mp hother
  have hfirst := h i _ (List.getElem?_eq_getElem hi) entry hentry
  have hsecond := h j _ (List.getElem?_eq_getElem hj) other hmem
  rw [hsame] at hsecond
  omega

/-- The number of records is that of all shards together. -/
theorem size_eq_length_entries (tracker : Tracker) : tracker.size = tracker.entries.length := by
  have hsum (shards : List (Table Activity)) (count : Nat) :
      shards.foldl (fun count shard => count + shard.size) count =
        count + (shards.flatMap Table.entries).length := by
    induction shards generalizing count with
    | nil => rfl
    | cons shard rest ih =>
        rw [List.foldl_cons, ih, List.flatMap_cons, List.length_append, Nat.add_assoc]
        rfl
  rw [size, hsum, Nat.zero_add]
  rfl

/-! ## What the sweeps count -/

/-- The players with a record. -/
def players (tracker : Tracker) : Set String :=
  {playerId | (tracker.record? playerId).isSome}

/-- The players with a record are those of the entries. -/
theorem Routed.players_eq (h : tracker.Routed) :
    tracker.players = ↑(tracker.entries.map Prod.fst).toFinset := by
  ext playerId
  rw [players, Set.mem_ofPred_eq, List.coe_toFinset, Set.mem_ofPred_eq, List.mem_map,
    Option.isSome_iff_exists]
  constructor
  · rintro ⟨activity, hrecord⟩
    exact ⟨(playerId, activity), h.mem_entries_iff.mpr hrecord, rfl⟩
  · rintro ⟨⟨_, activity⟩, hentry, rfl⟩
    exact ⟨activity, h.mem_entries_iff.mp hentry⟩

/-- The size is the number of players with a record. -/
theorem Routed.size_eq_ncard (h : tracker.Routed) : tracker.size = tracker.players.ncard := by
  rw [h.players_eq, Set.ncard_coe_finset, List.toFinset_card_of_nodup h.nodup_entries,
    List.length_map, size_eq_length_entries]

/-- Eviction tells how many players lose their record. -/
theorem Routed.evicted_eq_ncard (h : tracker.Routed) (now : WallTime) (idle : Span) :
    (tracker.evictIdle now idle).1 =
      (tracker.players \ (tracker.evictIdle now idle).2.players).ncard := by
  have hafter : (tracker.evictIdle now idle).2.Routed := h.step (.evictIdle now idle)
  have hsubset : (tracker.evictIdle now idle).2.players ⊆ tracker.players := by
    intro playerId hkept
    rw [players, Set.mem_ofPred_eq, record?_evictIdle] at hkept
    obtain ⟨activity, hactivity⟩ := Option.isSome_iff_exists.mp hkept
    exact Option.isSome_iff_exists.mpr ⟨activity, Option.eq_some_of_filter_eq_some hactivity⟩
  have hfinite : tracker.players.Finite := by
    rw [h.players_eq]
    exact Finset.finite_toSet _
  have hcount := Set.ncard_sdiff_add_ncard_of_subset hsubset hfinite
  rw [← h.size_eq_ncard, ← hafter.size_eq_ncard] at hcount
  change tracker.size - (tracker.evictIdle now idle).2.size = _
  omega

/-! ## What the sweeps list -/

/-- The order of lists of snapshots. -/
def byPlayer (a b : Snapshot) : Bool :=
  decide (a.playerId ≤ b.playerId)

/-- Sorting leaves snapshots in the order of their players. -/
theorem pairwise_mergeSort_byPlayer (snapshots : List Snapshot) :
    (snapshots.mergeSort byPlayer).Pairwise fun a b => a.playerId ≤ b.playerId := by
  have htrans (a b c : Snapshot) (hab : byPlayer a b = true) (hbc : byPlayer b c = true) :
      byPlayer a c = true :=
    decide_eq_true (String.le_trans (of_decide_eq_true hab) (of_decide_eq_true hbc))
  have htotal (a b : Snapshot) : (byPlayer a b || byPlayer b a) = true := by
    simpa [byPlayer] using String.le_total a.playerId b.playerId
  exact (List.pairwise_mergeSort htrans htotal snapshots).imp of_decide_eq_true

/-- Snapshots of different players can be sorted in one way only. -/
theorem mergeSort_byPlayer_eq_of_perm {snapshots others : List Snapshot}
    (hnodup : (snapshots.map Snapshot.playerId).Nodup) (hperm : snapshots.Perm others) :
    snapshots.mergeSort byPlayer = others.mergeSort byPlayer := by
  have hsorted : (snapshots.mergeSort byPlayer).Perm (others.mergeSort byPlayer) :=
    (snapshots.mergeSort_perm byPlayer).trans
      (hperm.trans (others.mergeSort_perm byPlayer).symm)
  refine hsorted.eq_of_pairwise ?_ (pairwise_mergeSort_byPlayer _) (pairwise_mergeSort_byPlayer _)
  intro a b ha hb hab hba
  have hfirst : a ∈ snapshots := (snapshots.mergeSort_perm byPlayer).mem_iff.mp ha
  have hsecond : b ∈ snapshots :=
    hperm.mem_iff.mpr ((others.mergeSort_perm byPlayer).mem_iff.mp hb)
  exact List.inj_on_of_nodup_map hnodup hfirst hsecond (String.le_antisymm hab hba)

/-- The snapshots of the blocked players among some records. -/
def blockedAmong (policy : Policy) (now : WallTime) (records : List (String × Activity)) :
    List Snapshot :=
  (records.filter fun (_, activity) => (activity.blockAt? now).isSome).map
    fun (playerId, activity) => activity.snapshot playerId policy now

/-- A sweep over the shards finds the blocked players among all records. -/
theorem blockedPlayers_eq (tracker : Tracker) (now : WallTime) :
    tracker.blockedPlayers now =
      (blockedAmong tracker.policy now tracker.entries).mergeSort byPlayer := by
  have hamong : tracker.shards.flatMap (blockedIn tracker.policy now) =
      blockedAmong tracker.policy now tracker.entries := by
    rw [blockedAmong, entries, List.filter_flatMap, List.map_flatMap]
    rfl
  rw [blockedPlayers, hamong]
  rfl

/-- Where no player has two records, none is found twice. -/
theorem nodup_blockedAmong {records : List (String × Activity)}
    (h : (records.map Prod.fst).Nodup) (policy : Policy) (now : WallTime) :
    ((blockedAmong policy now records).map Snapshot.playerId).Nodup := by
  rw [blockedAmong, List.map_map]
  exact h.sublist (List.filter_sublist.map _)

/-- The list of blocked players is strictly in the order of their ids. -/
theorem Routed.pairwise_blockedPlayers (h : tracker.Routed) (now : WallTime) :
    (tracker.blockedPlayers now).Pairwise fun a b => a.playerId < b.playerId := by
  have hperm := (blockedAmong tracker.policy now tracker.entries).mergeSort_perm byPlayer
  have hdistinct : ((tracker.blockedPlayers now).map Snapshot.playerId).Nodup := by
    rw [blockedPlayers_eq]
    exact (hperm.map _).nodup_iff.mpr (nodup_blockedAmong h.nodup_entries tracker.policy now)
  have hordered : (tracker.blockedPlayers now).Pairwise fun a b => a.playerId ≤ b.playerId := by
    rw [blockedPlayers_eq]
    exact pairwise_mergeSort_byPlayer _
  have hapart : (tracker.blockedPlayers now).Pairwise fun a b => a.playerId ≠ b.playerId :=
    List.pairwise_map.mp hdistinct
  refine (hordered.and hapart).imp ?_
  rintro a b ⟨hle, hne⟩
  by_contra hge
  exact hne (String.le_antisymm hle (String.not_lt.mp hge))

/-- The list shows the players whose block is in force, as a reader sees each of them. -/
theorem Routed.mem_blockedPlayers_iff (h : tracker.Routed) {now : WallTime}
    {snapshot : Snapshot} :
    snapshot ∈ tracker.blockedPlayers now ↔
      ∃ playerId, ((tracker.record? playerId).bind fun activity => activity.blockAt? now).isSome ∧
        tracker.snapshot? playerId now = some snapshot := by
  rw [blockedPlayers_eq, List.mem_mergeSort, blockedAmong, List.mem_map]
  constructor
  · rintro ⟨⟨playerId, activity⟩, hentry, rfl⟩
    obtain ⟨hmem, hforce⟩ := List.mem_filter.mp hentry
    have hrecord := h.mem_entries_iff.mp hmem
    exact ⟨playerId, by rw [hrecord]; exact hforce, by rw [snapshot?, hrecord]; rfl⟩
  · rintro ⟨playerId, hforce, hsnapshot⟩
    obtain ⟨activity, hrecord, hshown⟩ := Option.map_eq_some_iff.mp hsnapshot
    rw [hrecord, Option.bind_some] at hforce
    refine ⟨(playerId, activity), ?_, hshown⟩
    exact List.mem_filter.mpr ⟨h.mem_entries_iff.mpr hrecord, hforce⟩

/-! ## The order of the entries -/

/-- The same records in the same shards, the entries of each shard in any order. -/
structure Rearranged (tracker other : Tracker) : Prop where
  policy_eq : other.policy = tracker.policy
  route_eq : other.route = tracker.route
  perm : List.Forall₂ (fun shard rearranged => shard.entries.Perm rearranged.entries)
    tracker.shards other.shards

namespace Rearranged

variable {other : Tracker}

/-- A tracker has the same records in the same shards as itself. -/
theorem refl (tracker : Tracker) : tracker.Rearranged tracker where
  policy_eq := rfl
  route_eq := rfl
  perm := List.forall₂_same.mpr fun shard _ => List.Perm.refl shard.entries

theorem slot_eq (h : tracker.Rearranged other) (playerId : String) :
    other.slot playerId = tracker.slot playerId := by
  rw [slot, slot, h.route_eq, h.perm.length_eq]

/-- Each shard of a tracker whose entries were rearranged has the entries of a shard from
before, in some order. -/
theorem shard_perm (h : tracker.Rearranged other) {i : Nat} {rearranged : Table Activity}
    (hshard : other.shards[i]? = some rearranged) :
    ∃ shard, tracker.shards[i]? = some shard ∧ shard.entries.Perm rearranged.entries := by
  obtain ⟨hi, rfl⟩ := List.getElem?_eq_some_iff.mp hshard
  have hlt : i < tracker.shards.length := h.perm.length_eq ▸ hi
  exact ⟨_, List.getElem?_eq_getElem hlt, h.perm.get hlt hi⟩

/-- Rearranging the entries of each shard leaves every record in the shard of its player. -/
theorem routed (h : tracker.Rearranged other) (hrouted : tracker.Routed) : other.Routed := by
  intro i rearranged hshard entry hentry
  obtain ⟨shard, hbefore, hperm⟩ := h.shard_perm hshard
  rw [h.slot_eq]
  exact hrouted i shard hbefore entry (hperm.mem_iff.mpr hentry)

/-- Rearranging the entries of each shard leaves the record of each player. -/
theorem record?_eq (h : tracker.Rearranged other) (playerId : String) :
    other.record? playerId = tracker.record? playerId := by
  unfold record?
  rw [h.slot_eq, List.getD_eq_getElem?_getD, List.getD_eq_getElem?_getD]
  cases hshard : other.shards[tracker.slot playerId]? with
  | none =>
      have hbeyond : tracker.shards.length ≤ tracker.slot playerId := by
        rw [h.perm.length_eq]
        exact List.getElem?_eq_none_iff.mp hshard
      rw [List.getElem?_eq_none hbeyond]
  | some rearranged =>
      obtain ⟨shard, hbefore, hperm⟩ := h.shard_perm hshard
      rw [hbefore]
      exact (Table.get?_eq_of_perm hperm playerId).symm

/-- Rearranging the entries of each shard leaves the shards and the limits. -/
theorem under {policy : Policy} (h : tracker.Rearranged other) (hunder : tracker.Under policy) :
    other.Under policy where
  sharded := by
    have hsharded := hunder.sharded
    unfold Sharded at hsharded ⊢
    rwa [← h.perm.length_eq]
  policy_eq := h.policy_eq.trans hunder.policy_eq

end Rearranged

end Tracker
end Turnstile
