import Turnstile.Fairness.Tracker
import Turnstile.Proofs.Timeline

/-!
# The record of one player

The shards of a tracker do not show in the record of a player: each operation
changes it by a function of that record alone.

Main definitions and results:

- `Tracker.Sharded`, `Tracker.Under`: there is a shard to file records in, and limits hold.
- `Tracker.Op.onRecord`: what an operation does to the record of a player.
- `Tracker.record?_step`: a step changes the record of a player by that function.
- `Tracker.Op.Effect`, `Tracker.step_effect`: the ways in which a record can change.
- `Tracker.mem_blockedPlayers`: a blocked player is listed.
-/

namespace Turnstile
namespace Tracker

/-! ## Shards -/

/-- There is a shard to file records in. -/
def Sharded (tracker : Tracker) : Prop :=
  0 < tracker.shards.length

/-- A new tracker has a shard, whatever number was asked for. -/
theorem sharded_new (policy : Policy) (route : String → Nat) (shardCount : Nat) :
    (new policy route shardCount).Sharded := by
  simp only [Sharded, new, List.length_replicate]
  exact Nat.le_max_right shardCount 1

/-- A new tracker has no records. -/
theorem record?_new (policy : Policy) (route : String → Nat) (shardCount : Nat)
    (playerId : String) : (new policy route shardCount).record? playerId = none := by
  simp only [record?, slot, new, List.getD_eq_getElem?_getD, List.getElem?_replicate]
  split <;> rfl

/-- Every player has a shard. -/
theorem Sharded.slot_lt {tracker : Tracker} (hsharded : tracker.Sharded) (playerId : String) :
    tracker.slot playerId < tracker.shards.length :=
  Nat.mod_lt _ hsharded

@[simp]
theorem slot_store (tracker : Tracker) (playerId other : String) (activity : Activity) :
    (tracker.store playerId activity).slot other = tracker.slot other := by
  simp [slot, store]

/-- Filing a record leaves the records of the others. -/
theorem record?_store_of_ne (tracker : Tracker) {playerId other : String} (activity : Activity)
    (hne : other ≠ playerId) :
    (tracker.store playerId activity).record? other = tracker.record? other := by
  unfold record?
  rw [slot_store]
  by_cases hslot : tracker.slot playerId = tracker.slot other
  · cases hshard : tracker.shards[tracker.slot other]? with
    | none => simp [store, hslot, hshard]
    | some shard => simp [store, hslot, hshard, Table.get?_insert, hne]
  · simp [store, hslot]

/-- A record that is filed is found. -/
theorem record?_store_self {tracker : Tracker} (hsharded : tracker.Sharded) (playerId : String)
    (activity : Activity) :
    (tracker.store playerId activity).record? playerId = some activity := by
  have hlt := hsharded.slot_lt playerId
  unfold record?
  rw [slot_store]
  simp [store, hlt, Table.get?_insert]

/-- Filing the record that is there already changes nothing. -/
theorem store_of_record? {tracker : Tracker} {playerId : String} {activity : Activity}
    (h : tracker.record? playerId = some activity) :
    tracker.store playerId activity = tracker := by
  have hshards : tracker.shards.modify (tracker.slot playerId)
      (fun shard => shard.insert playerId activity) = tracker.shards := by
    apply List.ext_getElem?
    intro i
    by_cases hi : tracker.slot playerId = i
    · subst hi
      cases hshard : tracker.shards[tracker.slot playerId]? with
      | none => simp [hshard]
      | some shard =>
          have hfiled : shard.get? playerId = some activity := by
            simpa [record?, hshard] using h
          simp [hshard, Table.insert_of_get? hfiled]
    · simp [hi]
  simp [store, hshards]

/-! ## Operations -/

/-- The record that an event of a player meets. -/
def met (tracker : Tracker) (playerId : String) (now : WallTime) : Activity :=
  (tracker.record? playerId).getD (Activity.fresh now)

/-- The verdict on an event hangs on the record of its player alone. -/
theorem check_fst (tracker : Tracker) (event : Event) (now : WallTime) :
    (tracker.check event now).1 =
      ((tracker.met event.playerId now).judge tracker.policy event now).1 :=
  rfl

/-- The record that the judgement leaves is filed. -/
theorem check_snd (tracker : Tracker) (event : Event) (now : WallTime) :
    (tracker.check event now).2 =
      tracker.store event.playerId
        ((tracker.met event.playerId now).judge tracker.policy event now).2 :=
  rfl

/-- An event of another player leaves the record of a player. -/
theorem record?_check_of_ne (tracker : Tracker) (event : Event) (now : WallTime)
    {playerId : String} (hne : playerId ≠ event.playerId) :
    (tracker.check event now).2.record? playerId = tracker.record? playerId := by
  rw [check_snd]
  exact record?_store_of_ne tracker _ hne

/-- An event of a player leaves the record that its judgement gives. -/
theorem record?_check_self {tracker : Tracker} (hsharded : tracker.Sharded) (event : Event)
    (now : WallTime) :
    (tracker.check event now).2.record? event.playerId =
      some ((tracker.met event.playerId now).judge tracker.policy event now).2 := by
  rw [check_snd]
  exact record?_store_self hsharded event.playerId _

/-- While a block of a player is in force, an event of the player is answered with it and
changes nothing. -/
theorem check_of_blocked {tracker : Tracker} {event : Event} {activity : Activity}
    {now : WallTime} {block : Block} (hrecord : tracker.record? event.playerId = some activity)
    (hforce : activity.blockAt? now = some block) :
    tracker.check event now = (.refused (.blocked block), tracker) := by
  have hjudge : (tracker.met event.playerId now).judge tracker.policy event now =
      (.refused (.blocked block), activity) := by
    simp [met, hrecord, Activity.judge, hforce]
  refine Prod.ext ?_ ?_
  · rw [check_fst, hjudge]
  · rw [check_snd, hjudge]
    exact store_of_record? hrecord

/-- Eviction drops a record unless it outlives the time. -/
theorem record?_evictIdle (tracker : Tracker) (now : WallTime) (idle : Span) (playerId : String) :
    (tracker.evictIdle now idle).2.record? playerId =
      (tracker.record? playerId).filter (outlives now idle) := by
  unfold record? evictIdle slot
  simp only [List.length_map, List.getD_eq_getElem?_getD, List.getElem?_map]
  cases tracker.shards[tracker.route playerId % tracker.shards.length]? with
  | none => simp
  | some shard => simp [Table.get?_filter]

/-! ## One step -/

/-- What an operation does to the record of a player, if there is one. -/
def Op.onRecord (policy : Policy) (playerId : String) :
    Op → Option Activity → Option Activity
  | .check event now, record =>
      if event.playerId = playerId then
        some ((record.getD (Activity.fresh now)).judge policy event now).2
      else record
  | .unblock other _, record => if other = playerId then record.map Activity.clear else record
  | .evictIdle now idle, record => record.filter (outlives now idle)
  | .snapshot _ _, record | .blockedPlayers _, record | .size, record => record

@[simp]
theorem policy_step (tracker : Tracker) (op : Op) :
    (tracker.step op).2.policy = tracker.policy := by
  cases op with
  | unblock playerId now =>
      simp only [step, unblock]
      split <;> rfl
  | _ => rfl

/-- No operation takes shards away. -/
theorem Sharded.step {tracker : Tracker} (hsharded : tracker.Sharded) (op : Op) :
    (tracker.step op).2.Sharded := by
  cases op with
  | check event now => simpa [Tracker.step, check, Sharded, store] using hsharded
  | unblock playerId now =>
      simp only [Tracker.step, unblock]
      split
      · exact hsharded
      · simpa [Sharded, store] using hsharded
  | evictIdle now idle => simpa [Tracker.step, evictIdle, Sharded] using hsharded
  | _ => exact hsharded

/-- A tracker that can file records and goes by some limits. -/
structure Under (policy : Policy) (tracker : Tracker) : Prop where
  sharded : tracker.Sharded
  policy_eq : tracker.policy = policy

/-- A new tracker goes by the limits that it was made for. -/
theorem under_new (policy : Policy) (route : String → Nat) (shardCount : Nat) :
    (new policy route shardCount).Under policy where
  sharded := sharded_new policy route shardCount
  policy_eq := rfl

/-- No operation changes the limits. -/
theorem Under.step {policy : Policy} {tracker : Tracker} (hunder : tracker.Under policy)
    (op : Op) : (tracker.step op).2.Under policy where
  sharded := hunder.sharded.step op
  policy_eq := (policy_step tracker op).trans hunder.policy_eq

/-- A step changes the record of a player by what the operation does to it. -/
theorem record?_step {tracker : Tracker} (hsharded : tracker.Sharded) (op : Op)
    (playerId : String) :
    (tracker.step op).2.record? playerId =
      op.onRecord tracker.policy playerId (tracker.record? playerId) := by
  cases op with
  | check event now =>
      by_cases hsame : event.playerId = playerId
      · subst hsame
        simp only [Op.onRecord, if_pos]
        exact record?_check_self hsharded event now
      · simp only [Op.onRecord, if_neg hsame]
        exact record?_check_of_ne tracker event now (Ne.symm hsame)
  | unblock other now =>
      simp only [step, unblock, Op.onRecord]
      by_cases hsame : other = playerId
      · subst hsame
        cases hrecord : tracker.record? other with
        | none => simp [hrecord]
        | some activity => simp [record?_store_self hsharded]
      · cases tracker.record? other with
        | none => simp [hsame]
        | some activity => simp [hsame, record?_store_of_ne tracker _ (Ne.symm hsame)]
  | evictIdle now idle => exact record?_evictIdle tracker now idle playerId
  | snapshot _ _ => rfl
  | blockedPlayers _ => rfl
  | size => rfl

/-- The ways in which an operation can change the record of a player. -/
inductive Op.Effect (policy : Policy) (playerId : String) :
    Op → Option Activity → Option Activity → Prop
  /-- An event of the player is judged. -/
  | judged {event : Event} (now : WallTime) (hsame : event.playerId = playerId)
      (record : Option Activity) :
      Effect policy playerId (.check event now) record
        (some ((record.getD (Activity.fresh now)).judge policy event now).2)
  /-- The block of the player is lifted. -/
  | cleared (now : WallTime) (record : Option Activity) :
      Effect policy playerId (.unblock playerId now) record (record.map Activity.clear)
  /-- Silent players are dropped. -/
  | swept (now : WallTime) (idle : Span) (record : Option Activity) :
      Effect policy playerId (.evictIdle now idle) record (record.filter (outlives now idle))
  /-- The operation is about other players, or only reads. -/
  | spared {op : Op} (hquiet : ∀ event now, op = .check event now → event.playerId ≠ playerId)
      (record : Option Activity) : Effect policy playerId op record record

/-- A step changes the record of a player in one of these ways. -/
theorem step_effect {policy : Policy} {tracker : Tracker} (hunder : tracker.Under policy)
    (op : Op) (playerId : String) :
    op.Effect policy playerId (tracker.record? playerId)
      ((tracker.step op).2.record? playerId) := by
  rw [record?_step hunder.sharded, hunder.policy_eq]
  cases op with
  | check event now =>
      by_cases hsame : event.playerId = playerId
      · simp only [Op.onRecord, if_pos hsame]
        exact .judged now hsame _
      · simp only [Op.onRecord, if_neg hsame]
        refine .spared ?_ _
        intro other later hop
        obtain ⟨rfl, -⟩ := Op.check.inj hop
        exact hsame
  | unblock other now =>
      by_cases hsame : other = playerId
      · subst hsame
        simp only [Op.onRecord, if_true]
        exact .cleared now _
      · simp only [Op.onRecord, if_neg hsame]
        exact .spared (by simp) _
  | evictIdle now idle => exact .swept now idle _
  | snapshot _ _ | blockedPlayers _ | size => exact .spared (by simp) _

/-! ## Runs -/

@[simp]
theorem run_cons_snd (tracker : Tracker) (op : Op) (ops : List Op) :
    (tracker.run (op :: ops)).2 = ((tracker.step op).2.run ops).2 :=
  rfl

@[simp]
theorem policy_run (tracker : Tracker) (ops : List Op) :
    (tracker.run ops).2.policy = tracker.policy := by
  induction ops generalizing tracker with
  | nil => rfl
  | cons op ops ih => rw [run_cons_snd, ih, policy_step]

/-- A run of two parts is the second after the first. -/
theorem run_append_snd (tracker : Tracker) (ops more : List Op) :
    (tracker.run (ops ++ more)).2 = ((tracker.run ops).2.run more).2 := by
  induction ops generalizing tracker with
  | nil => rfl
  | cons op ops ih => exact ih (tracker.step op).2

/-- No run takes shards away. -/
theorem Sharded.run {tracker : Tracker} (hsharded : tracker.Sharded) (ops : List Op) :
    (tracker.run ops).2.Sharded := by
  induction ops generalizing tracker with
  | nil => exact hsharded
  | cons op ops ih => exact ih (hsharded.step op)

/-- No run changes the limits. -/
theorem Under.run {policy : Policy} {tracker : Tracker} (hunder : tracker.Under policy)
    (ops : List Op) : (tracker.run ops).2.Under policy where
  sharded := hunder.sharded.run ops
  policy_eq := (policy_run tracker ops).trans hunder.policy_eq

/-! ## Blocked players -/

/-- A player whose block is in force is listed, as a reader sees the record. -/
theorem mem_blockedPlayers {tracker : Tracker} {playerId : String} {activity : Activity}
    {now : WallTime} {block : Block} (hrecord : tracker.record? playerId = some activity)
    (hforce : activity.blockAt? now = some block) :
    activity.snapshot playerId tracker.policy now ∈ tracker.blockedPlayers now := by
  unfold record? at hrecord
  cases hshard : tracker.shards[tracker.slot playerId]? with
  | none => simp [hshard] at hrecord
  | some shard =>
      have hfiled : (playerId, activity) ∈ shard.entries := by
        rw [Table.mem_entries_iff]
        simpa [hshard] using hrecord
      have hlisted : activity.snapshot playerId tracker.policy now ∈
          blockedIn tracker.policy now shard := by
        refine List.mem_map.mpr ⟨(playerId, activity), ?_, rfl⟩
        exact List.mem_filter.mpr ⟨hfiled, by simp [hforce]⟩
      unfold blockedPlayers
      rw [List.mem_mergeSort]
      exact List.mem_flatMap.mpr ⟨shard, List.mem_of_getElem? hshard, hlisted⟩

/-! ## Times -/

/-- The number of records can be asked for at any time. -/
instance : Timed Op where
  time?
    | .check _ now | .unblock _ now | .snapshot _ now | .blockedPlayers now | .evictIdle now _ =>
        some now
    | .size => none

end Tracker
end Turnstile
