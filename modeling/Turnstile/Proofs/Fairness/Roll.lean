import Turnstile.Proofs.Fairness.Sharding

/-!
# One roll for all players

The shards of a tracker do not show: it answers like one table with a record for each
player, however players are routed, how many shards there are, and in whatever order the
entries of a shard happen to lie.  On that table it is plain that players do not get in
each other's way.

Main definitions and results:

- `Roll`, `Roll.step`, `Roll.run`: one table for all players, and the operations on it.
- `Tracker.Runs`: the runs of a tracker whose entries lie in any order.
- `Tracker.Keeps`, `Tracker.Keeps.step`: a tracker has the records of a roll, and keeps them
  through every operation.
- `Tracker.Op.concerns`, `Tracker.ownAnswers`: the operations that other players have no
  part in, and the answers to those of one player.
- `Tracker.answers_of_one_roll`: every run of a tracker has the answers of one roll.
-/

namespace Turnstile

/-! ## The roll -/

/-- The records of all players in one table. -/
structure Roll where
  policy : Policy
  records : Table Activity

namespace Roll

open Tracker (Op Answer)

/-- A roll without records. -/
def new (policy : Policy) : Roll where
  policy := policy
  records := Table.empty

/-- Files the record of a player. -/
def file (roll : Roll) (playerId : String) (activity : Activity) : Roll :=
  { roll with records := roll.records.insert playerId activity }

/-- Carries out an operation. -/
def step (roll : Roll) : Op → Answer × Roll
  | .check event now =>
      let activity := (roll.records.get? event.playerId).getD (Activity.fresh now)
      let (verdict, judged) := activity.judge roll.policy event now
      (.verdict verdict, roll.file event.playerId judged)
  | .unblock playerId now =>
      match roll.records.get? playerId with
      | none => (.unblocked none, roll)
      | some activity =>
          (.unblocked (some (activity.clear.snapshot playerId roll.policy now)),
            roll.file playerId activity.clear)
  | .snapshot playerId now =>
      (.snapshot ((roll.records.get? playerId).map fun activity =>
        activity.snapshot playerId roll.policy now), roll)
  | .blockedPlayers now =>
      (.blockedPlayers
        ((Tracker.blockedAmong roll.policy now roll.records.entries).mergeSort Tracker.byPlayer),
        roll)
  | .evictIdle now idle =>
      let kept := roll.records.filter fun _ => Tracker.outlives now idle
      (.evicted (roll.records.size - kept.size), { roll with records := kept })
  | .size => (.size roll.records.size, roll)

/-- Carries out operations one after the other. -/
def run (roll : Roll) : List Op → List Answer × Roll
  | [] => ([], roll)
  | op :: ops =>
      let (answer, roll) := roll.step op
      let (answers, roll) := roll.run ops
      (answer :: answers, roll)

@[simp]
theorem run_cons_fst (roll : Roll) (op : Op) (ops : List Op) :
    (roll.run (op :: ops)).1 = (roll.step op).1 :: ((roll.step op).2.run ops).1 :=
  rfl

@[simp]
theorem policy_step (roll : Roll) (op : Op) : (roll.step op).2.policy = roll.policy := by
  cases op with
  | unblock playerId now =>
      simp only [step]
      split <;> rfl
  | _ => rfl

/-- A step changes the record of a player by what the operation does to it. -/
theorem get?_step (roll : Roll) (op : Op) (playerId : String) :
    (roll.step op).2.records.get? playerId =
      op.onRecord roll.policy playerId (roll.records.get? playerId) := by
  cases op with
  | check event now =>
      simp only [step, file, Op.onRecord, Table.get?_insert]
      by_cases hsame : event.playerId = playerId
      · subst hsame
        simp
      · simp [hsame, Ne.symm hsame]
  | unblock other now =>
      simp only [step, Op.onRecord]
      by_cases hsame : other = playerId
      · subst hsame
        cases hrecord : roll.records.get? other with
        | none => simp [hrecord]
        | some activity => simp [file, Table.get?_insert]
      · cases roll.records.get? other with
        | none => simp [hsame]
        | some activity => simp [file, Table.get?_insert, hsame, Ne.symm hsame]
  | evictIdle now idle => exact Table.get?_filter _ _ playerId
  | snapshot _ _ => rfl
  | blockedPlayers _ => rfl
  | size => rfl

end Roll

namespace Tracker

/-! ## Shards and the roll -/

/-- The runs of a tracker.  After every operation the entries of each shard may lie in
another order. -/
inductive Runs : Tracker → List Op → List Answer → Tracker → Prop
  | nil (tracker : Tracker) : Runs tracker [] [] tracker
  | cons {tracker next last : Tracker} {op : Op} {ops : List Op} {answers : List Answer}
      (hnext : (tracker.step op).2.Rearranged next) (hrest : Runs next ops answers last) :
      Runs tracker (op :: ops) ((tracker.step op).1 :: answers) last

/-- A run that leaves the entries of every shard in their order is one of the runs of a
tracker. -/
theorem runs_run (tracker : Tracker) (ops : List Op) :
    tracker.Runs ops (tracker.run ops).1 (tracker.run ops).2 := by
  induction ops generalizing tracker with
  | nil => exact .nil tracker
  | cons op ops ih => exact .cons (.refl _) (ih (tracker.step op).2)

/-- A tracker with every record in its shard has the records of a roll. -/
structure Keeps (tracker : Tracker) (roll : Roll) : Prop where
  under : tracker.Under roll.policy
  routed : tracker.Routed
  record?_eq : ∀ playerId, tracker.record? playerId = roll.records.get? playerId

/-- A new tracker has the records of a new roll: none. -/
theorem keeps_new (policy : Policy) (route : String → Nat) (shardCount : Nat) :
    (new policy route shardCount).Keeps (Roll.new policy) where
  under := under_new policy route shardCount
  routed := routed_new policy route shardCount
  record?_eq := record?_new policy route shardCount

namespace Keeps

variable {tracker other : Tracker} {roll : Roll}

/-- A tracker that has the records of a roll has them in whatever order its entries lie. -/
theorem rearrange (h : tracker.Keeps roll) (hother : tracker.Rearranged other) :
    other.Keeps roll where
  under := hother.under h.under
  routed := hother.routed h.routed
  record?_eq playerId := (hother.record?_eq playerId).trans (h.record?_eq playerId)

/-- A tracker that has the records of a roll has them after an operation on both. -/
theorem step (h : tracker.Keeps roll) (op : Op) : (tracker.step op).2.Keeps (roll.step op).2 where
  under := by
    rw [Roll.policy_step]
    exact h.under.step op
  routed := h.routed.step op
  record?_eq playerId := by
    rw [record?_step h.under.sharded, Roll.get?_step, h.record?_eq, h.under.policy_eq]

/-- The records of all shards are those of the roll. -/
theorem entries_perm (h : tracker.Keeps roll) : tracker.entries.Perm roll.records.entries := by
  refine (List.perm_ext_iff_of_nodup ?_ ?_).mpr ?_
  · exact List.Nodup.of_map Prod.fst h.routed.nodup_entries
  · exact List.Nodup.of_map Prod.fst roll.records.nodup
  · rintro ⟨playerId, activity⟩
    rw [h.routed.mem_entries_iff, Table.mem_entries_iff, h.record?_eq]

/-- There are as many records in the shards as on the roll. -/
theorem size_eq (h : tracker.Keeps roll) : tracker.size = roll.records.size := by
  rw [size_eq_length_entries, h.entries_perm.length_eq, Table.size]

/-- An operation gets the same answer from a tracker as from a roll with the same records. -/
theorem step_fst (h : tracker.Keeps roll) (op : Op) : (tracker.step op).1 = (roll.step op).1 := by
  cases op with
  | check event now =>
      change Answer.verdict (tracker.check event now).1 = _
      rw [check_fst, met, h.record?_eq, h.under.policy_eq]
      rfl
  | unblock playerId now =>
      simp only [Tracker.step, unblock, Roll.step, h.record?_eq, h.under.policy_eq]
      cases roll.records.get? playerId <;> rfl
  | snapshot playerId now =>
      simp only [Tracker.step, snapshot?, Roll.step, h.record?_eq, h.under.policy_eq]
  | blockedPlayers now =>
      have hfound : (blockedAmong roll.policy now tracker.entries).Perm
          (blockedAmong roll.policy now roll.records.entries) :=
        (h.entries_perm.filter _).map _
      have hdistinct := nodup_blockedAmong h.routed.nodup_entries roll.policy now
      simp only [Tracker.step, Roll.step, blockedPlayers_eq, h.under.policy_eq]
      rw [mergeSort_byPlayer_eq_of_perm hdistinct hfound]
  | evictIdle now idle =>
      have hbefore := h.size_eq
      have hafter : (tracker.evictIdle now idle).2.size =
          ((roll.records.filter fun _ => outlives now idle)).size :=
        (h.step (.evictIdle now idle)).size_eq
      change Answer.evicted (tracker.size - (tracker.evictIdle now idle).2.size) = _
      rw [hbefore, hafter]
      rfl
  | size =>
      change Answer.size tracker.size = _
      rw [h.size_eq]
      rfl

/-- A run gets the same answers from a tracker as from a roll with the same records, and the
two end with the same records. -/
theorem runs (h : tracker.Keeps roll) {ops : List Op} {answers : List Answer} {last : Tracker}
    (hruns : tracker.Runs ops answers last) :
    answers = (roll.run ops).1 ∧ last.Keeps (roll.run ops).2 := by
  induction hruns generalizing roll with
  | nil tracker => exact ⟨rfl, h⟩
  | @cons tracker next last op ops answers hnext hrest ih =>
      obtain ⟨hanswers, hlast⟩ := ih ((h.step op).rearrange hnext)
      rw [Roll.run_cons_fst, h.step_fst op, hanswers]
      exact ⟨rfl, hlast⟩

end Keeps

/-! ## One player in company -/

/-- The player that an operation is about, if it is about one. -/
def Op.player? : Op → Option String
  | .check event _ => some event.playerId
  | .unblock playerId _ | .snapshot playerId _ => some playerId
  | .blockedPlayers _ | .evictIdle _ _ | .size => none

/-- Whether an operation is not about another player. -/
def Op.concerns (playerId : String) (op : Op) : Bool :=
  op.player?.all fun other => other = playerId

/-- The answers to the operations about a player, in a run. -/
def ownAnswers (playerId : String) (ops : List Op) (answers : List Answer) : List Answer :=
  ((ops.zip answers).filter fun (op, _) => op.player? = some playerId).map Prod.snd

theorem ownAnswers_cons (playerId : String) (op : Op) (ops : List Op) (answer : Answer)
    (answers : List Answer) :
    ownAnswers playerId (op :: ops) (answer :: answers) =
      if op.player? = some playerId then answer :: ownAnswers playerId ops answers
      else ownAnswers playerId ops answers := by
  unfold ownAnswers
  rw [List.zip_cons_cons, List.filter_cons]
  by_cases hown : op.player? = some playerId
  · simp [hown]
  · simp [hown]

end Tracker

namespace Roll

open Tracker (Op ownAnswers ownAnswers_cons)

/-- Two rolls go by the same limits and agree about a player. -/
structure Agree (playerId : String) (roll other : Roll) : Prop where
  policy_eq : roll.policy = other.policy
  get?_eq : roll.records.get? playerId = other.records.get? playerId

namespace Agree

variable {playerId : String} {roll other : Roll} {op : Op}

/-- Rolls that agree about a player agree about the player after an operation on both. -/
theorem step (h : Agree playerId roll other) (op : Op) :
    Agree playerId (roll.step op).2 (other.step op).2 where
  policy_eq := by rw [policy_step, policy_step, h.policy_eq]
  get?_eq := by rw [get?_step, get?_step, h.policy_eq, h.get?_eq]

/-- Rolls that agree about a player agree about the player after an operation about another
one on the first roll alone. -/
theorem skip (h : Agree playerId roll other) (hother : op.concerns playerId = false) :
    Agree playerId (roll.step op).2 other where
  policy_eq := (policy_step roll op).trans h.policy_eq
  get?_eq := by
    rw [get?_step, ← h.get?_eq]
    cases op with
    | check event now =>
        have hne : event.playerId ≠ playerId := by simpa [Op.concerns, Op.player?] using hother
        simp [Op.onRecord, hne]
    | unblock player now =>
        have hne : player ≠ playerId := by simpa [Op.concerns, Op.player?] using hother
        simp [Op.onRecord, hne]
    | snapshot player now => rfl
    | blockedPlayers now => rfl
    | evictIdle now idle => simp [Op.concerns, Op.player?] at hother
    | size => rfl

/-- An operation about a player gets the same answer from rolls that agree about the
player. -/
theorem step_fst (h : Agree playerId roll other) (hown : op.player? = some playerId) :
    (roll.step op).1 = (other.step op).1 := by
  cases op with
  | check event now =>
      obtain rfl := Option.some.inj hown
      simp only [Roll.step, h.policy_eq, h.get?_eq]
  | unblock player now =>
      obtain rfl := Option.some.inj hown
      simp only [Roll.step, h.policy_eq, h.get?_eq]
      cases other.records.get? player <;> rfl
  | snapshot player now =>
      obtain rfl := Option.some.inj hown
      simp only [Roll.step, h.policy_eq, h.get?_eq]
  | blockedPlayers now => contradiction
  | evictIdle now idle => contradiction
  | size => contradiction

/-- A run without the operations about other players gives the player the same answers. -/
theorem ownAnswers_filter (h : Agree playerId roll other) (ops : List Op) :
    ownAnswers playerId ops (roll.run ops).1 =
      ownAnswers playerId (ops.filter fun op => op.concerns playerId)
        (other.run (ops.filter fun op => op.concerns playerId)).1 := by
  induction ops generalizing roll other with
  | nil => rfl
  | cons op ops ih =>
      rw [run_cons_fst, ownAnswers_cons, List.filter_cons]
      by_cases hconcerns : op.concerns playerId = true
      · rw [if_pos hconcerns, run_cons_fst, ownAnswers_cons, ih (h.step op)]
        split
        · rename_i hown
          rw [h.step_fst hown]
        · rfl
      · have hother : op.concerns playerId = false := Bool.eq_false_iff.mpr hconcerns
        have hforeign : op.player? ≠ some playerId := by
          intro hown
          simp [Op.concerns, hown] at hother
        rw [if_neg hconcerns, if_neg hforeign]
        exact ih (h.skip hother)

end Agree

end Roll

namespace Tracker

/-! ## The law -/

/-- A tracker that starts without records gives in every run, with events that meet the end
of the calendar too, the answers of one roll for all players, however they are routed, into
how many shards, and in whatever order the entries come to lie.  At any point of a run the
list of blocked players is strictly in the order of their ids and shows those whose block is
in force, as a reader sees each of them, and eviction tells how many records vanish.  To the
operations about a player the answers are those of any run without the operations about
others. -/
theorem answers_of_one_roll {policy : Policy} {route : String → Nat} {shardCount : Nat}
    {ops : List Op} {answers : List Answer} {tracker : Tracker}
    (hruns : (new policy route shardCount).Runs ops answers tracker) :
    answers = ((Roll.new policy).run ops).1 ∧
    (∀ now, let listed := tracker.blockedPlayers now
      (listed.Pairwise fun a b => a.playerId < b.playerId) ∧
      ∀ snapshot, snapshot ∈ listed ↔ ∃ playerId,
        ((tracker.record? playerId).bind fun activity => activity.blockAt? now).isSome ∧
          tracker.snapshot? playerId now = some snapshot) ∧
    (∀ now idle, (tracker.evictIdle now idle).1 =
      (tracker.players \ (tracker.evictIdle now idle).2.players).ncard) ∧
    ∀ playerId (otherRoute : String → Nat) otherCount others last,
      (new policy otherRoute otherCount).Runs (ops.filter fun op => op.concerns playerId)
        others last →
      ownAnswers playerId ops answers =
        ownAnswers playerId (ops.filter fun op => op.concerns playerId) others := by
  obtain ⟨hanswers, hkeeps⟩ := (keeps_new policy route shardCount).runs hruns
  refine ⟨hanswers, ?_, ?_, ?_⟩
  · intro now
    exact ⟨hkeeps.routed.pairwise_blockedPlayers now,
      fun snapshot => hkeeps.routed.mem_blockedPlayers_iff⟩
  · intro now idle
    exact hkeeps.routed.evicted_eq_ncard now idle
  · intro playerId otherRoute otherCount others last hothers
    obtain ⟨halone, -⟩ := (keeps_new policy otherRoute otherCount).runs hothers
    rw [hanswers, halone]
    exact Roll.Agree.ownAnswers_filter ⟨rfl, rfl⟩ ops

/-- Two players share a shard, and their entries come to lie the other way round before the
blocked players are listed. -/
theorem answers_of_one_roll_reordered :
    let gain (playerId : String) : Event := ⟨playerId, 0, .progression ⟨2000, none⟩⟩
    let ops : List Op := [.check (gain "ann") 0, .check (gain "bob") 1, .blockedPlayers 2]
    let start := new Policy.standard (fun _ => 7) 2
    ∃ answers last, start.Runs ops answers last ∧
      last.entries = (start.run ops).2.entries.reverse ∧
      answers = ((Roll.new Policy.standard).run ops).1 ∧
      (last.blockedPlayers 2).Pairwise fun a b => a.playerId < b.playerId := by
  intro gain ops start
  let ann : Activity := ⟨0, 1, 0, some ⟨.scoreAnomaly, 600000000000⟩, 0⟩
  let bob : Activity := ⟨1, 1, 0, some ⟨.scoreAnomaly, 600000000001⟩, 1⟩
  let last : Tracker :=
    { start with shards := [Table.empty, ⟨[("bob", bob), ("ann", ann)], by decide⟩] }
  have hshards : (start.run [.check (gain "ann") 0, .check (gain "bob") 1]).2.shards.map
      Table.entries = [[], [("ann", ann), ("bob", bob)]] := by decide
  have hnext : (start.run [.check (gain "ann") 0, .check (gain "bob") 1]).2.Rearranged last := by
    have hperm : List.Forall₂ (fun (entries : List (String × Activity)) rearranged =>
        entries.Perm (Table.entries rearranged)) [[], [("ann", ann), ("bob", bob)]] last.shards :=
      .cons (List.Perm.refl []) (.cons (List.Perm.swap _ _ []) .nil)
    rw [← hshards] at hperm
    exact ⟨rfl, rfl, List.forall₂_map_left_iff.mp hperm⟩
  have hruns : start.Runs ops _ last := .cons (.refl _) (.cons hnext (.cons (.refl _) (.nil _)))
  obtain ⟨hanswers, hlisted, -⟩ := answers_of_one_roll hruns
  exact ⟨_, last, hruns, by decide, hanswers, (hlisted 2).1⟩

end Tracker
end Turnstile
