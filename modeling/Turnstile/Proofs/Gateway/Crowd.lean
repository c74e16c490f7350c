import Turnstile.Gateway.Housekeeping
import Turnstile.Proofs.Gateway.Accounts
import Turnstile.Proofs.Gateway.Steps

/-!
# Submissions that are under way together

Passages take their steps in any order, and rounds of housekeeping come between them.  A
submission whose key can be read as text has that key leased from the lease on until its
outcome is known, and as long as the lease lasts no other submission with the key is under
way.  A key with a byte that is no text is not read at all, and then nothing is leased.

Main definitions:

- `Headers.isReadable`, `Headers.keyOf`: the values that are read, and the keys they name.
- `Visit`, `Crowd`, `Crowd.run`: submissions on their way, and what comes next.
- `Crowd.Stepped`: the ends of what comes next.
- `Crowd.Sound`: guards and leases of a crowd go together, at a clock that no reading has
  passed.
- `Crowd.Deduplicated`: what holds of keys at a moment.

Main results:

- `Crowd.stepped`: what comes next has one of the ends that `Crowd.Stepped` lists.
- `Crowd.Sound.advance`, `Crowd.Sound.step`, `Crowd.Sound.run`: guards and leases go together
  after one step of a submission, after whatever comes next, and after a whole run.
- `Crowd.deduplicated_run`: after every run, no two submissions under way have the same key,
  and each has the lease on its own.
- `Crowd.advance_of_unread`: a key that is not read leases nothing.

The clock of the leases is read before the store is locked, so readings can reach the store in
another order than they were taken.  The results hold for every order.
-/

namespace Turnstile

/-! ## Keys -/

namespace Headers

variable {headers : Headers} {name : String} {value : List UInt8}

/-- The text of a value, byte by byte. -/
def valueText (value : List UInt8) : String :=
  String.ofList (value.map fun b => Char.ofNat b.toNat)

/-- Whether a value is read: all of its bytes are text, and not all of them are blank. -/
def isReadable (value : List UInt8) : Bool :=
  value.all isTextByte && !Text.isAllBlank (valueText value)

/-- The key that a value names. -/
def keyOf (value : List UInt8) : String :=
  Text.trim (valueText value)

/-- A value that is not read is taken for missing. -/
theorem text?_of_first? (hfirst : headers.first? name = some value) :
    headers.text? name = if isReadable value then some (keyOf value) else none := by
  unfold text? visible? isReadable keyOf
  simp only [hfirst]
  change (if value.all isTextByte then some (valueText value) else none).bind _ = _
  cases value.all isTextByte with
  | false => rfl
  | true => cases hblank : Text.isAllBlank (valueText value) <;> simp [hblank]

end Headers

/-! ## The crowd -/

/-- A submission that is on its way. -/
structure Visit where
  request : Request
  stage : Stage
  /-- When its key was asked for. -/
  since : Instant

namespace Visit

/-- A submission that has just been heard. -/
def opened (request : Request) : Visit where
  request := request
  stage := .received
  since := 0

/-- What a submission holds, and since when. -/
def holding? (visit : Visit) : Option LeaseDesk.Holding :=
  visit.stage.guard?.map fun guard => ⟨guard.key, visit.since⟩

/-- A submission names its key by a value that is read. -/
def Names (visit : Visit) (value : List UInt8) : Prop :=
  visit.request.headers.first? idempotencyField = some value ∧ Headers.isReadable value = true

/-- The next step of a submission. -/
def advance (visit : Visit) (gateway : Gateway) (readings : Readings) : Visit × Gateway :=
  let (stage, after) := gateway.advance visit.request.submission readings visit.stage
  ({ visit with
      stage := stage
      since := if visit.stage = .authenticated then readings.leaseAt else visit.since },
    after)

/-- The key that is looked for is the one that is named. -/
theorem Names.key_eq {visit : Visit} {value : List UInt8} (h : visit.Names value) :
    visit.request.submission.idempotencyKey = some (Headers.keyOf value) :=
  (Headers.text?_of_first? h.1).trans (if_pos h.2)

end Visit

/-- The service with the submissions that it has heard, in order. -/
structure Crowd where
  gateway : Gateway
  visits : List Visit

namespace Crowd

/-- A service that has not heard any submission. -/
def opened (gateway : Gateway) : Crowd where
  gateway := gateway
  visits := []

/-- What can come next. -/
inductive Op
  /-- A request comes.  One that is not heard is answered at once. -/
  | receive (request : Request) (readings : Readings)
  /-- A submission takes its next step. -/
  | advance (number : Nat) (readings : Readings)
  /-- A round of housekeeping. -/
  | tidy (idleTtl : Option Span) (now : Instant) (wall : WallTime)
  /-- The events that were handed over are sent. -/
  | deliver

/-- The clock of the leases is read by steps and by housekeeping. -/
instance : Timed Op where
  time?
    | .advance _ readings => some readings.leaseAt
    | .tidy _ now _ => some now
    | .receive _ _ | .deliver => none

/-- Carries out what comes next. -/
def step (crowd : Crowd) : Op → Crowd
  | .receive request readings =>
      if request.isHeard crowd.gateway.maxBodyBytes then
        { crowd with visits := crowd.visits ++ [.opened request] }
      else { crowd with gateway := (crowd.gateway.respond request readings).2 }
  | .advance number readings =>
      match crowd.visits[number]? with
      | none => crowd
      | some visit =>
          let (visit, gateway) := visit.advance crowd.gateway readings
          ⟨gateway, crowd.visits.set number visit⟩
  | .tidy idleTtl now wall => { crowd with gateway := crowd.gateway.tidy idleTtl now wall }
  | .deliver => { crowd with gateway := crowd.gateway.deliver }

/-- Carries out one thing after the other. -/
def run (crowd : Crowd) (ops : List Op) : Crowd :=
  ops.foldl step crowd

/-- The ways in which what comes next can end: the crowd after it. -/
inductive Stepped (crowd : Crowd) : Op → Crowd → Prop
  /-- A submission is heard, and is on its way. -/
  | heard {request : Request} {readings : Readings}
      (hheard : request.isHeard crowd.gateway.maxBodyBytes = true) :
      Stepped crowd (.receive request readings)
        { crowd with visits := crowd.visits ++ [.opened request] }
  /-- Another request looks players up, and may set gauges. -/
  | answered {request : Request} {readings : Readings} {metrics : Metrics}
      (hunheard : request.isHeard crowd.gateway.maxBodyBytes = false) :
      Stepped crowd (.receive request readings)
        { crowd with
          gateway := { crowd.gateway with
            tracker := (crowd.gateway.tracker.run
              (request.lookups crowd.gateway.maxBodyBytes readings.wallAt)).2
            metrics := metrics } }
  /-- There is no submission of that number. -/
  | absent {number : Nat} {readings : Readings} (hnone : crowd.visits[number]? = none) :
      Stepped crowd (.advance number readings) crowd
  /-- A submission takes a step. -/
  | advanced {number : Nat} {readings : Readings} {visit : Visit} {next : Stage}
      {after : Gateway} (hvisit : crowd.visits[number]? = some visit)
      (hstep : crowd.gateway.Stepped visit.request.submission readings visit.stage next after) :
      Stepped crowd (.advance number readings)
        ⟨after, crowd.visits.set number
          { visit with
            stage := next
            since := if visit.stage = .authenticated then readings.leaseAt else visit.since }⟩
  /-- A round of housekeeping is over. -/
  | tidied {idleTtl : Option Span} {now : Instant} {wall : WallTime} :
      Stepped crowd (.tidy idleTtl now wall)
        { crowd with gateway := crowd.gateway.tidy idleTtl now wall }
  /-- The events that were handed over are sent. -/
  | delivered : Stepped crowd .deliver { crowd with gateway := crowd.gateway.deliver }

/-- What comes next has one of the ends that `Crowd.Stepped` lists. -/
theorem stepped (crowd : Crowd) (op : Op) : crowd.Stepped op (crowd.step op) := by
  cases op with
  | receive request readings =>
      simp only [step]
      split
      · rename_i hheard
        exact .heard hheard
      · rename_i hheard
        have hunheard : request.isHeard crowd.gateway.maxBodyBytes = false := by simpa using hheard
        obtain ⟨response, metrics, hrespond, -⟩ := Gateway.respond_of_unheard hunheard readings
        rw [hrespond]
        exact .answered hunheard
  | advance number readings =>
      simp only [step]
      split
      · rename_i hnone
        exact .absent hnone
      · rename_i visit hvisit
        exact .advanced hvisit
          (crowd.gateway.stepped visit.request.submission readings visit.stage)
  | tidy idleTtl now wall => exact .tidied
  | deliver => exact .delivered

/-- What holds of every submission, and of one of them after its step, holds of every
submission after that step. -/
theorem forall_mem_set {P : Visit → Prop} {visits : List Visit} (h : ∀ visit ∈ visits, P visit)
    {moved : Visit} (hmoved : P moved) (number : Nat) :
    ∀ visit ∈ visits.set number moved, P visit := by
  intro visit hvisit
  rcases List.mem_or_eq_of_mem_set hvisit with hold | rfl
  · exact h visit hold
  · exact hmoved

/-! ## The guards of a crowd -/

/-- The leases with the guards of the submissions, each under the number of its submission. -/
def desk (crowd : Crowd) : LeaseDesk where
  store := crowd.gateway.leases
  guards := crowd.visits.map fun visit => visit.stage.guard?

/-- What the submissions hold. -/
def ledger (crowd : Crowd) : LeaseDesk.Ledger :=
  crowd.visits.map Visit.holding?

variable {crowd : Crowd} {ttl spent : Nat} {clock now : Instant}

theorem getD_map_visits {α : Type} (f : Visit → Option α) {number : Nat} {visit : Visit}
    (hvisit : crowd.visits[number]? = some visit) :
    (crowd.visits.map f).getD number none = f visit := by
  simp [hvisit]

/-- A guard that is out is that of a submission. -/
theorem held?_eq_some_iff {number : Nat} {guard : Guard} :
    crowd.desk.held? number = some guard ↔
      ∃ visit, crowd.visits[number]? = some visit ∧ visit.stage.guard? = some guard := by
  unfold LeaseDesk.held? desk
  rw [List.getD_eq_getElem?_getD, List.getElem?_map]
  cases crowd.visits[number]? <;> simp

/-- The guards of a crowd go with its leases at a clock that no reading has passed,
submissions under way have the guards of their keys, a lease lasts for `ttl`, and `spent` ids
at most have been used up. -/
structure Sound (ttl spent : Nat) (clock : Instant) (crowd : Crowd) : Prop where
  faithful : LeaseDesk.Faithful crowd.ledger crowd.desk clock
  keyed : ∀ visit ∈ crowd.visits, visit.stage.isUnderWay = true →
    visit.stage.guard?.map Guard.key = visit.request.submission.idempotencyKey
  lifetime : crowd.gateway.leases.ttl = ttl
  spent : crowd.gateway.leases.lastId.toNat ≤ spent

/-- A crowd without submissions, and with a new store, is sound at every clock. -/
theorem sound_opened {gateway : Gateway} (hnew : gateway.leases = .new ttl) (clock : Instant) :
    Sound ttl 0 clock (opened gateway) where
  faithful := by
    have hfaithful := LeaseDesk.faithful_new ttl clock
    unfold LeaseDesk.new at hfaithful
    rw [← hnew] at hfaithful
    exact hfaithful
  keyed := by simp [opened]
  lifetime := by simp [opened, hnew, LeaseStore.new]
  spent := by simp [opened, hnew, LeaseStore.new]

namespace Sound

/-- A crowd stays sound when a submission takes its next step, at a reading that is not past
the clock, and one id at most is used up. -/
theorem advance (h : Sound ttl spent clock crowd) {readings : Readings} {number : Nat}
    {visit : Visit} {next : Stage} {after : Gateway} (hvisit : crowd.visits[number]? = some visit)
    (hstep : crowd.gateway.Stepped visit.request.submission readings visit.stage next after)
    (hnow : readings.leaseAt ≤ clock) (hids : spent + 1 < UInt64.size) :
    Sound ttl (spent + 1) clock
      ⟨after, crowd.visits.set number
        { visit with
          stage := next
          since := if visit.stage = .authenticated then readings.leaseAt else visit.since }⟩ := by
  have hturn : Gateway.Turn crowd.desk.store visit.request.submission.idempotencyKey
      readings.leaseAt visit.stage next after.leases := hstep.turn
  have hleft : 0 < crowd.desk.idsLeft := by
    have hspent : crowd.desk.store.lastId.toNat ≤ spent := h.spent
    unfold LeaseDesk.idsLeft
    omega
  have hin : number < crowd.desk.guards.length := by
    simpa [desk] using (List.getElem?_eq_some_iff.mp hvisit).1
  have hout : crowd.desk.held? number = visit.stage.guard? :=
    getD_map_visits (fun visit => visit.stage.guard?) hvisit
  have hnoted : crowd.ledger.getD number none = visit.holding? :=
    getD_map_visits Visit.holding? hvisit
  constructor
  case faithful =>
    have hfaithful := hturn.faithful h.faithful hleft hnow hin hout hnoted
    unfold ledger desk at hfaithful ⊢
    rw [List.map_set, List.map_set]
    exact hfaithful
  case keyed =>
    exact forall_mem_set h.keyed (hturn.keyed (h.keyed visit (List.mem_of_getElem? hvisit))) number
  case lifetime => exact hturn.ttl_eq.trans h.lifetime
  case spent =>
    have hspent := h.spent
    rcases hturn.lastId_eq with hsame | hnext
    · rw [hsame]
      exact Nat.le_succ_of_le hspent
    · rw [hnext]
      exact Nat.le_trans (Nat.le_of_eq (LeaseDesk.toNat_nextId hleft)) (Nat.succ_le_succ hspent)

/-- A crowd stays sound when a submission is heard. -/
theorem receive (h : Sound ttl spent clock crowd) (request : Request) :
    Sound ttl spent clock { crowd with visits := crowd.visits ++ [.opened request] } where
  faithful := by
    have hfaithful := h.faithful.widen
    unfold ledger desk at hfaithful ⊢
    rw [List.map_append, List.map_append]
    exact hfaithful
  keyed := by
    intro visit hvisit hway
    rcases List.mem_append.mp hvisit with hold | hnew
    · exact h.keyed visit hold hway
    · obtain rfl := List.mem_singleton.mp hnew
      simp [Visit.opened, Stage.isUnderWay] at hway
  lifetime := h.lifetime
  spent := h.spent

/-- A crowd stays sound when something is done that leaves the leases as they are. -/
theorem aside (h : Sound ttl spent clock crowd) {gateway : Gateway}
    (hleases : gateway.leases = crowd.gateway.leases) :
    Sound ttl spent clock { crowd with gateway := gateway } where
  faithful := by
    have hfaithful := h.faithful
    unfold desk at hfaithful ⊢
    rw [← hleases] at hfaithful
    exact hfaithful
  keyed := h.keyed
  lifetime := by simpa [hleases] using h.lifetime
  spent := by simpa [hleases] using h.spent

/-- A crowd stays sound when the leases are dropped that ran out by a reading not past the
clock. -/
theorem tidy (h : Sound ttl spent clock crowd) (idleTtl : Option Span) (hnow : now ≤ clock)
    (wall : WallTime) :
    Sound ttl spent clock { crowd with gateway := crowd.gateway.tidy idleTtl now wall } := by
  have hleases : (crowd.gateway.tidy idleTtl now wall).leases =
      (crowd.gateway.leases.purge now).2 := by
    unfold Gateway.tidy
    cases idleTtl <;> rfl
  constructor
  case faithful =>
    have hfaithful := h.faithful.purge hnow
    unfold desk at hfaithful ⊢
    rw [← hleases] at hfaithful
    exact hfaithful
  case keyed => exact h.keyed
  case lifetime => exact (congrArg LeaseStore.ttl hleases).trans h.lifetime
  case spent => exact Nat.le_trans (Nat.le_of_eq (congrArg (·.lastId.toNat) hleases)) h.spent

/-- A crowd stays sound whatever comes next, at a reading that is not past the clock, as long
as ids are left. -/
theorem step (h : Sound ttl spent clock crowd) {op : Op}
    (hnow : ∀ reading, Timed.time? op = some reading → reading ≤ clock)
    (hids : spent + 1 < UInt64.size) : Sound ttl (spent + 1) clock (crowd.step op) := by
  have hlater : Sound ttl (spent + 1) clock crowd :=
    { h with spent := Nat.le_succ_of_le h.spent }
  have hends := crowd.stepped op
  generalize crowd.step op = after at hends ⊢
  cases hends with
  | heard => exact hlater.receive _
  | answered => exact hlater.aside rfl
  | absent => exact hlater
  | advanced hvisit hstep => exact h.advance hvisit hstep (hnow _ rfl) hids
  | tidied => exact hlater.tidy _ (hnow _ rfl) _
  | delivered => exact hlater.aside rfl

/-- A crowd stays sound through a run none of whose readings is past the clock, whatever their
order, as long as there are ids for everything that happens. -/
theorem run (h : Sound ttl spent clock crowd) {ops : List Op}
    (hnow : ∀ reading ∈ times ops, reading ≤ clock)
    (hids : spent + ops.length < UInt64.size) :
    Sound ttl (spent + ops.length) clock (crowd.run ops) := by
  induction ops generalizing crowd spent with
  | nil => exact h
  | cons op ops ih =>
      rw [List.length_cons] at hids ⊢
      have hfirst : ∀ reading, Timed.time? op = some reading → reading ≤ clock :=
        fun reading htime => hnow reading (mem_times_iff.mpr ⟨op, List.mem_cons_self, htime⟩)
      have hrest : ∀ reading ∈ times ops, reading ≤ clock :=
        fun reading hlater => hnow reading (mem_times_cons hlater)
      have hlength : spent + (ops.length + 1) = spent + 1 + ops.length := by omega
      rw [hlength]
      exact ih (h.step hfirst (by omega)) hrest (by omega)

end Sound

/-! ## Deduplication -/

/-- A submission holds a guard for a key that it was given less than a lifetime ago. -/
def IsTaken (ttl : Nat) (now : Instant) (crowd : Crowd) (key : String) : Prop :=
  ∃ visit ∈ crowd.visits, ∃ guard, visit.stage.guard? = some guard ∧ guard.key = key ∧
    now < visit.since + ttl

/-- What holds of keys at a moment. -/
structure Deduplicated (ttl : Nat) (now : Instant) (crowd : Crowd) : Prop where
  /-- A submission under way has a guard for the key that it names, and as long as its lease
  lasts the key is leased to it. -/
  guarded : ∀ visit ∈ crowd.visits, ∀ value, visit.Names value →
    visit.stage.isUnderWay = true →
      ∃ guard, visit.stage.guard? = some guard ∧ guard.key = Headers.keyOf value ∧
        (now < visit.since + ttl →
          crowd.gateway.leases.live.get? guard.key = some ⟨guard.id, visit.since + ttl⟩)
  /-- Two submissions under way that name one key are one, as long as their leases last. -/
  alone : ∀ (i j : Nat) (visit other : Visit) (value : List UInt8),
    crowd.visits[i]? = some visit → crowd.visits[j]? = some other →
      visit.Names value → other.Names value →
      visit.stage.isUnderWay = true → other.stage.isUnderWay = true →
        now < visit.since + ttl → now < other.since + ttl → i = j
  /-- A submission that comes to the lease is a duplicate when another holds its key, and has
  the key leased when none does, unless the lease would end beyond the clock. -/
  asked : ∀ visit ∈ crowd.visits, ∀ value, visit.Names value → visit.stage = .authenticated →
    ∀ readings : Readings, now ≤ readings.leaseAt →
      let next := (visit.advance crowd.gateway readings).1.stage
      (crowd.IsTaken ttl readings.leaseAt (Headers.keyOf value) →
        next = .decided none (.rejected .duplicateRequest)) ∧
      (¬crowd.IsTaken ttl readings.leaseAt (Headers.keyOf value) →
        (∃ id, next = .leased (some ⟨Headers.keyOf value, id⟩)) ∨
          readings.leaseAt.later? ttl = none ∧ next = .decided none (.crashed .monotonic))

namespace Sound

/-- A key is taken by a submission exactly when the ledger has a holding of it in force. -/
theorem isTaken_iff_inForce {key : String} :
    crowd.IsTaken ttl now key ↔ crowd.ledger.InForce ttl key now := by
  unfold IsTaken LeaseDesk.Ledger.InForce ledger
  constructor
  · rintro ⟨visit, hvisit, guard, hguard, hkey, hlate⟩
    refine ⟨⟨guard.key, visit.since⟩, ?_, hkey, hlate⟩
    exact List.mem_map.mpr ⟨visit, hvisit, by simp [Visit.holding?, hguard]⟩
  · rintro ⟨holding, hmem, hkey, hlate⟩
    obtain ⟨visit, hvisit, hholding⟩ := List.mem_map.mp hmem
    obtain ⟨guard, hguard, rfl⟩ := Option.map_eq_some_iff.mp hholding
    exact ⟨visit, hvisit, guard, hguard, hkey, hlate⟩

variable {value : List UInt8} {visit : Visit}

/-- A submission under way has a guard for the key that it names. -/
theorem exists_guard (h : Sound ttl spent now crowd) (hvisit : visit ∈ crowd.visits)
    (hnames : visit.Names value) (hway : visit.stage.isUnderWay = true) :
    ∃ guard, visit.stage.guard? = some guard ∧ guard.key = Headers.keyOf value := by
  have hkey := h.keyed visit hvisit hway
  rw [hnames.key_eq] at hkey
  exact Option.map_eq_some_iff.mp hkey

/-- As long as a lease lasts the key is leased to the submission. -/
theorem get?_of_guard (h : Sound ttl spent now crowd) {number : Nat} {guard : Guard}
    (hvisit : crowd.visits[number]? = some visit) (hguard : visit.stage.guard? = some guard)
    (hlate : now < visit.since + ttl) :
    crowd.gateway.leases.live.get? guard.key = some ⟨guard.id, visit.since + ttl⟩ := by
  have hout : crowd.desk.held? number = some guard := held?_eq_some_iff.mpr ⟨visit, hvisit, hguard⟩
  have hnoted : crowd.ledger.getD number none = some ⟨guard.key, visit.since⟩ := by
    refine (getD_map_visits Visit.holding? hvisit).trans ?_
    simp [Visit.holding?, hguard]
  have hstore : crowd.desk.store.ttl = ttl := h.lifetime
  have hlease := h.faithful.kept hout hnoted
  rw [hstore] at hlease
  exact hlease hlate

/-- The lease on a key is granted unless another submission holds the key. -/
theorem asked (h : Sound ttl spent now crowd) (hnames : visit.Names value)
    (hstage : visit.stage = .authenticated) (readings : Readings) (hnow : now ≤ readings.leaseAt) :
    let next := (visit.advance crowd.gateway readings).1.stage
    (crowd.IsTaken ttl readings.leaseAt (Headers.keyOf value) →
      next = .decided none (.rejected .duplicateRequest)) ∧
    (¬crowd.IsTaken ttl readings.leaseAt (Headers.keyOf value) →
      (∃ id, next = .leased (some ⟨Headers.keyOf value, id⟩)) ∨
        readings.leaseAt.later? ttl = none ∧ next = .decided none (.crashed .monotonic)) := by
  have httl : crowd.desk.store.ttl = ttl := h.lifetime
  have hheld := h.faithful.isHeld_iff hnow (Headers.keyOf value)
  rw [httl, ← isTaken_iff_inForce] at hheld
  have hstore : crowd.desk.store = crowd.gateway.leases := rfl
  rw [hstore] at hheld httl
  simp only [Visit.advance, hstage, Gateway.advance, hnames.key_eq, Gateway.reserve]
  have hends := crowd.gateway.leases.acquired (Headers.keyOf value) readings.leaseAt
  generalize crowd.gateway.leases.acquire (Headers.keyOf value) readings.leaseAt = result at hends ⊢
  obtain ⟨acquisition, leases⟩ := result
  rw [← hheld]
  cases hends with
  | duplicate htaken => exact ⟨fun _ => rfl, fun hfree => absurd htaken hfree⟩
  | granted hfree hend =>
      refine ⟨fun htaken => ?_, fun _ => Or.inl ⟨_, rfl⟩⟩
      rw [hfree] at htaken
      contradiction
  | stuck hfree hend =>
      refine ⟨fun htaken => ?_, fun _ => Or.inr ⟨httl ▸ hend, rfl⟩⟩
      rw [hfree] at htaken
      contradiction

/-- In a sound crowd no two submissions under way have the same key. -/
theorem deduplicated (h : Sound ttl spent now crowd) : Deduplicated ttl now crowd where
  guarded := by
    intro visit hvisit value hnames hway
    obtain ⟨guard, hguard, hkey⟩ := h.exists_guard hvisit hnames hway
    obtain ⟨number, hnumber⟩ := List.mem_iff_getElem?.mp hvisit
    exact ⟨guard, hguard, hkey, h.get?_of_guard hnumber hguard⟩
  alone := by
    intro i j visit other value hi hj hvisit hother hway hotherWay hlate hotherLate
    obtain ⟨guard, hguard, hkey⟩ := h.exists_guard (List.mem_of_getElem? hi) hvisit hway
    obtain ⟨guard', hguard', hkey'⟩ := h.exists_guard (List.mem_of_getElem? hj) hother hotherWay
    -- Both have the lease on the key, so their guards have one id.
    have hlease := h.get?_of_guard hi hguard hlate
    rw [hkey, ← hkey', h.get?_of_guard hj hguard' hotherLate] at hlease
    have hid : guard'.id = guard.id := congrArg Lease.id (Option.some.inj hlease)
    exact h.faithful.distinct (held?_eq_some_iff.mpr ⟨visit, hi, hguard⟩)
      (held?_eq_some_iff.mpr ⟨other, hj, hguard'⟩) hid.symm
  asked := fun _ _ _ hnames hstage readings hnow => h.asked hnames hstage readings hnow

end Sound

/-- After any run of submissions and housekeeping in which fewer things happen than there are
ids, and at any moment that no reading of the clock of the leases has passed: a submission
under way that names its key by a value that can be read has the key leased, no two of them
have the same, and another that comes to the lease is a duplicate exactly when one of them
holds the key.  The readings can reach the store in any order.  Only the reading of a submission
that comes to the lease has to be no earlier than all before it, since a store may have dropped
a lease that an earlier reading would have found in force. -/
theorem deduplicated_run {gateway : Gateway} {ops : List Op} (hnew : gateway.leases = .new ttl)
    (hfew : ops.length < UInt64.size) (hnow : ∀ reading ∈ times ops, reading ≤ now) :
    Deduplicated ttl now ((opened gateway).run ops) := by
  have hopened : Sound ttl 0 now (opened gateway) := sound_opened hnew now
  have hsound : Sound ttl (0 + ops.length) now ((opened gateway).run ops) :=
    hopened.run hnow (by omega)
  exact hsound.deduplicated

/-- The signed event of a short run, with a key. -/
def keyedRequest (value : List UInt8) : Request :=
  { Gateway.signedRequest with
    headers := (idempotencyField, value) :: Gateway.signedRequest.headers }

/-- The value of a key that is read. -/
def plainValue : List UInt8 := Text.Utf8.encodeString " click "

/-- The event comes twice, and both go to the lease and the first beyond it.  The second has
read the clock before the first, and gets to the store after it. -/
def overtaken : List Op :=
  let early : Readings := ⟨3, 0, 7 * nanosPerSecond⟩
  let late : Readings := ⟨5, 0, 7 * nanosPerSecond⟩
  [.receive (keyedRequest plainValue) late, .receive (keyedRequest plainValue) early,
    .advance 0 late, .advance 1 early, .advance 0 late, .advance 1 early, .advance 0 late]

/-- Though the clock goes back between two submissions with one key, the first has the key
leased, and the second is a duplicate. -/
theorem deduplicated_run_overtaken :
    Gateway.strictGateway.leases = .new Gateway.strictSettings.leaseTtl ∧
      times overtaken = [5, 3, 5, 3, 5] ∧
      ((opened Gateway.strictGateway).run overtaken).visits.map Visit.stage =
        [.metered (some ⟨"click", 1⟩), .decided none (.rejected .duplicateRequest)] ∧
      Deduplicated Gateway.strictSettings.leaseTtl 5
        ((opened Gateway.strictGateway).run overtaken) := by
  have hnew : Gateway.strictGateway.leases = .new Gateway.strictSettings.leaseTtl := rfl
  have htimes : times overtaken = [5, 3, 5, 3, 5] := rfl
  have hstages : ((opened Gateway.strictGateway).run overtaken).visits.map Visit.stage =
      [.metered (some ⟨"click", 1⟩), .decided none (.rejected .duplicateRequest)] := by
    decide +kernel
  have hnow : ∀ reading ∈ times overtaken, reading ≤ 5 := by decide
  exact ⟨hnew, htimes, hstages, deduplicated_run hnew (by decide) hnow⟩

/-! ## Keys that are not read -/

/-- A key that is not read is not looked for: nothing is leased, and the submission goes on. -/
theorem advance_of_unread {visit : Visit} {value : List UInt8}
    (hfirst : visit.request.headers.first? idempotencyField = some value)
    (hunread : Headers.isReadable value = false) (hstage : visit.stage = .authenticated)
    (gateway : Gateway) (readings : Readings) :
    (visit.advance gateway readings).1.stage = .leased none ∧
      (visit.advance gateway readings).2 = gateway := by
  have hkey : visit.request.submission.idempotencyKey = none :=
    (Headers.text?_of_first? hfirst).trans (if_neg (by simp [hunread]))
  simp [Visit.advance, hstage, Gateway.advance, hkey, Gateway.reserve]

/-- The event comes twice, and both go to the lease and the first, if it can, beyond it. -/
def bothAtOnce (value : List UInt8) : List Op :=
  let readings : Readings := ⟨0, 0, 7 * nanosPerSecond⟩
  [.receive (keyedRequest value) readings, .receive (keyedRequest value) readings,
    .advance 0 readings, .advance 1 readings, .advance 0 readings, .advance 1 readings,
    .advance 0 readings]

/-- Two submissions that come at once with the value of a key. -/
def crowdOfTwo (value : List UInt8) : Crowd :=
  (opened Gateway.strictGateway).run (bothAtOnce value)

/-- The value of a key that HTTP allows, with a letter outside ASCII. -/
def accentedValue : List UInt8 := Text.Utf8.encodeString "\u00e9t\u00e9"

/-- Two submissions with an accented key are under way at once, and nothing is leased to
either. -/
theorem undeduplicated_crowdOfTwo :
    accentedValue.all isValueByte = true ∧
      Text.isAllBlank (Headers.valueText accentedValue) = false ∧
      (keyedRequest accentedValue).headers.first? idempotencyField = some accentedValue ∧
      (crowdOfTwo accentedValue).visits.map Visit.stage = [.metered none, .leased none] ∧
      (crowdOfTwo accentedValue).gateway.leases.size = 0 := by
  decide +kernel

end Crowd

end Turnstile
