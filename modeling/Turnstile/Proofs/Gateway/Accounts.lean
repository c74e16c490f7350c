import Turnstile.Proofs.Fairness.Limits
import Turnstile.Proofs.Gateway.Serving

/-!
# The accounts of the service

The counters, the answers, the tracker and the events handed on are changed one by one and
in four places.  They agree after every request all the same, since each of them can be read
off the journal of the run.

Main definitions and results:

- `Exchange.Acknowledges`: an accepted event goes with the exchange that it came by.
- `Gateway.Concordant`: the four accounts agree.
- `Gateway.Told.concordant`: a journal makes them agree.
- `Gateway.Started`, `Gateway.started`: the service at its start.
- `Gateway.accounts_agree`: the four accounts agree after every request, from the start on.
-/

namespace Turnstile

/-! ## The accounts of an exchange -/

/-- An accepted event goes with the exchange that it came by: it was read from the body of
the request, and it was accepted at the time that is given in the answer. -/
def Exchange.Acknowledges (exchange : Exchange) (accepted : AcceptedEvent) : Prop :=
  Event.parse exchange.request.body = .ok accepted.event ∧
    exchange.response =
      .json 200
        (Acceptance.toJson ⟨accepted.event.playerId, accepted.event.kind, accepted.acceptedAt⟩)

namespace Exchange.KeptAs

variable {exchange : Exchange} {entry : JournalEntry}

/-- Success is what an approval is answered with, and nothing else. -/
theorem status_eq_ok_iff (h : exchange.KeptAs entry) :
    exchange.response.status = 200 ↔ entry.accepted?.isSome = true := by
  rw [h.1]
  cases entry with
  | approved accepted => simp [JournalEntry.response, JournalEntry.accepted?, Response.json]
  | rejected rejection =>
      simp [JournalEntry.response, JournalEntry.accepted?, Response.ofRejection, Response.json,
        rejection.status_ne_ok]

/-- An answer without success is a rejection. -/
theorem status_ne_ok_iff (h : exchange.KeptAs entry) :
    exchange.response.status ≠ 200 ↔ entry.code?.isSome = true := by
  rw [Ne, h.status_eq_ok_iff]
  cases entry <;> simp [JournalEntry.accepted?, JournalEntry.code?]

/-- The error code of an answer is that of the rejection. -/
theorem errorCode?_iff (h : exchange.KeptAs entry) (code : String) :
    exchange.response.status ≠ 200 ∧ exchange.response.errorCode? = some code ↔
      entry.code? = some code := by
  rw [h.status_ne_ok_iff, h.1]
  cases entry with
  | approved accepted => simp [JournalEntry.code?]
  | rejected rejection =>
      simp [JournalEntry.response, JournalEntry.code?, Response.errorCode?_ofRejection]

end Exchange.KeptAs

/-- The events that were approved, in turn, go with the exchanges that had success. -/
theorem Exchange.acknowledged_of_kept {exchanges : List Exchange} {journal : List JournalEntry}
    (h : List.Forall₂ KeptAs exchanges journal) :
    List.Forall₂ Acknowledges (exchanges.filter fun exchange => exchange.response.status = 200)
      (journal.filterMap JournalEntry.accepted?) := by
  induction h with
  | nil => exact .nil
  | @cons exchange entry _ _ hkept _ ih =>
      have hstatus := hkept.status_eq_ok_iff
      cases entry with
      | approved accepted =>
          have hok : exchange.response.status = 200 := hstatus.mpr rfl
          have haccepted : (JournalEntry.approved accepted).accepted? = some accepted := rfl
          rw [List.filter_cons_of_pos (by simpa using hok), List.filterMap_cons_some haccepted]
          exact .cons ⟨hkept.2 accepted rfl, hkept.1⟩ ih
      | rejected rejection =>
          have hok : exchange.response.status ≠ 200 := by
            intro hok
            simp [JournalEntry.accepted?, hok] at hstatus
          have hnone : (JournalEntry.rejected rejection).accepted? = none := rfl
          rw [List.filter_cons_of_neg (by simpa using hok), List.filterMap_cons_none hnone]
          exact ih

namespace Gateway

/-- The four accounts of a run agree: the counters and the events handed on at the end, the
answers in its exchanges, and the operations of the tracker. -/
structure Concordant (before after : Gateway) (exchanges : List Exchange)
    (ops : List Tracker.Op) : Prop where
  /-- The tracker went through the operations. -/
  tracked : after.tracker = (before.tracker.run ops).2
  approved_answers :
    Metrics.count after.metrics.eventsProcessed "approved" = exchanges.countP Exchange.isApproval
  approved_admissions :
    Metrics.count after.metrics.eventsProcessed "approved" =
      (before.tracker.docket ops).countP Tracker.Hearing.admits
  approved_forwarded :
    Metrics.count after.metrics.eventsProcessed "approved" = after.outbox.length
  rejected_answers :
    Metrics.count after.metrics.eventsProcessed "rejected" =
      exchanges.countP (Exchange.isRejection before.maxBodyBytes)
  rejected_total :
    Metrics.count after.metrics.eventsProcessed "rejected" =
      Metrics.total after.metrics.droppedEvents
  dropped_answers (code : String) :
    Metrics.count after.metrics.droppedEvents code =
      exchanges.countP fun exchange =>
        exchange.isRejection before.maxBodyBytes && exchange.response.errorCode? = some code
  flags_dropped (reason : BlockReason) :
    Metrics.count after.metrics.anomalyFlags reason.name =
      Metrics.count after.metrics.droppedEvents reason.name
  flags_transitions (reason : BlockReason) :
    Metrics.count after.metrics.anomalyFlags reason.name =
      (before.tracker.transitions ops).count reason
  not_found : Metrics.count after.metrics.droppedEvents Rejection.playerNotFound.code = 0
  /-- The events handed on carry the scores that the tracker gave. -/
  forwarded :
    after.outbox = (before.tracker.docket ops).filterMap Tracker.Hearing.accepted?
  acknowledged :
    List.Forall₂ Exchange.Acknowledges (exchanges.filter Exchange.isApproval) after.outbox

/-- Lists that go together have as many elements of a kind. -/
theorem countP_eq_of_forall₂ {α β : Type} {R : α → β → Prop} {p : α → Bool} {q : β → Bool}
    {l : List α} {m : List β} (h : List.Forall₂ R l m)
    (hsame : ∀ a b, R a b → (p a = true ↔ q b = true)) : l.countP p = m.countP q := by
  induction h with
  | nil => rfl
  | cons hab _ ih => simp only [List.countP_cons, ih, hsame _ _ hab]

namespace Told

variable {before after : Gateway} {exchanges : List Exchange} {ops : List Tracker.Op}
  {journal : List JournalEntry}

/-- An exchange with success is one that was heard and had success. -/
theorem isApproval_iff (h : before.Told after exchanges ops journal) {exchange : Exchange}
    (hmem : exchange ∈ exchanges) :
    exchange.isApproval = true ↔
      exchange.response.status = 200 ∧ exchange.request.isHeard before.maxBodyBytes = true := by
  constructor
  · intro happroval
    exact ⟨(of_decide_eq_true happroval).2, h.heard exchange hmem happroval⟩
  · rintro ⟨hstatus, hheard⟩
    have hroute := (Request.resource?_eq_some_iff.mp (of_decide_eq_true hheard).1).2.1
    exact decide_eq_true ⟨hroute, hstatus⟩

/-- What was approved among the exchanges is what was approved in the journal. -/
theorem countP_isApproval (h : before.Told after exchanges ops journal) :
    exchanges.countP Exchange.isApproval = journal.countP (·.accepted?.isSome) := by
  rw [← countP_eq_of_forall₂ h.kept (p := (·.response.status = 200)) fun exchange entry hkept => by
    simpa using hkept.status_eq_ok_iff, List.countP_filter]
  refine List.countP_congr fun exchange hmem => ?_
  rw [h.isApproval_iff hmem]
  simp

/-- What was rejected among the exchanges is what was rejected in the journal. -/
theorem countP_isRejection (h : before.Told after exchanges ops journal) :
    exchanges.countP (Exchange.isRejection before.maxBodyBytes) =
      journal.countP (·.code?.isSome) := by
  rw [← countP_eq_of_forall₂ h.kept (p := (·.response.status ≠ 200)) fun exchange entry hkept => by
    simpa using hkept.status_ne_ok_iff, List.countP_filter]
  refine List.countP_congr fun exchange _ => ?_
  simp [Exchange.isRejection, and_comm]

/-- As many exchanges have an error code as there are rejections with it in the journal. -/
theorem countP_errorCode (h : before.Told after exchanges ops journal) (code : String) :
    (exchanges.countP fun exchange =>
        exchange.isRejection before.maxBodyBytes && exchange.response.errorCode? = some code) =
      journal.countP (·.code? = some code) := by
  rw [← countP_eq_of_forall₂ h.kept
    (p := fun exchange =>
      exchange.response.status ≠ 200 ∧ exchange.response.errorCode? = some code)
    fun exchange entry hkept => by simpa using hkept.errorCode?_iff code, List.countP_filter]
  refine List.countP_congr fun exchange _ => ?_
  simp only [Exchange.isRejection, Bool.and_eq_true, decide_eq_true_eq]
  tauto

/-- The events in the journal go with the exchanges that had success, in turn. -/
theorem acknowledged (h : before.Told after exchanges ops journal) :
    List.Forall₂ Exchange.Acknowledges (exchanges.filter Exchange.isApproval)
      (journal.filterMap JournalEntry.accepted?) := by
  have hfilter : exchanges.filter Exchange.isApproval =
      (exchanges.filter fun exchange => exchange.request.isHeard before.maxBodyBytes).filter
        fun exchange => exchange.response.status = 200 := by
    rw [List.filter_filter]
    refine List.filter_congr fun exchange hmem => ?_
    rw [Bool.eq_iff_iff, h.isApproval_iff hmem]
    simp
  rw [hfilter]
  exact Exchange.acknowledged_of_kept h.kept

/-- A journal that goes with a run from a fresh start makes the accounts agree. -/
theorem concordant (h : before.Told after exchanges ops journal)
    (hmetrics : before.metrics = .initial) (houtbox : before.outbox = [])
    (hsharded : before.tracker.Sharded) : before.Concordant after exchanges ops := by
  have hcounted : after.metrics.Counted journal := (hmetrics ▸ h.counted).counted
  have hforwarded : after.outbox = journal.filterMap JournalEntry.accepted? := by
    rw [h.forwarded, houtbox, List.nil_append]
  constructor
  case tracked => exact h.tracked
  case approved_answers => rw [hcounted.approved, h.countP_isApproval]
  case approved_admissions =>
    rw [hcounted.approved, ← List.length_filterMap_eq_countP, ← h.accepted,
      List.length_filterMap_eq_countP]
    exact List.countP_congr fun hearing _ => by rw [hearing.admits_eq]
  case approved_forwarded => rw [hcounted.approved, hforwarded, List.length_filterMap_eq_countP]
  case rejected_answers => rw [hcounted.rejected, h.countP_isRejection]
  case rejected_total => rw [hcounted.rejected, hcounted.total]
  case dropped_answers =>
    intro code
    rw [hcounted.dropped, h.countP_errorCode]
  case flags_dropped =>
    intro reason
    rw [hcounted.flagged, hcounted.dropped]
    simp only [JournalEntry.imposed?_iff]
  case flags_transitions =>
    intro reason
    rw [hcounted.flagged, Tracker.transitions_eq hsharded, h.imposed, List.count_filterMap]
    refine List.countP_congr fun entry _ => ?_
    simp
  case not_found =>
    rw [hcounted.dropped, List.countP_eq_zero]
    intro entry hmem hcode
    rw [JournalEntry.eq_of_code? (of_decide_eq_true hcode)] at hmem
    exact h.found hmem
  case forwarded => rw [hforwarded, h.accepted]
  case acknowledged =>
    rw [hforwarded]
    exact h.acknowledged

end Told

/-! ## The start -/

/-- A service with the lifetimes and limits of its settings, and with nothing on record. -/
structure Started (settings : Settings) (route : String → Nat) (gateway : Gateway) : Prop where
  leases : gateway.leases = .new settings.leaseTtl
  tracker : gateway.tracker = .new settings.policy route settings.playerShards
  metrics : gateway.metrics = .initial
  outbox : gateway.outbox = []

/-- A service that has just started has the lifetimes and limits of its settings, and nothing
on record. -/
theorem started {settings : Settings} {route : String → Nat} {now : Instant}
    {gateway : Gateway} (h : start settings route now = .ok gateway) :
    gateway.Started settings route := by
  simp only [start, bind_eq_ok_iff] at h
  obtain ⟨channel, -, h⟩ := h
  split at h
  · contradiction
  · obtain rfl := Except.ok.inj h
    exact ⟨rfl, rfl, rfl, rfl⟩

/-- The service starts with nothing counted, nothing to hand on, and a shard at least. -/
theorem start_fresh {settings : Settings} {route : String → Nat} {now : Instant}
    {gateway : Gateway} (h : start settings route now = .ok gateway) :
    gateway.metrics = .initial ∧ gateway.outbox = [] ∧ gateway.tracker.Sharded := by
  have hstarted := started h
  refine ⟨hstarted.metrics, hstarted.outbox, ?_⟩
  rw [hstarted.tracker]
  exact Tracker.sharded_new _ _ _

/-! ## The law -/

/-- The counters, the answers, the tracker and the events handed on tell the same story
after every request, in every run of requests from the start in which no clock runs out. -/
theorem accounts_agree {settings : Settings} {route : String → Nat} {now : Instant}
    {gateway : Gateway} (hstart : start settings route now = .ok gateway)
    {arrivals : List (Request × Readings)} {responses : List Response}
    (hanswered : (gateway.serve arrivals).1 = responses.map .ok) (n : Nat) :
    gateway.Concordant (gateway.serve (arrivals.take n)).2
      (Exchange.pair (arrivals.take n) (responses.take n))
      (gateway.history (arrivals.take n)) := by
  obtain ⟨hmetrics, houtbox, hsharded⟩ := start_fresh hstart
  have hfirst : (gateway.serve (arrivals.take n)).1 = (responses.take n).map .ok := by
    rw [serve_take_fst, hanswered, List.map_take]
  obtain ⟨journal, htold⟩ := told_serve hfirst
  exact htold.concordant hmetrics houtbox hsharded

/-! ## A short run -/

/-- Settings under which the second event of a player inside a window is one too many. -/
def strictSettings : Settings where
  port := 8081
  verifier := ⟨List.replicate 32 0x2A, by decide⟩
  rateLimitRps := .ofNat 10
  rateLimitBurst := .ofNat 10
  anomalyThreshold := 1
  scoreThreshold := 100
  floodBlockSecs := 300
  scoreBlockSecs := 600
  idempotencyTtlSecs := 300
  maxBodyBytes := 1000
  maxConcurrentForwards := 1
  consumerCapacity := 1
  playerShards := 2
  housekeepingIntervalSecs := 30
  playerIdleTtlSecs := 0

/-- The service under these settings at the start. -/
def strictGateway : Gateway where
  verifier := strictSettings.verifier
  leases := .new strictSettings.leaseTtl
  limiter := .new strictSettings.rateLimitRps strictSettings.rateLimitBurst 0
  tracker := .new strictSettings.policy String.length strictSettings.playerShards
  metrics := .initial
  outbox := []
  channel := ⟨1, [], true, true⟩
  maxBodyBytes := strictSettings.maxBodyBytes

/-- An event that gains a player five points. -/
def signedRequest : Request where
  method := "POST"
  target := "/check-event"
  headers :=
    [(contentTypeField, Text.Utf8.encodeString "application/json"),
      (signatureField, Text.Utf8.encodeString
        "b8183746b0f8b491088c6e9bed8a54f93651bb91f739666f1eb820ea8fa041a7")]
  body := Text.Utf8.encodeString
    "\x7b\"type\":\"progression\",\"playerId\":\"p\",\"ts\":1,\"payload\":\x7b\"deltaXp\":5\x7d\x7d"

/-- The event of `signedRequest` without its signature. -/
def unsignedRequest : Request :=
  { signedRequest with headers := signedRequest.headers.take 1 }

/-- The wish of an operator to lift the block of a stranger. -/
def strangeRequest : Request where
  method := "PUT"
  target := "/unblock/q"
  headers := []
  body := []

/-- Seven seconds after the epoch the event comes twice, then without its signature, and
then a block is to be lifted that nobody has. -/
def shortRun : List (Request × Readings) :=
  [signedRequest, signedRequest, unsignedRequest, strangeRequest].map
    (·, ⟨0, 0, 7 * nanosPerSecond⟩)

/-- The answers to the requests of the short run. -/
def shortAnswers : List Response :=
  [.json 200 (Acceptance.toJson ⟨"p", .progression, 7⟩),
    .ofRejection (.fairness (.eventFlood (307 * nanosPerSecond))),
    .ofRejection (.signature .missing),
    .ofRejection .playerNotFound]

/-- The accounts agree on an approval, a flood, a missing signature and an unknown player. -/
theorem accounts_agree_shortRun :
    start strictSettings String.length 0 = .ok strictGateway ∧
      (strictGateway.serve shortRun).1 = shortAnswers.map .ok ∧
      strictGateway.Concordant (strictGateway.serve (shortRun.take 4)).2
        (Exchange.pair (shortRun.take 4) (shortAnswers.take 4))
        (strictGateway.history (shortRun.take 4)) := by
  have hstart : start strictSettings String.length 0 = .ok strictGateway := rfl
  have hanswered : (strictGateway.serve shortRun).1 = shortAnswers.map .ok := by decide +kernel
  exact ⟨hstart, hanswered, accounts_agree hstart hanswered 4⟩

end Gateway

end Turnstile
