import Mathlib.Data.List.Forall2
import Turnstile.Proofs.Gateway.Journal

/-!
# Runs of requests

Requests are answered one after the other.  One journal goes with the whole run, and each
request adds to it what it leaves by itself: a submission that was heard one entry, and any
other request none.

Main definitions and results:

- `Gateway.serve`, `Gateway.history`: a run of requests, and the operations on the tracker
  in it.
- `Exchange.KeptAs`: an entry says what became of a request.
- `Gateway.Told`: a journal goes with a run.
- `Gateway.told_respond`, `Gateway.Told.append`, `Gateway.told_serve`: a journal goes with one
  request, with two runs put together, and with a whole run.
-/

namespace Turnstile

/-! ## Runs of requests -/

/-- A request with the answer that it got. -/
structure Exchange where
  request : Request
  response : Response

namespace Exchange

/-- Whether a request to the path of submissions was answered with success. -/
def isApproval (exchange : Exchange) : Bool :=
  exchange.request.route? = some .checkEvent ∧ exchange.response.status = 200

/-- Whether a submission came to the checks and was rejected there. -/
def isRejection (limit : Nat) (exchange : Exchange) : Bool :=
  exchange.request.isHeard limit ∧ exchange.response.status ≠ 200

/-- Whether an entry of a journal says what became of an exchange. -/
def KeptAs (exchange : Exchange) (entry : JournalEntry) : Prop :=
  exchange.response = entry.response ∧
    ∀ accepted, entry.accepted? = some accepted →
      Event.parse exchange.request.body = .ok accepted.event

end Exchange

/-- The exchanges of a run in which every request was answered. -/
def Exchange.pair (arrivals : List (Request × Readings)) (responses : List Response) :
    List Exchange :=
  List.zipWith (fun arrival response => ⟨arrival.1, response⟩) arrivals responses

namespace Gateway

/-- Answers requests one after the other. -/
def serve (gateway : Gateway) :
    List (Request × Readings) → List (Except ClockFault Response) × Gateway
  | [] => ([], gateway)
  | (request, readings) :: rest =>
      let (response, gateway) := gateway.respond request readings
      let (responses, gateway) := gateway.serve rest
      (response :: responses, gateway)

/-- The operations on the tracker for one request. -/
def operations (gateway : Gateway) (request : Request) (readings : Readings) : List Tracker.Op :=
  if request.isHeard gateway.maxBodyBytes then gateway.checks request.submission readings
  else request.lookups gateway.maxBodyBytes readings.wallAt

/-- The operations on the tracker in a run of requests, in turn. -/
def history (gateway : Gateway) : List (Request × Readings) → List Tracker.Op
  | [] => []
  | (request, readings) :: rest =>
      gateway.operations request readings ++ (gateway.respond request readings).2.history rest

/-! ## One journal -/

/-- A journal goes with a run: its entries are those of the exchanges that were heard, the
verdicts of the tracker and the events handed on are in it, and the counters have grown
by it. -/
structure Told (before after : Gateway) (exchanges : List Exchange) (ops : List Tracker.Op)
    (journal : List JournalEntry) : Prop where
  limit : after.maxBodyBytes = before.maxBodyBytes
  found : .rejected .playerNotFound ∉ journal
  kept :
    List.Forall₂ Exchange.KeptAs
      (exchanges.filter fun exchange => exchange.request.isHeard before.maxBodyBytes) journal
  heard :
    ∀ exchange ∈ exchanges, exchange.isApproval → exchange.request.isHeard before.maxBodyBytes
  tracked : after.tracker = (before.tracker.run ops).2
  accepted :
    (before.tracker.docket ops).filterMap Tracker.Hearing.accepted? =
      journal.filterMap JournalEntry.accepted?
  imposed :
    (before.tracker.docket ops).filterMap Tracker.Hearing.imposed? =
      journal.filterMap JournalEntry.imposed?
  forwarded : after.outbox = before.outbox ++ journal.filterMap JournalEntry.accepted?
  counted : before.metrics.Grown after.metrics journal

namespace Told

variable {before middle after : Gateway} {earlier later : List Exchange}
  {ops more : List Tracker.Op} {journal rest : List JournalEntry}

/-- The empty journal goes with the empty run. -/
theorem nil (gateway : Gateway) : gateway.Told gateway [] [] [] where
  limit := rfl
  found := List.not_mem_nil
  kept := .nil
  heard := by simp
  tracked := rfl
  accepted := rfl
  imposed := rfl
  forwarded := by simp
  counted := Metrics.SameCounters.refl.grown

/-- The journals of two runs, one after the other, go with both together. -/
theorem append (h : before.Told middle earlier ops journal)
    (h' : middle.Told after later more rest) :
    before.Told after (earlier ++ later) (ops ++ more) (journal ++ rest) where
  limit := h'.limit.trans h.limit
  found := by simp [h.found, h'.found]
  kept := by
    have hkept := h'.kept
    rw [h.limit] at hkept
    rw [List.filter_append]
    exact List.rel_append h.kept hkept
  heard := by
    intro exchange hmem happroval
    rcases List.mem_append.mp hmem with hfirst | hsecond
    · exact h.heard exchange hfirst happroval
    · rw [← h.limit]
      exact h'.heard exchange hsecond happroval
  tracked := by rw [h'.tracked, h.tracked, Tracker.run_append_snd]
  accepted := by
    rw [Tracker.docket_append, List.filterMap_append, List.filterMap_append, h.accepted,
      ← h.tracked, h'.accepted]
  imposed := by
    rw [Tracker.docket_append, List.filterMap_append, List.filterMap_append, h.imposed,
      ← h.tracked, h'.imposed]
  forwarded := by rw [h'.forwarded, h.forwarded, List.filterMap_append, List.append_assoc]
  counted := h.counted.append h'.counted

end Told

/-- A submission that was answered has been counted by an entry that says what was done. -/
theorem checkEvent_settled {gateway after : Gateway} {submission : Submission}
    {readings : Readings} {response : Response}
    (h : gateway.checkEvent submission readings = (.ok response, after)) :
    ∃ entry processed,
      gateway.Settled processed submission readings entry.outcome entry ∧
        response = entry.response ∧
        after = { processed with metrics := processed.metrics.record entry } := by
  obtain ⟨guard, last, hdecided, hlast⟩ := gateway.process_decided submission readings
  unfold checkEvent at h
  generalize gateway.process submission readings = result at h hdecided hlast
  obtain ⟨outcome, processed⟩ := result
  obtain rfl : processed = last.giveBack guard := hlast
  have hanswer : ∀ fault, outcome ≠ .crashed fault := by
    rintro fault rfl
    simp at h
  obtain ⟨entry, hsettled⟩ := hdecided.settled hanswer
  obtain rfl : outcome = entry.outcome := hsettled.outcome_eq
  refine ⟨entry, _, hsettled, ?_⟩
  cases entry with
  | approved accepted =>
      obtain ⟨hresponse, hafter⟩ := Prod.mk.inj h
      exact ⟨(Except.ok.inj hresponse).symm, hafter.symm⟩
  | rejected rejection =>
      obtain ⟨hresponse, hafter⟩ := Prod.mk.inj h
      exact ⟨(Except.ok.inj hresponse).symm, hafter.symm⟩

/-- Answering a submission leaves one entry. -/
theorem told_checkEvent {gateway after : Gateway} {request : Request} {readings : Readings}
    {response : Response} (hheard : request.isHeard gateway.maxBodyBytes = true)
    (h : gateway.checkEvent request.submission readings = (.ok response, after)) :
    ∃ journal,
      gateway.Told after [⟨request, response⟩] (gateway.checks request.submission readings)
        journal := by
  obtain ⟨entry, processed, hsettled, rfl, rfl⟩ := checkEvent_settled h
  refine ⟨[entry], ?_⟩
  constructor
  case limit => exact hsettled.limit
  case found => simpa using hsettled.found.symm
  case kept =>
    simp only [List.filter_singleton, hheard, cond_true]
    exact .cons ⟨rfl, hsettled.parsed⟩ .nil
  case heard =>
    intro exchange hmem _
    obtain rfl := List.mem_singleton.mp hmem
    exact hheard
  case tracked => exact hsettled.tracked
  case accepted =>
    rw [hsettled.accepted]
    cases haccepted : entry.accepted? <;> simp [haccepted]
  case imposed =>
    rw [hsettled.imposed]
    cases himposed : entry.imposed? <;> simp [himposed]
  case forwarded =>
    have hforwarded := hsettled.forwarded
    cases haccepted : entry.accepted? <;> simpa [haccepted] using hforwarded
  case counted =>
    rw [← hsettled.metrics]
    exact processed.metrics.grown_record hsettled.found

/-- Looking players up tells nothing. -/
theorem docket_lookups (tracker : Tracker) (request : Request) (limit : Nat) (wall : WallTime) :
    tracker.docket (request.lookups limit wall) = [] := by
  unfold Request.lookups
  cases request.resource? limit with
  | none => rfl
  | some route =>
      cases route with
      | player segment =>
          simp only [Route.lookups]
          cases decodePercent segment <;> rfl
      | unblock segment =>
          simp only [Route.lookups]
          cases decodePercent segment <;> rfl
      | _ => rfl

/-- Answering a request leaves a journal. -/
theorem told_respond {gateway after : Gateway} {request : Request} {readings : Readings}
    {response : Response} (h : gateway.respond request readings = (.ok response, after)) :
    ∃ journal,
      gateway.Told after [⟨request, response⟩] (gateway.operations request readings) journal := by
  unfold operations
  cases hheard : request.isHeard gateway.maxBodyBytes with
  | true =>
      rw [respond_of_heard hheard] at h
      simp only [if_true]
      exact told_checkEvent hheard h
  | false =>
      obtain ⟨other, metrics, hrespond, hsame, hstatus⟩ := respond_of_unheard hheard readings
      rw [h] at hrespond
      obtain ⟨hresponse, rfl⟩ := Prod.mk.inj hrespond
      obtain rfl := Except.ok.inj hresponse
      simp only [Bool.false_eq_true, if_false]
      refine ⟨[], ?_⟩
      constructor
      case limit => rfl
      case found => exact List.not_mem_nil
      case kept => simp [hheard]
      case heard =>
        intro exchange hmem happroval
        obtain rfl := List.mem_singleton.mp hmem
        obtain ⟨hroute, hok⟩ := of_decide_eq_true happroval
        exact absurd hok (hstatus hroute)
      case tracked => rfl
      case accepted => rw [docket_lookups]; rfl
      case imposed => rw [docket_lookups]; rfl
      case forwarded => simp
      case counted => exact hsame.grown

/-- A run of requests in which no clock ran out has a journal. -/
theorem told_serve {gateway : Gateway} {arrivals : List (Request × Readings)}
    {responses : List Response} (h : (gateway.serve arrivals).1 = responses.map .ok) :
    ∃ journal,
      gateway.Told (gateway.serve arrivals).2 (Exchange.pair arrivals responses)
        (gateway.history arrivals) journal := by
  induction arrivals generalizing gateway responses with
  | nil => exact ⟨[], .nil gateway⟩
  | cons arrival rest ih =>
      obtain ⟨request, readings⟩ := arrival
      cases responses with
      | nil => simp [serve] at h
      | cons response responses =>
          simp only [serve, List.map_cons, List.cons.injEq] at h
          obtain ⟨hthis, hrest⟩ := h
          obtain ⟨journal, htold⟩ := told_respond (Prod.ext hthis rfl)
          obtain ⟨more, hmore⟩ := ih hrest
          exact ⟨journal ++ more, htold.append hmore⟩

/-- The first answers of a run do not depend on the requests that come later. -/
theorem serve_take_fst (gateway : Gateway) (arrivals : List (Request × Readings)) (n : Nat) :
    (gateway.serve (arrivals.take n)).1 = (gateway.serve arrivals).1.take n := by
  induction arrivals generalizing gateway n with
  | nil => simp [serve]
  | cons arrival rest ih =>
      cases n with
      | zero => rfl
      | succ n =>
          simp only [List.take_succ_cons, serve]
          exact congrArg _ (ih _ n)

end Gateway

end Turnstile
