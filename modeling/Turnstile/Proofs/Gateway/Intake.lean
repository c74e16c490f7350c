import Turnstile.Proofs.Fairness.Scores
import Turnstile.Proofs.Fairness.Sharding
import Turnstile.Proofs.Gateway.Crowd

/-!
# What the service takes in

Only bodies that keep the rules for events come to the tracker.  So whatever requests come,
one after the other or many at once, each player on record has a player id, and no score is
negative.

Main definitions:

- `Tracker.Vetted`: the players on record have player ids, and scores are not negative.
- `Stage.Vetted`, `Crowd.Vetted`: the events on their way to the tracker were read from bodies.

Main results:

- `Tracker.Vetted.step`, `Tracker.Vetted.run`: a tracker stays vetted through operations and
  runs whose events were read from bodies.
- `Gateway.Stepped.vetted`, `Crowd.Vetted.step`, `Crowd.Vetted.run`: a tracker and the events
  on their way to it stay vetted through one step of a passage, whatever comes next, and a whole
  run of passages.
- `Gateway.vetted_respond`, `Gateway.vetted_serve`: the tracker stays vetted when requests are
  answered.
- `Event.parse_by_the_rules`: the bodies that are events, and what that means for the records.
-/

namespace Turnstile

/-! ## Records -/

namespace Tracker

variable {tracker : Tracker}

/-- Every record is in its place and that of a player with a player id, and scores are within
their bounds. -/
structure Vetted (tracker : Tracker) : Prop where
  sharded : tracker.Sharded
  routed : tracker.Routed
  bounded : tracker.Bounded
  identified : ∀ playerId activity, tracker.record? playerId = some activity → IsPlayerId playerId

/-- A new tracker, which has no records, is vetted. -/
theorem vetted_new (policy : Policy) (route : String → Nat) (shardCount : Nat) :
    (new policy route shardCount).Vetted where
  sharded := sharded_new policy route shardCount
  routed := routed_new policy route shardCount
  bounded := bounded_new policy route shardCount
  identified playerId activity hrecord := by
    rw [record?_new] at hrecord
    contradiction

namespace Vetted

/-- A tracker stays vetted through an operation whose event, if it brings one, was read from a
body. -/
theorem step (h : tracker.Vetted) {op : Op} (hop : op.IsInbound) :
    (tracker.step op).2.Vetted where
  sharded := h.sharded.step op
  routed := h.routed.step op
  bounded := h.bounded.step h.sharded hop
  identified playerId activity hrecord := by
    have heffect := step_effect ⟨h.sharded, rfl⟩ op playerId
    rw [hrecord] at heffect
    have hknown := h.identified playerId
    generalize tracker.record? playerId = record at heffect hknown
    generalize hafter : some activity = after at heffect
    cases heffect with
    | @judged event now hsame =>
        rw [← hsame]
        exact (hop event now rfl).isPlayerId
    | cleared now =>
        obtain ⟨met, rfl, -⟩ := Option.map_eq_some_iff.mp hafter.symm
        exact hknown met rfl
    | swept now idle => exact hknown activity (Option.eq_some_of_filter_eq_some hafter.symm)
    | spared => exact hknown activity hafter.symm

/-- A tracker stays vetted through a run whose events were read from bodies. -/
theorem run (h : tracker.Vetted) {ops : List Op} (hops : ∀ op ∈ ops, op.IsInbound) :
    (tracker.run ops).2.Vetted := by
  induction ops generalizing tracker with
  | nil => exact h
  | cons op ops ih =>
      obtain ⟨hop, hops⟩ := List.forall_mem_cons.mp hops
      exact ih (h.step hop) hops

/-- Every entry of a vetted tracker is that of a player with a player id, and its score is not
negative. -/
theorem of_mem_entries (h : tracker.Vetted) {playerId : String} {activity : Activity}
    (hentry : (playerId, activity) ∈ tracker.entries) :
    IsPlayerId playerId ∧ 0 ≤ activity.score := by
  have hrecord := h.routed.mem_entries_iff.mp hentry
  have hscore := (h.bounded playerId).1
  rw [score, hrecord] at hscore
  exact ⟨h.identified playerId activity hrecord, hscore⟩

end Vetted

/-- Looking players up brings no event. -/
theorem Op.isInbound_of_mem_lookups {request : Request} {limit : Nat} {wall : WallTime} {op : Op}
    (h : op ∈ request.lookups limit wall) : op.IsInbound := by
  rintro event now rfl
  unfold Request.lookups at h
  split at h
  · rename_i route hroute
    cases route <;> simp [Route.lookups] at h
  · contradiction

end Tracker

/-! ## Passages -/

/-- An event that is on its way to the tracker was read from a body. -/
def Stage.Vetted (stage : Stage) : Prop :=
  ∀ guard event, stage = .parsed guard event → event.IsInbound

namespace Gateway

variable {gateway after : Gateway} {submission : Submission} {readings : Readings}

/-- A tracker stays vetted when it judges an event that was read from a body. -/
theorem vetted_check (h : gateway.tracker.Vetted) {event : Event} (hevent : event.IsInbound)
    {verdict : Verdict} {tracker : Tracker}
    (hverdict : gateway.tracker.check event readings.wallAt = (verdict, tracker)) :
    tracker.Vetted := by
  have hstep := h.step (Tracker.Op.isInbound_check hevent readings.wallAt)
  simpa [Tracker.step, hverdict] using hstep

/-- A step of a passage leaves the tracker vetted, and an event that it has on its way to the
tracker was read from a body. -/
theorem Stepped.vetted {stage next : Stage}
    (hstep : gateway.Stepped submission readings stage next after)
    (h : gateway.tracker.Vetted) (hstage : stage.Vetted) :
    after.tracker.Vetted ∧ next.Vetted := by
  cases hstep with
  | parsed hparse =>
      refine ⟨h, fun guard event hsame => ?_⟩
      obtain ⟨-, rfl⟩ := Stage.parsed.inj hsame
      exact ⟨submission.body, hparse⟩
  | admitted hverdict | refused hverdict | unended hverdict =>
      exact ⟨vetted_check h (hstage _ _ rfl) hverdict, by simp [Stage.Vetted]⟩
  | _ => exact ⟨h, by simp [Stage.Vetted]⟩

/-- The tracker stays vetted through a round of housekeeping, which drops records at most. -/
theorem vetted_tidy (h : gateway.tracker.Vetted) (idleTtl : Option Span) (now : Instant)
    (wall : WallTime) : (gateway.tidy idleTtl now wall).tracker.Vetted := by
  cases idleTtl with
  | none => exact h
  | some idle =>
      have hop : Tracker.Op.IsInbound (.evictIdle wall idle) := by simp [Tracker.Op.IsInbound]
      exact h.step hop

/-- The tracker is vetted when the outcome of a passage is known, however it was found. -/
theorem Decided.vetted {guard : Option Guard} {outcome : Outcome}
    (hdecided : gateway.Decided submission readings guard outcome after)
    (h : gateway.tracker.Vetted) : after.tracker.Vetted := by
  cases hdecided with
  | refused _ hparse | admitted _ hparse | unended _ hparse =>
      exact vetted_check h ⟨submission.body, hparse⟩ rfl
  | _ => exact h

/-- The tracker stays vetted when a request is answered. -/
theorem vetted_respond (h : gateway.tracker.Vetted) (request : Request) (readings : Readings) :
    (gateway.respond request readings).2.tracker.Vetted := by
  cases hheard : request.isHeard gateway.maxBodyBytes with
  | false =>
      obtain ⟨response, metrics, hrespond, -⟩ := respond_of_unheard hheard readings
      rw [hrespond]
      exact h.run fun op hop => Tracker.Op.isInbound_of_mem_lookups hop
  | true =>
      obtain ⟨guard, last, hdecided, hlast⟩ := gateway.process_decided request.submission readings
      have hvetted : (gateway.process request.submission readings).2.tracker.Vetted := by
        rw [hlast, giveBack_eq]
        exact hdecided.vetted h
      rw [respond_of_heard hheard, checkEvent]
      generalize gateway.process request.submission readings = result at hvetted ⊢
      obtain ⟨outcome, processed⟩ := result
      cases outcome <;> exact hvetted

/-- The tracker stays vetted through a run of requests that are answered one after the
other. -/
theorem vetted_serve (h : gateway.tracker.Vetted) (arrivals : List (Request × Readings)) :
    (gateway.serve arrivals).2.tracker.Vetted := by
  induction arrivals generalizing gateway with
  | nil => exact h
  | cons arrival rest ih => exact ih (vetted_respond h arrival.1 arrival.2)

/-- The service starts with a vetted tracker, which has no records. -/
theorem vetted_start {settings : Settings} {route : String → Nat} {now : Instant}
    (h : start settings route now = .ok gateway) : gateway.tracker.Vetted := by
  rw [(started h).tracker]
  exact Tracker.vetted_new _ _ _

end Gateway

namespace Crowd

/-- The tracker of a crowd is vetted, and the events on their way to it were read from
bodies. -/
structure Vetted (crowd : Crowd) : Prop where
  tracker : crowd.gateway.tracker.Vetted
  visits : ∀ visit ∈ crowd.visits, visit.stage.Vetted

namespace Vetted

variable {crowd : Crowd}

/-- Whatever comes next leaves the tracker of a crowd vetted, and the events on their way to
it read from bodies. -/
theorem step (h : crowd.Vetted) (op : Op) : (crowd.step op).Vetted := by
  have hends := crowd.stepped op
  generalize crowd.step op = after at hends ⊢
  cases hends with
  | heard =>
      refine ⟨h.tracker, List.forall_mem_append.mpr ⟨h.visits, ?_⟩⟩
      simp [Visit.opened, Stage.Vetted]
  | answered =>
      exact ⟨h.tracker.run fun op hop => Tracker.Op.isInbound_of_mem_lookups hop, h.visits⟩
  | absent => exact h
  | advanced hvisit hstep =>
      obtain ⟨htracker, hnext⟩ :=
        hstep.vetted h.tracker (h.visits _ (List.mem_of_getElem? hvisit))
      exact ⟨htracker, forall_mem_set h.visits hnext _⟩
  | tidied => exact ⟨Gateway.vetted_tidy h.tracker _ _ _, h.visits⟩
  | delivered => exact ⟨h.tracker, h.visits⟩

/-- A whole run leaves the tracker of a crowd vetted, and the events on their way to it read
from bodies. -/
theorem run (h : crowd.Vetted) (ops : List Op) : (crowd.run ops).Vetted := by
  induction ops generalizing crowd with
  | nil => exact h
  | cons op ops ih => exact ih (h.step op)

end Vetted

end Crowd

/-! ## The law -/

/-- A body is an event exactly when it is an envelope that gives it: the player id is one, the
kind is one of the three, the payload is read and names what it has to, and the gain is not
negative.  Of any other body the first rule is reported that it breaks, as an invalid event.
So in every run of requests, in turn or with their steps in any order among each other and
among rounds of housekeeping, all players on record have player ids, and no score is
negative. -/
theorem Event.parse_by_the_rules :
    (∀ (body : List UInt8) (event : Event),
      Event.parse body = .ok event ↔
        ∃ envelope, Envelope.read body = .ok envelope ∧ envelope.Gives event) ∧
    (∀ (body : List UInt8) (text : String),
      (∃ error, Event.parse body = .error error ∧ error.message = text) ↔
        Event.Refused body text) ∧
    (∀ (body : List UInt8) (text : String) (guard : Option Guard), Event.Refused body text →
      ∃ rejection, Gateway.validate guard body = .decided guard (.rejected rejection) ∧
        rejection.code = "invalid_event" ∧ rejection.message = text) ∧
    ∀ (settings : Settings) (route : String → Nat) (now : Instant) (gateway : Gateway),
      Gateway.start settings route now = .ok gateway →
        (∀ arrivals, ∀ entry ∈ (gateway.serve arrivals).2.tracker.entries,
          isValidPlayerId entry.1 = true ∧ IsPlayerId entry.1 ∧ 0 ≤ entry.2.score) ∧
        ∀ ops, ∀ entry ∈ ((Crowd.opened gateway).run ops).gateway.tracker.entries,
          isValidPlayerId entry.1 = true ∧ IsPlayerId entry.1 ∧ 0 ≤ entry.2.score := by
  refine ⟨fun body event => parse_eq_ok_iff, fun body text => parse_error_iff, ?_, ?_⟩
  · intro body text guard hrefused
    obtain ⟨error, hparse, rfl⟩ := parse_error_iff.mpr hrefused
    refine ⟨.invalidEvent error.message, ?_, rfl, rfl⟩
    rw [Gateway.validate, hparse]
  · intro settings route now gateway hstart
    have hvetted := Gateway.vetted_start hstart
    have hentries {tracker : Tracker} (h : tracker.Vetted) :
        ∀ entry ∈ tracker.entries,
          isValidPlayerId entry.1 = true ∧ IsPlayerId entry.1 ∧ 0 ≤ entry.2.score := by
      rintro ⟨playerId, activity⟩ hentry
      obtain ⟨hplayer, hscore⟩ := h.of_mem_entries hentry
      exact ⟨isValidPlayerId_iff.mpr hplayer, hplayer, hscore⟩
    refine ⟨fun arrivals => hentries (Gateway.vetted_serve hvetted arrivals), fun ops => ?_⟩
    have hopened : (Crowd.opened gateway).Vetted := ⟨hvetted, by simp [Crowd.opened]⟩
    exact hentries (hopened.run ops).tracker

/-- A body that breaks two rules: the id has a blank in it, and there is no such kind. -/
def strayBody : List UInt8 :=
  Text.Utf8.encodeString
    "\x7b\"type\":\"teleport\",\"playerId\":\"bad id\",\"ts\":1,\"payload\":\x7b\x7d\x7d"

/-- The first of the two rules is reported, and one request leaves a player with five points. -/
theorem Event.parse_by_the_rules_strayBody :
    let arrivals := Gateway.shortRun.take 1
    let entries := (Gateway.strictGateway.serve arrivals).2.tracker.entries
    Event.Refused strayBody "invalid playerId" ∧
      (∃ rejection, Gateway.validate none strayBody = .decided none (.rejected rejection) ∧
        rejection.code = "invalid_event" ∧ rejection.message = "invalid playerId") ∧
      Gateway.start Gateway.strictSettings String.length 0 = .ok Gateway.strictGateway ∧
      entries.map (fun entry => (entry.1, entry.2.score)) = [("p", 5)] ∧
      ∀ entry ∈ entries,
        isValidPlayerId entry.1 = true ∧ IsPlayerId entry.1 ∧ 0 ≤ entry.2.score := by
  intro arrivals entries
  obtain ⟨-, hfirst, hinvalid, hrecords⟩ := Event.parse_by_the_rules
  have hrefused : Event.Refused strayBody "invalid playerId" :=
    (hfirst strayBody _).mp ⟨.invalidPlayerId, by decide +kernel, rfl⟩
  have hstart : Gateway.start Gateway.strictSettings String.length 0 =
      .ok Gateway.strictGateway := rfl
  exact ⟨hrefused, hinvalid strayBody _ none hrefused, hstart, by decide +kernel,
    (hrecords _ _ _ _ hstart).1 arrivals⟩

end Turnstile
