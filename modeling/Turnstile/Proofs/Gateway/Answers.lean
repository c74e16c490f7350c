import Mathlib.Data.List.Basic
import Turnstile.Gateway.Respond
import Turnstile.Proofs.Gateway.Counters

/-!
# Requests and what is read from their answers

A client that submits an event sees the status of the answer and, when the event was not
approved, the error code in its body.  Both are read here from the response alone.  A
request is heard when it comes to the checks of a submission at all: not everything that
is sent to their path does.

Main definitions and results:

- `Response.errorCode?`, `Response.errorCode?_ofRejection`: the error code in a body.
- `Request.resource?`, `Request.isHeard`: where a request comes to.
- `Gateway.respond_of_heard`: what is heard is answered by the checks.
- `Gateway.respond_of_unheard`: what is not heard leaves nothing to count.
-/

namespace Turnstile

open Json (Value stringChars intChars membersChars escapeChar)

/-! ## Error codes -/

/-- What stands between the first occurrence of `front` and the next quote. -/
def quotedAfter? (front : List Char) : List Char → Option (List Char)
  | [] => none
  | c :: text =>
      match after? front (c :: text) with
      | some rest => some (rest.takeWhile (· != '"'))
      | none => quotedAfter? front text

/-- How the error code begins in a body. -/
def errorMark : List Char := ['"', 'e', 'r', 'r', 'o', 'r', '"', ':', '"']

/-- The error code in the body of a response. -/
def Response.errorCode? (response : Response) : Option String :=
  (quotedAfter? errorMark response.body.toList).map String.ofList

/-- Text without a quote has no error code in it. -/
theorem quotedAfter?_append_of_not_mem {text : List Char} (h : '"' ∉ text) (rest : List Char) :
    quotedAfter? errorMark (text ++ rest) = quotedAfter? errorMark rest := by
  induction text with
  | nil => rfl
  | cons c text ih =>
      have hc : ('"' == c) = false := by
        rw [beq_eq_false_iff_ne]
        intro hquote
        exact h (hquote ▸ List.mem_cons_self)
      have hmiss : after? errorMark (c :: (text ++ rest)) = none := by
        simp [after?, errorMark, List.isPrefixOf, hc]
      rw [List.cons_append, quotedAfter?, hmiss]
      exact ih fun hmem => h (List.mem_cons_of_mem c hmem)

/-- A decimal text has no quote in it. -/
theorem quote_not_mem_intChars (n : Int) : '"' ∉ intChars n := by
  have hdigits : '"' ∉ Nat.toDigits 10 n.natAbs := by
    intro hmem
    have := Nat.isDigit_of_mem_toDigits (by decide) (by decide) hmem
    simp at this
  unfold intChars
  split
  · simp [hdigits]
  · exact hdigits

/-- A small letter or an underscore. -/
def isCodeChar (c : Char) : Bool :=
  (97 ≤ c.toNat && c.toNat ≤ 122) || c.toNat == 95

/-- A small letter or an underscore stands for itself in a JSON string, and is no quote. -/
theorem escapeChar_of_isCodeChar {c : Char} (h : isCodeChar c = true) :
    escapeChar c = [c] ∧ (c != '"') = true := by
  have hne : ∀ other : Char, isCodeChar other = false → c ≠ other := by
    rintro other hother rfl
    rw [h] at hother
    contradiction
  have hprintable : ¬c.toNat < 0x20 := by
    simp only [isCodeChar, Bool.or_eq_true, Bool.and_eq_true, decide_eq_true_eq, beq_iff_eq] at h
    omega
  constructor
  · unfold escapeChar
    rw [if_neg (hne _ (by decide)), if_neg (hne _ (by decide)), if_neg (hne _ (by decide)),
      if_neg (hne _ (by decide)), if_neg (hne _ (by decide)), if_neg (hne _ (by decide)),
      if_neg (hne _ (by decide)), if_neg hprintable]
  · exact bne_iff_ne.mpr (hne _ (by decide))

namespace Rejection

/-- An error code is made of small letters and underscores. -/
theorem code_plain (rejection : Rejection) :
    ∀ c ∈ rejection.code.toList, isCodeChar c = true := by
  rw [← List.all_eq_true]
  cases rejection with
  | signature error => cases error <;> decide
  | fairness violation => cases violation <;> simp only [code] <;> decide
  | invalidEvent text => simp only [code]; decide
  | _ => decide

/-- An error code is written as it is, between quotes. -/
theorem stringChars_code (rejection : Rejection) :
    stringChars rejection.code = '"' :: rejection.code.toList ++ ['"'] := by
  have hplain : rejection.code.toList.flatMap escapeChar = rejection.code.toList.flatMap ([·]) :=
    List.flatMap_congr fun c hc => (escapeChar_of_isCodeChar (rejection.code_plain c hc)).1
  rw [stringChars, hplain, List.flatMap_singleton']

/-- An error code ends at the next quote. -/
theorem takeWhile_code (rejection : Rejection) (rest : List Char) :
    (rejection.code.toList ++ '"' :: rest).takeWhile (· != '"') = rejection.code.toList := by
  rw [List.takeWhile_append_of_pos fun c hc =>
    (escapeChar_of_isCodeChar (rejection.code_plain c hc)).2]
  simp

end Rejection

/-- A quote that does not begin the mark is passed over. -/
theorem quotedAfter?_quote {c : Char} (h : c ≠ 'e') (text : List Char) :
    quotedAfter? errorMark ('"' :: c :: text) = quotedAfter? errorMark (c :: text) := by
  have hc : ('e' == c) = false := beq_eq_false_iff_ne.mpr (Ne.symm h)
  have hmiss : after? errorMark ('"' :: c :: text) = none := by
    simp [after?, errorMark, List.isPrefixOf, hc]
  rw [quotedAfter?, hmiss]

/-- Behind the mark the code goes on to the next quote. -/
theorem quotedAfter?_errorMark (text : List Char) :
    quotedAfter? errorMark (errorMark ++ text) = some (text.takeWhile (· != '"')) := by
  have hfound : after? errorMark (errorMark ++ text) = some text := by
    simp [after?]
  rw [errorMark, List.cons_append] at hfound ⊢
  rw [quotedAfter?, hfound]

/-- The error code is found where the members of a body begin with it. -/
theorem quotedAfter?_error (rejection : Rejection) (members : Json.Members) (rest : List Char) :
    quotedAfter? errorMark (membersChars (("error", .text rejection.code) :: members) ++ rest) =
      some rejection.code.toList := by
  have hname : stringChars "error" = ['"', 'e', 'r', 'r', 'o', 'r', '"'] := by decide
  obtain ⟨more, hmore⟩ : ∃ more,
      membersChars (("error", .text rejection.code) :: members) ++ rest =
        errorMark ++ (rejection.code.toList ++ '"' :: more) := by
    simp only [membersChars, Value.toChars, hname, rejection.stringChars_code, errorMark,
      List.cons_append, List.nil_append, List.append_assoc]
    exact ⟨_, rfl⟩
  rw [hmore, quotedAfter?_errorMark, rejection.takeWhile_code]

/-- The members of a body: the end of a block, where there is one, and the error code. -/
theorem Rejection.toJson_eq (rejection : Rejection) :
    ∃ opening more,
      rejection.toJson = .object (opening ++ ("error", .text rejection.code) :: more) ∧
        (opening = [] ∨ ∃ endsAt, opening = [("blockedUntil", .ofInt endsAt)]) := by
  cases rejection with
  | fairness violation => exact ⟨_, _, rfl, Or.inr ⟨_, rfl⟩⟩
  | _ => exact ⟨[], _, rfl, Or.inl rfl⟩

/-- The end of a block has no error code in it. -/
theorem quotedAfter?_blockedUntil (endsAt : Int) (text : List Char) :
    quotedAfter? errorMark
        (stringChars "blockedUntil" ++ ':' :: (Value.ofInt endsAt).toChars ++ ',' :: text) =
      quotedAfter? errorMark text := by
  have hopen : stringChars "blockedUntil" = '"' :: 'b' :: ("lockedUntil".toList ++ ['"']) := by
    decide
  have hname : '"' ∉ 'b' :: "lockedUntil".toList := by decide
  have hnumber : '"' ∉ ':' :: intChars endsAt ++ [','] := by
    simp [quote_not_mem_intChars]
  calc
    _ = quotedAfter? errorMark ('"' :: 'b' :: ("lockedUntil".toList ++
          '"' :: ':' :: (intChars endsAt ++ ',' :: text))) := by
        rw [hopen, Value.ofInt, Value.toChars, Json.Number.toChars]
        simp
    _ = quotedAfter? errorMark ('b' :: "lockedUntil".toList ++
          '"' :: ':' :: (intChars endsAt ++ ',' :: text)) := quotedAfter?_quote (by decide) _
    _ = quotedAfter? errorMark ('"' :: ':' :: (intChars endsAt ++ ',' :: text)) :=
        quotedAfter?_append_of_not_mem hname _
    _ = quotedAfter? errorMark (':' :: (intChars endsAt ++ ',' :: text)) :=
        quotedAfter?_quote (by decide) _
    _ = quotedAfter? errorMark ((':' :: intChars endsAt ++ [',']) ++ text) := by simp
    _ = quotedAfter? errorMark text := quotedAfter?_append_of_not_mem hnumber _

/-- The body of a rejection carries its code. -/
theorem Response.errorCode?_ofRejection (rejection : Rejection) :
    (ofRejection rejection).errorCode? = some rejection.code := by
  have hbrace : '"' ∉ ['\x7b'] := by decide
  have hfound : quotedAfter? errorMark rejection.toJson.toChars = some rejection.code.toList := by
    obtain ⟨opening, more, hjson, rfl | ⟨endsAt, rfl⟩⟩ := rejection.toJson_eq
    · rw [hjson, List.nil_append, Value.toChars, ← List.singleton_append, List.append_assoc,
        quotedAfter?_append_of_not_mem hbrace]
      exact quotedAfter?_error rejection more _
    · rw [hjson, List.singleton_append, Value.toChars, ← List.singleton_append, List.append_assoc,
        quotedAfter?_append_of_not_mem hbrace, membersChars, List.isEmpty_cons, if_neg (by decide),
        List.append_assoc _ _ ['\x7d'], List.cons_append, quotedAfter?_blockedUntil]
      exact quotedAfter?_error rejection more _
  simp only [errorCode?, ofRejection, json, Value.toText, String.toList_ofList, hfound,
    Option.map_some, String.ofList_toList]

/-- The status of a rejection is never that of success. -/
theorem Rejection.status_ne_ok (rejection : Rejection) : rejection.status ≠ 200 := by
  cases rejection with
  | fairness violation => cases violation <;> simp [status]
  | _ => simp [status]

/-! ## Where requests come to -/

/-- The operations on the tracker for a request that comes to a resource, but is no
submission. -/
def Route.lookups (wall : WallTime) : Route → List Tracker.Op
  | .blockedPlayers => [.blockedPlayers wall]
  | .player segment => ((decodePercent segment).map (.snapshot · wall)).toList
  | .unblock segment => ((decodePercent segment).map (.unblock · wall)).toList
  | .metrics => [.size]
  | .checkEvent | .health => []

namespace Request

/-- The resource that a path names. -/
def route? (request : Request) : Option Route :=
  Route.ofPath? (pathOf request.target)

/-- The resource that a request comes to: it has the method, and the body is not declared
as longer than the limit. -/
def resource? (request : Request) (limit : Nat) : Option Route :=
  if request.headers.declaresTooLong limit then none
  else request.route?.filter fun route => route.allows request.method

/-- Whether a request comes to the checks of a submission. -/
def isHeard (request : Request) (limit : Nat) : Bool :=
  request.resource? limit = some .checkEvent ∧
    request.body.length ≤ request.headers.bodyLimit limit

/-- What the checks look at. -/
def submission (request : Request) : Submission :=
  .ofRequest request.method (pathOf request.target) request.headers request.body

/-- The operations on the tracker for a request that is not heard. -/
def lookups (request : Request) (limit : Nat) (wall : WallTime) : List Tracker.Op :=
  match request.resource? limit with
  | some route => route.lookups wall
  | none => []

/-- A request that comes to a resource has a method of it, and its body is not declared as
too long. -/
theorem resource?_eq_some_iff {request : Request} {limit : Nat} {route : Route} :
    request.resource? limit = some route ↔
      request.headers.declaresTooLong limit = false ∧ request.route? = some route ∧
        route.allows request.method = true := by
  unfold resource?
  cases request.headers.declaresTooLong limit with
  | true => simp
  | false => simp [Option.filter_eq_some_iff]

end Request

namespace Gateway

variable {gateway : Gateway} {request : Request}

/-- A request that comes to a resource is answered there. -/
theorem respond_of_resource? {route : Route}
    (h : request.resource? gateway.maxBodyBytes = some route) (readings : Readings) :
    gateway.respond request readings =
      let (response, after) := gateway.answer request readings (pathOf request.target) route
      (if request.method = "HEAD" then response.map Response.withoutBody else response, after) := by
  obtain ⟨hshort, hroute, hallows⟩ := Request.resource?_eq_some_iff.mp h
  rw [Request.route?] at hroute
  simp [respond, hshort, hroute, hallows]

/-- What is heard is answered by the checks. -/
theorem respond_of_heard (h : request.isHeard gateway.maxBodyBytes = true) (readings : Readings) :
    gateway.respond request readings = gateway.checkEvent request.submission readings := by
  obtain ⟨hresource, hlength⟩ := of_decide_eq_true h
  obtain ⟨-, -, hallows⟩ := Request.resource?_eq_some_iff.mp hresource
  have hmethod : request.method = "POST" := by simpa [Route.allows] using hallows
  have hhead : request.method ≠ "HEAD" := by simp [hmethod]
  rw [respond_of_resource? hresource]
  simp only [answer, if_neg (Nat.not_lt.mpr hlength), if_neg hhead]
  rfl

/-- A request that comes to no resource is answered without a look at the state, and not
with success. -/
theorem respond_of_no_resource (h : request.resource? gateway.maxBodyBytes = none)
    (readings : Readings) :
    ∃ response, gateway.respond request readings = (.ok response, gateway) ∧
      response.status ≠ 200 := by
  unfold Request.resource? Request.route? at h
  simp only [respond]
  cases hroute : Route.ofPath? (pathOf request.target) with
  | none =>
      refine ⟨_, rfl, ?_⟩
      split <;> decide
  | some route =>
      dsimp only
      cases hallows : route.allows request.method with
      | false =>
          refine ⟨_, rfl, ?_⟩
          split <;> simp [Response.text, Response.bare]
      | true =>
          -- The resource has the method, so it is the length that stood in the way.
          have hlong : request.headers.declaresTooLong gateway.maxBodyBytes = true := by
            simpa [hroute, hallows, Option.filter_some] using h
          simp only [hlong, if_true]
          by_cases hhead : request.method = "HEAD"
          · simp only [if_pos hhead]
            refine ⟨_, rfl, ?_⟩
            decide
          · simp only [if_neg hhead]
            refine ⟨_, rfl, ?_⟩
            decide

/-- What comes to a resource and is no submission of bearable length is answered.  It looks
up players at most, or sets the gauges of the metrics. -/
theorem answer_of_unheard {route : Route}
    (h : route = .checkEvent →
      request.headers.bodyLimit gateway.maxBodyBytes < request.body.length)
    (readings : Readings) (path : String) :
    ∃ response metrics,
      gateway.answer request readings path route =
        (.ok response,
          { gateway with
            tracker := (gateway.tracker.run (route.lookups readings.wallAt)).2
            metrics := metrics }) ∧
      gateway.metrics.SameCounters metrics ∧
      (route = .checkEvent → response.status ≠ 200) := by
  cases route with
  | checkEvent =>
      simp only [answer, if_pos (h rfl)]
      refine ⟨_, _, rfl, .refl, fun _ => ?_⟩
      simp [Response.text]
  | player segment =>
      simp only [answer, aboutPlayer, Route.lookups]
      cases decodePercent segment with
      | none => exact ⟨_, _, rfl, .refl, by simp⟩
      | some playerId => exact ⟨_, _, rfl, .refl, by simp⟩
  | unblock segment =>
      simp only [answer, aboutPlayer, Route.lookups]
      cases decodePercent segment with
      | none => exact ⟨_, _, rfl, .refl, by simp⟩
      | some playerId =>
          have hrun : (gateway.tracker.run [.unblock playerId readings.wallAt]).2 =
              (gateway.tracker.unblock playerId readings.wallAt).2 := rfl
          simp only [Option.map_some, Option.toList_some, hrun, unblockPlayer]
          generalize gateway.tracker.unblock playerId readings.wallAt = result
          obtain ⟨snapshot, tracker⟩ := result
          cases snapshot with
          | none => exact ⟨_, _, rfl, .refl, by simp⟩
          | some snapshot => exact ⟨_, _, rfl, .refl, by simp⟩
  | blockedPlayers | health => exact ⟨_, _, rfl, .refl, by simp⟩
  | metrics => exact ⟨_, _, rfl, ⟨rfl, rfl, rfl⟩, by simp⟩

/-- A request that is not heard is answered all the same, and at the path of submissions
not with success. -/
theorem respond_of_unheard (h : request.isHeard gateway.maxBodyBytes = false)
    (readings : Readings) :
    ∃ response metrics,
      gateway.respond request readings =
        (.ok response,
          { gateway with
            tracker :=
              (gateway.tracker.run (request.lookups gateway.maxBodyBytes readings.wallAt)).2
            metrics := metrics }) ∧
      gateway.metrics.SameCounters metrics ∧
      (request.route? = some .checkEvent → response.status ≠ 200) := by
  unfold Request.lookups
  cases hresource : request.resource? gateway.maxBodyBytes with
  | none =>
      obtain ⟨response, hrespond, hstatus⟩ := respond_of_no_resource hresource readings
      exact ⟨response, gateway.metrics, hrespond, .refl, fun _ => hstatus⟩
  | some route =>
      obtain ⟨-, hroute, -⟩ := Request.resource?_eq_some_iff.mp hresource
      have hlength : route = .checkEvent →
          request.headers.bodyLimit gateway.maxBodyBytes < request.body.length := by
        rintro rfl
        simpa [Request.isHeard, hresource] using h
      obtain ⟨response, metrics, hanswer, hsame, hstatus⟩ :=
        answer_of_unheard hlength readings (pathOf request.target)
      refine ⟨if request.method = "HEAD" then response.withoutBody else response, metrics, ?_,
        hsame, ?_⟩
      · rw [respond_of_resource? hresource, hanswer]
        by_cases hhead : request.method = "HEAD"
        · simp [hhead, Except.map]
        · simp [hhead]
      · intro hcheck
        have hcheck : route = .checkEvent := Option.some.inj (hroute.symm.trans hcheck)
        split <;> exact hstatus hcheck

end Gateway

end Turnstile
