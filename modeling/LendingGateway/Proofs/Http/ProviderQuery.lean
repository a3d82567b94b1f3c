import LendingGateway.Http.Gateway
import LendingGateway.Proofs.Http.ProviderPath
import LendingGateway.Proofs.Registry.Lookup

namespace LendingGateway
namespace Http

open Lending Backend

/-!
# Queries about one provider

A query about one provider can fail in three places: its body may be refused, no provider
may be registered under the name, and the backend may fail.  They are met in this order,
and each of them decides the response alone.  No backend is called before the last one.
-/

/-! ## Bodies -/

/-- The body of a request is, as a whole, a document of a value. -/
def HoldsBody (α : Type) [Json.Wire α] (request : Request) (value : α) : Prop :=
  declaresJson request = true ∧ request.body.octets.length ≤ bodyLimit ∧
    request.body.broken = none ∧ Json.Wire.decode α request.body.octets = .ok value

/-- The body of a request is not declared as a document, too long, not to be read to its end, or
no document of a value. -/
def RefusesBody (α : Type) [Json.Wire α] (request : Request) : Prop :=
  declaresJson request = false ∨ bodyLimit < request.body.octets.length ∨
    (∃ reason, request.body.broken = some reason) ∨
      ∃ fault, Json.Wire.decode α request.body.octets = .error fault

section Bodies

variable {α : Type} [Json.Wire α] {request : Request}

theorem readBody_of_holds {value : α} (holds : HoldsBody α request value) :
    readBody α request = .ok value := by
  rcases holds with ⟨declared, short, whole, decoded⟩
  unfold readBody
  rw [declared, if_neg (by decide), if_neg (Nat.not_lt.mpr short), whole]
  simp only [decoded]

theorem refuses_or_holds (α : Type) [Json.Wire α] (request : Request) :
    RefusesBody α request ∨ ∃ value, HoldsBody α request value := by
  by_cases declared : declaresJson request = true
  · by_cases short : request.body.octets.length ≤ bodyLimit
    · cases whole : request.body.broken with
      | some reason => exact Or.inl (Or.inr (Or.inr (Or.inl ⟨reason, whole⟩)))
      | none =>
        cases decoded : Json.Wire.decode α request.body.octets with
        | error fault => exact Or.inl (Or.inr (Or.inr (Or.inr ⟨fault, decoded⟩)))
        | ok value => exact Or.inr ⟨value, declared, short, whole, decoded⟩
    · exact Or.inl (Or.inr (Or.inl (Nat.not_le.mp short)))
  · exact Or.inl (Or.inl (Bool.eq_false_iff.mpr declared))

theorem readBody_of_refuses (refuses : RefusesBody α request) :
    ∃ error, readBody α request = .error error := by
  unfold readBody
  cases declared : declaresJson request with
  | false => exact ⟨.undeclared, rfl⟩
  | true =>
    by_cases long : bodyLimit < request.body.octets.length
    · exact ⟨.tooLong, by rw [if_neg (by decide), if_pos long]⟩
    · rw [if_neg (by decide), if_neg long]
      cases whole : request.body.broken with
      | some reason => exact ⟨.unreadable reason, rfl⟩
      | none =>
        rcases refuses with undeclared | tooLong | ⟨reason, broken⟩ | ⟨fault, decoded⟩
        · rw [declared] at undeclared
          cases undeclared
        · exact absurd tooLong long
        · rw [whole] at broken
          cases broken
        · exact ⟨.malformed fault, by simp only [decoded]⟩

end Bodies

/-! ## Responses -/

/-- A response reports a failure: its body repeats the status beside the message. -/
def Reports (response : Response) (status : Nat) (message : String) : Prop :=
  response.status = status ∧
    response.body =
      (Json.Tree.object
        [("code", .number (.integer status)), ("message", .text message)]).render

/-- A response hands out a value as the only member of its body. -/
def HandsOut {α : Type} [Json.Wire α] (response : Response) (value : α) : Prop :=
  response.status = 200 ∧
    response.body = (Json.Tree.object [("docs", Json.Wire.tree value)]).render

theorem reports_response (failure : Failure) :
    Reports failure.response failure.status failure.message :=
  ⟨rfl, rfl⟩

theorem handsOut_docsResponse {α : Type} [Json.Wire α] (value : α) :
    HandsOut (docsResponse value) value :=
  ⟨rfl, rfl⟩

/-! ## Serving an operation -/

theorem trimFor_post (response : Response) : response.trimFor "POST" = response :=
  if_neg (by decide)

theorem dispatch_post {service : Service} {request : Request} {route : Route}
    (post : request.method = "POST") (routed : Route.ofPath? request.path = some route)
    (takesBody : route.takesBody = true) :
    dispatch service request = operation service request route := by
  have accepted : route.accepts "POST" = true := by
    unfold Route.accepts
    rw [if_pos takesBody]
    rfl
  unfold dispatch
  rw [routed, post, if_neg (by decide)]
  simp only [accepted, if_true, trimFor_post, Option.map_id']

theorem ticks_positive {timeout : Timeout} (positive : 0 < timeout.micros) :
    timeout.ticks ≠ 0 := by
  unfold Timeout.ticks
  omega

/-- The calls of a request that may take any time at all are those of its operation. -/
theorem calls_serve {gateway : Gateway} (positive : 0 < gateway.timeout.micros)
    (request : Request) :
    (gateway.serve request).calls = (dispatch gateway.service request).calls := by
  unfold Gateway.serve
  rw [if_neg (ticks_positive positive)]
  cases finishes : (dispatch gateway.service request).finished with
  | none => simp only [finishes]
  | some finished =>
    simp only [finishes]
    split <;> rfl

/-- An operation that finishes before the request times out answers it. -/
theorem serve_in_time {gateway : Gateway} {request : Request} {finished : Finished}
    {calls : List Service.Call}
    (dispatched : dispatch gateway.service request = ⟨some finished, calls⟩)
    (inTime : finished.ticks < gateway.timeout.ticks) :
    gateway.serve request =
      ⟨gateway.complete request finished.response, calls, finished.events⟩ := by
  have possible : gateway.timeout.ticks ≠ 0 := Nat.ne_of_gt (Nat.zero_lt_of_lt inTime)
  unfold Gateway.serve
  rw [if_neg possible, dispatched]
  simp only [inTime, if_true]

/-- An operation that does not finish before the request times out is never heard of. -/
theorem serve_late {gateway : Gateway} (positive : 0 < gateway.timeout.micros)
    {request : Request}
    (late : ∀ finished, (dispatch gateway.service request).finished = some finished →
      gateway.timeout.ticks ≤ finished.ticks) :
    (gateway.serve request).response = timedOut := by
  unfold Gateway.serve
  rw [if_neg (ticks_positive positive)]
  cases finishes : (dispatch gateway.service request).finished with
  | none => simp only [finishes]
  | some finished =>
    simp only [finishes]
    rw [if_neg (Nat.not_lt.mpr (late finished finishes))]

/-! ## The answer to a query -/

/-- The status of a failed query blames the caller exactly if the error does. -/
theorem queryStatus_lt_iff (error : QueryError) :
    queryStatus error < 500 ↔ error.isCallersFault = true := by
  cases error with
  | unknownProvider provider => simp [queryStatus, QueryError.isCallersFault]
  | unavailable provider reason => simp [queryStatus, QueryError.isCallersFault]
  | invalidAsset provider detail => simp [queryStatus, QueryError.isCallersFault]
  | invalidAddress provider detail => simp [queryStatus, QueryError.isCallersFault]

/-- How a query about one provider is answered.  A refused body decides the response,
then an unknown provider does, and otherwise the one backend that is asked. -/
structure Answers {α β : Type} [Json.Wire α] [Json.Wire β] (gateway : Gateway)
    (request : Request) (provider : String) (question : Service.Question)
    (reply : Backend → α → Reply β) : Prop where
  decided : RefusesBody α request ∨ ∃ value, HoldsBody α request value
  refused : RefusesBody α request →
    (gateway.serve request).calls = [] ∧
      ∃ reason, Reports (gateway.serve request).response 400 ("Invalid request: " ++ reason)
  unknown : ∀ value, HoldsBody α request value →
    gateway.service.registry.get? provider = none →
      (gateway.serve request).calls = [] ∧
        Reports (gateway.serve request).response 404 ("Unknown provider " ++ provider)
  /-- The backend is asked once, with the value of the body, whatever comes of it. -/
  called : ∀ value backend, HoldsBody α request value →
    gateway.service.registry.get? provider = some backend →
      backend.id = provider ∧ (gateway.serve request).calls = [⟨provider, question⟩]
  found : ∀ value backend, HoldsBody α request value →
    gateway.service.registry.get? provider = some backend →
      ∀ ticks docs events, reply backend value = .after ticks (.ok docs) events →
        ticks < gateway.timeout.ticks → HandsOut (gateway.serve request).response docs
  failed : ∀ value backend, HoldsBody α request value →
    gateway.service.registry.get? provider = some backend →
      ∀ ticks error events, reply backend value = .after ticks (.error error) events →
        ticks < gateway.timeout.ticks →
          Reports (gateway.serve request).response
            (match error with
              | .unknownProvider _ => 404
              | .invalidAsset .. | .invalidAddress .. => 400
              | .unavailable .. => 502) error.message ∧
          ((gateway.serve request).response.status < 500 ↔ error.isCallersFault = true)
  late : ∀ value backend, HoldsBody α request value →
    gateway.service.registry.get? provider = some backend →
      (∀ ticks outcome events, reply backend value = .after ticks outcome events →
        gateway.timeout.ticks ≤ ticks) →
          (gateway.serve request).response = timedOut

theorem answers_of_dispatch {α β : Type} [Json.Wire α] [Json.Wire β] {gateway : Gateway}
    (positive : 0 < gateway.timeout.micros) {request : Request} {segment provider : String}
    (decoded : decodeSegment? segment = some provider) (question : Service.Question)
    (query : α → Query β) (puts : ∀ value, .ofQuery (query value) = question)
    (dispatched : dispatch gateway.service request =
      operationOn segment request fun id value => gateway.service.ask id (query value)) :
    Answers gateway request provider question fun backend value =>
      backend.answer (query value) := by
  have possible : 0 < gateway.timeout.ticks := Nat.pos_of_ne_zero (ticks_positive positive)
  rw [operationOn, decoded] at dispatched
  have asks : ∀ value backend, HoldsBody α request value →
      gateway.service.registry.get? provider = some backend →
        dispatch gateway.service request =
          .ofAsked ⟨backend.answer (query value), [⟨provider, question⟩]⟩ := by
    intro value backend holds found
    rw [dispatched]
    simp only [readBody_of_holds holds, Service.ask, found, Service.put, Registry.get?_id found,
      puts]
  refine ⟨refuses_or_holds α request, ?_, ?_, ?_, ?_, ?_, ?_⟩
  -- What fails before the backend is asked takes no time, and so it is never late.
  · intro refuses
    rcases readBody_of_refuses refuses with ⟨error, read⟩
    simp only [read] at dispatched
    rw [serve_in_time dispatched possible]
    exact ⟨rfl, error.message, reports_response (.ofBody error)⟩
  · intro value holds absent
    simp only [readBody_of_holds holds, Service.ask, absent] at dispatched
    rw [serve_in_time dispatched possible]
    exact ⟨rfl, reports_response (.query (.unknownProvider provider))⟩
  · intro value backend holds found
    refine ⟨Registry.get?_id found, ?_⟩
    rw [calls_serve positive, asks value backend holds found]
    rfl
  · intro value backend holds found ticks docs events replied inTime
    have finishes := asks value backend holds found
    simp only [Operation.ofAsked, replied] at finishes
    rw [serve_in_time finishes inTime]
    exact handsOut_docsResponse docs
  · intro value backend holds found ticks error events replied inTime
    have finishes := asks value backend holds found
    simp only [Operation.ofAsked, replied] at finishes
    rw [serve_in_time finishes inTime]
    refine ⟨?_, queryStatus_lt_iff error⟩
    have reported := reports_response (.query error)
    cases error with
    | unknownProvider provider => exact reported
    | unavailable provider reason => exact reported
    | invalidAsset provider detail => exact reported
    | invalidAddress provider detail => exact reported
  · intro value backend holds found late
    apply serve_late positive
    intro finished finishes
    rw [asks value backend holds found] at finishes
    cases replied : backend.answer (query value) with
    | never =>
      simp only [Operation.ofAsked, replied] at finishes
      cases finishes
    | after ticks outcome events =>
      have tooLate := late ticks outcome events replied
      cases outcome with
      | ok docs =>
        simp only [Operation.ofAsked, replied] at finishes
        cases finishes
        exact tooLate
      | error error =>
        simp only [Operation.ofAsked, replied] at finishes
        cases finishes
        exact tooLate

/-- Every query about a provider is answered as `Answers` says, whatever the headers and
the body of the request are, and whatever identifier the segment encodes. -/
theorem serve_provider_query (gateway : Gateway) (positive : 0 < gateway.timeout.micros)
    (request : Request) (post : request.method = "POST") (segment provider : String)
    (single : '/' ∉ segment.toList) (decoded : decodeSegment? segment = some provider)
    (named : provider ≠ "") :
    (request.path = "/api/v1/lending/rates/" ++ segment →
      Answers gateway request provider .rates
        fun backend (query : RatesQuery) => backend.rates query.assets) ∧
    (request.path = "/api/v1/lending/account/" ++ segment →
      Answers gateway request provider .accounts
        fun backend (query : AccountsQuery) => backend.accounts query) := by
  have nonempty : segment ≠ "" := by
    rintro rfl
    have empty : decodeSegment? "" = some "" := by decide
    rw [empty] at decoded
    exact named (Option.some.inj decoded).symm
  constructor
  · intro path
    apply answers_of_dispatch positive decoded .rates Query.rates fun _ => rfl
    exact dispatch_post post (path ▸ ofPath?_rates single nonempty) rfl
  · intro path
    apply answers_of_dispatch positive decoded .accounts Query.accounts fun _ => rfl
    exact dispatch_post post (path ▸ ofPath?_account single nonempty) rfl

/-- A backend whose rates are unavailable after a while. -/
def failing (id : String) (ticks : Nat) : Backend where
  id := id
  info := .never
  rates _ := .after ticks (.error (.unavailable id "HTTP 503")) []
  accounts _ := .never

/-- A provider named by an escaped slash is found and asked for its rates, and its failure
is reported as that of a gateway.  Nobody is asked if the same body breaks off. -/
theorem serve_failing_provider :
    let gateway : Gateway :=
      .make ⟨[failing "a/b" 3], by decide⟩ ["*"] (.ofMillis 40)
    let request : Request :=
      ⟨"POST", "/api/v1/lending/rates/a%2Fb", [("Content-Type", "application/json")],
        Text.octets "\x7b\"assets\":[]\x7d", none⟩
    (0 < gateway.timeout.micros ∧ request.method = "POST" ∧ '/' ∉ "a%2Fb".toList ∧
      decodeSegment? "a%2Fb" = some "a/b" ∧ "a/b" ≠ "") ∧
    ((gateway.serve request).calls = [⟨"a/b", .rates⟩] ∧
      (gateway.serve request).response.status = 502) ∧
    let cut := { request with body := { request.body with broken := some "unexpected end" } }
    (gateway.serve cut).calls = [] ∧ (gateway.serve cut).response.status = 400 := by
  intro gateway request
  have positive : 0 < gateway.timeout.micros := by decide
  have single : '/' ∉ "a%2Fb".toList := by decide
  have decoded : decodeSegment? "a%2Fb" = some "a/b" := by decide
  have named : "a/b" ≠ "" := by decide
  have answers := (serve_provider_query gateway positive request rfl "a%2Fb" "a/b" single
    decoded named).1 rfl
  have holds : HoldsBody RatesQuery request ⟨[]⟩ := ⟨by decide, by decide, rfl, rfl⟩
  have registered : gateway.service.registry.get? "a/b" = some (failing "a/b" 3) := rfl
  have reported := answers.failed _ _ holds registered 3 _ [] rfl (by decide)
  refine ⟨⟨positive, rfl, single, decoded, named⟩,
    ⟨(answers.called _ _ holds registered).2, reported.1.1⟩, ?_⟩
  intro cut
  have refused := ((serve_provider_query gateway positive cut rfl "a%2Fb" "a/b" single
    decoded named).1 rfl).refused (Or.inr (Or.inr (Or.inl ⟨"unexpected end", rfl⟩)))
  rcases refused with ⟨unasked, _, rejected⟩
  exact ⟨unasked, rejected.1⟩

end Http
end LendingGateway
