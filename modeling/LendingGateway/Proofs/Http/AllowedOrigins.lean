import LendingGateway.Http.Gateway
import LendingGateway.Proofs.Http.ProviderQuery

namespace LendingGateway
namespace Http

/-!
# The origin that a response allows

No operation says anything about origins.  What a response in time allows is therefore decided
by the policy of the gateway alone, whatever the request asks for and however it goes.  The
policy itself is a list without a star, or no list at all.
-/

/-! ## Policies -/

theorem OriginPolicy.ofList_of_star {origins : List String} (star : "*" ∈ origins) :
    OriginPolicy.ofList origins = .any := by
  have built : OriginPolicy.build? origins = some .any :=
    if_pos (List.contains_iff_mem.mpr star)
  rw [OriginPolicy.ofList, Option.get_of_eq_some _ built]

theorem OriginPolicy.ofList_of_starless {origins : List String} (starless : "*" ∉ origins) :
    OriginPolicy.ofList origins = .listed (origins.filter isHeaderValue) := by
  have filtered : "*" ∉ origins.filter isHeaderValue :=
    fun kept => starless (List.mem_filter.mp kept).1
  rw [← List.contains_iff_mem] at starless filtered
  have built : OriginPolicy.build? origins = some (.listed (origins.filter isHeaderValue)) :=
    (if_neg starless).trans (if_neg filtered)
  rw [OriginPolicy.ofList, Option.get_of_eq_some _ built]

/-- The star can stand in a header, so leaving out what cannot leaves the policy as it is. -/
theorem OriginPolicy.ofList_filter (origins : List String) :
    OriginPolicy.ofList (origins.filter isHeaderValue) = OriginPolicy.ofList origins := by
  have kept : "*" ∈ origins.filter isHeaderValue ↔ "*" ∈ origins :=
    List.mem_filter.trans (and_iff_left (by decide))
  by_cases star : "*" ∈ origins
  · rw [ofList_of_star star, ofList_of_star (kept.mpr star)]
  · rw [ofList_of_starless star, ofList_of_starless (fun found => star (kept.mp found)),
      List.filter_filter]
    simp only [Bool.and_self]

/-! ## Headers of operations -/

/-- The origins that a response allows, one for each header that says so. -/
def Response.allowedOrigins (response : Response) : List String :=
  (response.headers.filter fun header =>
    Text.sameFold header.1 "access-control-allow-origin").map Prod.snd

/-- However an operation finishes, its response says nothing about origins. -/
def Operation.NamesNoOrigin (operation : Operation) : Prop :=
  ∀ finished, operation.finished = some finished → finished.response.allowedOrigins = []

theorem namesNoOrigin_immediate {response : Response} (silent : response.allowedOrigins = []) :
    (Operation.immediate response).NamesNoOrigin := by
  intro finished finishes
  cases finishes
  exact silent

/-- A response whose headers have other names says nothing about origins. -/
theorem allowedOrigins_eq_nil {response : Response} (others : ∀ header ∈ response.headers,
    Text.sameFold header.1 "access-control-allow-origin" = false) :
    response.allowedOrigins = [] := by
  have none : (response.headers.filter fun header =>
      Text.sameFold header.1 "access-control-allow-origin") = [] :=
    List.filter_eq_nil_iff.mpr fun header held => Bool.eq_false_iff.mp (others header held)
  rw [Response.allowedOrigins, none]
  rfl

theorem allowedOrigins_jsonResponse (status : Nat) (tree : Json.Tree) :
    (jsonResponse status tree).allowedOrigins = [] :=
  allowedOrigins_eq_nil (List.forall_mem_singleton.mpr (by decide))

theorem allowedOrigins_textResponse (status : Nat) (text : String) :
    (textResponse status text).allowedOrigins = [] :=
  allowedOrigins_eq_nil (List.forall_mem_singleton.mpr (by decide))

/-- Headers that tell which methods are allowed tell nothing about origins. -/
theorem allowedOrigins_allow (status : Nat) (routes : List Route) (body : String) :
    Response.allowedOrigins ⟨status, routes.map fun route => ("allow", route.allow), body⟩ = [] := by
  apply allowedOrigins_eq_nil
  intro header held
  rcases List.mem_map.mp held with ⟨route, _, rfl⟩
  exact (by decide : Text.sameFold "allow" "access-control-allow-origin" = false)

theorem namesNoOrigin_failed (error : Failure) : (Operation.failed error).NamesNoOrigin := by
  intro finished finishes
  cases finishes
  exact allowedOrigins_jsonResponse _ _

theorem namesNoOrigin_ofAsked {α : Type} [Json.Wire α] (asked : Service.Asked α) :
    (Operation.ofAsked asked).NamesNoOrigin := by
  intro finished finishes
  unfold Operation.ofAsked at finishes
  cases replied : asked.reply with
  | never =>
    simp only [replied] at finishes
    cases finishes
  | after ticks outcome events =>
    cases outcome <;>
    · simp only [replied] at finishes
      cases finishes
      exact allowedOrigins_jsonResponse _ _

theorem namesNoOrigin_operationOn {α β : Type} [Json.Wire α] [Json.Wire β] (segment : String)
    (request : Request) (query : String → α → Service.Asked β) :
    (operationOn segment request query).NamesNoOrigin := by
  unfold operationOn
  split
  · exact namesNoOrigin_immediate (allowedOrigins_textResponse _ _)
  split
  · exact namesNoOrigin_failed _
  · exact namesNoOrigin_ofAsked _

theorem namesNoOrigin_operation (service : Service) (request : Request) (route : Route) :
    (operation service request route).NamesNoOrigin := by
  cases route with
  | alive | ready => exact namesNoOrigin_immediate (allowedOrigins_textResponse _ _)
  | documentation => exact namesNoOrigin_immediate (allowedOrigins_jsonResponse _ _)
  | providers =>
    intro finished finishes
    cases finishes
    exact allowedOrigins_jsonResponse _ _
  | rates segment => exact namesNoOrigin_operationOn segment request service.rates
  | account segment => exact namesNoOrigin_operationOn segment request service.accounts

theorem allowedOrigins_trimFor (method : String) (response : Response) :
    (response.trimFor method).allowedOrigins = response.allowedOrigins := by
  unfold Response.trimFor
  split <;> rfl

theorem namesNoOrigin_dispatch (service : Service) (request : Request) :
    (dispatch service request).NamesNoOrigin := by
  unfold dispatch
  dsimp only
  split
  · exact namesNoOrigin_immediate (allowedOrigins_allow 200 _ "")
  split
  · exact namesNoOrigin_immediate rfl
  rename_i route _
  split
  · intro finished finishes
    rcases Option.map_eq_some_iff.mp finishes with ⟨whole, ends, rfl⟩
    exact (allowedOrigins_trimFor _ _).trans (namesNoOrigin_operation service request route _ ends)
  · exact namesNoOrigin_immediate (allowedOrigins_allow 405 [route] "")

/-! ## Responses in time -/

/-- A request is answered before its time is up. -/
def Gateway.AnswersInTime (gateway : Gateway) (request : Request) : Prop :=
  ∃ finished, (dispatch gateway.service request).finished = some finished ∧
    finished.ticks < gateway.timeout.ticks

theorem allowedOrigins_complete {response : Response} (silent : response.allowedOrigins = [])
    (gateway : Gateway) (request : Request) :
    (gateway.complete request response).allowedOrigins =
      (gateway.origins.allowed? request).toList := by
  have varies : Text.sameFold "vary" "access-control-allow-origin" = false := by decide
  have names : Text.sameFold requestIdHeader "access-control-allow-origin" = false := by decide
  unfold Response.allowedOrigins at silent ⊢
  unfold Gateway.complete OriginPolicy.headers
  simp only [List.filter_append, List.map_append, silent, List.nil_append, List.filter_cons,
    varies, Bool.false_eq_true, if_false, List.filter_nil, List.append_nil]
  cases header? requestIdHeader request.headers <;>
    cases gateway.origins.allowed? request <;>
      simp [names]

/-- A response in time allows the origin that the policy allows, and no other. -/
theorem allowedOrigins_serve {gateway : Gateway} {request : Request}
    (inTime : gateway.AnswersInTime request) :
    (gateway.serve request).response.allowedOrigins =
      (gateway.origins.allowed? request).toList := by
  rcases inTime with ⟨finished, finishes, early⟩
  have dispatched : dispatch gateway.service request =
      ⟨some finished, (dispatch gateway.service request).calls⟩ := by
    rw [← finishes]
  rw [serve_in_time dispatched early]
  exact allowedOrigins_complete (namesNoOrigin_dispatch _ _ finished finishes) gateway request

end Http
end LendingGateway
