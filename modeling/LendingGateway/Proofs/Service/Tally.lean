import LendingGateway.Proofs.Registry.Lookup
import LendingGateway.Proofs.Service.Hearing
import LendingGateway.Service.Step
import Mathlib.Data.List.Nodup

namespace LendingGateway
namespace Service

open Lending Backend

/-!
# What a run asks of the backends

Suppose that every backend counts how often it is asked each question.  A listing asks all of
them once, whatever comes of it; any other step asks the one backend that it names, if there
is one.  The counters after a run are therefore a matter of the steps alone, and no answer,
be it an error or none at all, has a share in them.  Conversely a step takes no answer that is
not counted: backends that answer its calls alike are the same to it.
-/

/-- How often each question has been put to each backend. -/
abbrev Tally := Call → Nat

def Tally.count (tally : Tally) (call : Call) : Tally :=
  Function.update tally call (tally call + 1)

/-- The counters after a step: each of its calls is counted. -/
def advance (service : Service) (tally : Tally) (step : Step) : Tally :=
  (service.perform step).calls.foldl Tally.count tally

/-- The counters after a run. -/
def tallyAfter (service : Service) (start : Tally) (steps : List Step) : Tally :=
  steps.foldl service.advance start

/-- The call that a step makes if the backend it names is registered. -/
def Step.call? : Step → Option Call
  | .list => none
  | .rates provider _ => some ⟨provider, .rates⟩
  | .accounts provider _ => some ⟨provider, .accounts⟩
  | .info provider => some ⟨provider, .info⟩

def Step.lists (step : Step) : Bool :=
  step.call?.isNone

/-- Whether a step puts a question to the backend with an identifier by naming it. -/
def Step.puts (question : Question) (id : String) (step : Step) : Bool :=
  step.call? == some ⟨id, question⟩

theorem foldl_count (calls : List Call) (tally : Tally) (call : Call) :
    calls.foldl Tally.count tally call = tally call + calls.count call := by
  induction calls generalizing tally with
  | nil => rfl
  | cons first calls inductionHypothesis =>
    rw [List.foldl_cons, inductionHypothesis, List.count_cons]
    by_cases same : first = call
    · subst same
      rw [Tally.count, Function.update_self, beq_self_eq_true, if_pos rfl]
      omega
    · rw [Tally.count, Function.update_of_ne (Ne.symm same),
        if_neg (fun equal => same (beq_iff_eq.mp equal)), Nat.add_zero]

/-! ## One step -/

/-- A listing makes the calls by which it hears of the backends. -/
theorem calls_list (service : Service) :
    service.list.calls = (service.registry.backends.map Backend.id).map fun id => ⟨id, .info⟩ := by
  change service.registry.backends.flatMap (fun backend => (service.hear backend).calls) = _
  simp only [calls_hear, List.map_map]
  exact List.flatMap_pure_eq_map _ _

/-- A listing asks a registered backend for its description once. -/
theorem count_calls_list (service : Service) {id : String}
    (registered : service.registry.contains id = true) :
    service.list.calls.count ⟨id, .info⟩ = 1 := by
  have injective : Function.Injective fun id => (⟨id, .info⟩ : Call) :=
    fun _ _ same => congrArg Call.provider same
  have distinct : service.list.calls.Nodup := by
    rw [calls_list]
    exact service.registry.distinct.map injective
  apply List.count_eq_one_of_mem distinct
  rw [calls_list]
  exact List.mem_map_of_mem (Registry.contains_iff_mem_ids.mp registered)

/-- All that a listing asks for are descriptions of registered backends. -/
theorem of_mem_calls_list {service : Service} {call : Call}
    (made : call ∈ service.list.calls) :
    call.question = .info ∧ service.registry.contains call.provider = true := by
  rw [calls_list] at made
  rcases List.mem_map.mp made with ⟨id, member, rfl⟩
  exact ⟨rfl, Registry.contains_iff_mem_ids.mpr member⟩

/-- Asking a provider makes one call if it is registered, and none if not. -/
theorem calls_ask {α : Type} (service : Service) (id : String) (query : Query α) :
    (service.ask id query).calls =
      if service.registry.contains id = true then [⟨id, .ofQuery query⟩] else [] := by
  unfold ask Registry.contains
  cases found : service.registry.get? id with
  | none => rfl
  | some backend =>
    rw [← Registry.get?_id found]
    rfl

theorem calls_perform_of_call? (service : Service) {step : Step} {call : Call}
    (named : step.call? = some call) :
    (service.perform step).calls =
      if service.registry.contains call.provider = true then [call] else [] := by
  cases step with
  | list => cases named
  | rates provider request =>
    cases named
    exact service.calls_ask provider (.rates request)
  | accounts provider request =>
    cases named
    exact service.calls_ask provider (.accounts request)
  | info provider =>
    cases named
    rw [perform, info?, Registry.contains]
    cases found : service.registry.get? provider with
    | none => rfl
    | some backend =>
      rw [← Registry.get?_id found]
      rfl

theorem Step.eq_list {step : Step} (unnamed : step.call? = none) : step = .list := by
  cases step with
  | list => rfl
  | rates provider request => cases unnamed
  | accounts provider request => cases unnamed
  | info provider => cases unnamed

/-- What a step adds to the counters of a registered backend. -/
theorem advance_registered (service : Service) (tally : Tally) (step : Step) {id : String}
    (registered : service.registry.contains id = true) (question : Question) :
    service.advance tally step ⟨id, question⟩ =
      tally ⟨id, question⟩ + (if step.lists && question == .info then 1 else 0) +
        (if step.puts question id then 1 else 0) := by
  rw [advance, foldl_count, Step.lists, Step.puts]
  cases named : step.call? with
  | none =>
    cases Step.eq_list named
    change tally ⟨id, question⟩ + service.list.calls.count _ = _
    by_cases description : question = .info
    · subst description
      rw [count_calls_list service registered]
      rfl
    · have unasked : service.list.calls.count ⟨id, question⟩ = 0 :=
        List.count_eq_zero.mpr fun made => description (of_mem_calls_list made).1
      rw [unasked, beq_eq_false_iff_ne.mpr description]
      rfl
  | some call =>
    rw [calls_perform_of_call? service named]
    by_cases same : call = ⟨id, question⟩
    · subst same
      rw [if_pos registered, List.count_singleton_self, beq_self_eq_true]
      rfl
    · have unasked : ([call] : List Call).count ⟨id, question⟩ = 0 :=
        List.count_eq_zero.mpr fun made => same (List.mem_singleton.mp made).symm
      have other : (some call == some ⟨id, question⟩) = false :=
        beq_eq_false_iff_ne.mpr fun equal => same (Option.some.inj equal)
      rw [other]
      split
      · rw [unasked]
        rfl
      · rfl

/-- Nobody can be asked under an identifier that is not registered. -/
theorem advance_unregistered (service : Service) (tally : Tally) (step : Step) {id : String}
    (unknown : service.registry.contains id = false) (question : Question) :
    service.advance tally step ⟨id, question⟩ = tally ⟨id, question⟩ := by
  have unasked : ⟨id, question⟩ ∉ (service.perform step).calls := by
    cases named : step.call? with
    | none =>
      cases Step.eq_list named
      intro made
      have known := (of_mem_calls_list made).2
      rw [unknown] at known
      cases known
    | some call =>
      rw [calls_perform_of_call? service named]
      intro made
      split at made
      · rename_i known
        rw [← List.mem_singleton.mp made, unknown] at known
        cases known
      · cases made
  rw [advance, foldl_count, List.count_eq_zero.mpr unasked, Nat.add_zero]

/-- A query under an identifier that is not registered counts nowhere. -/
theorem advance_unknown (service : Service) (tally : Tally) {step : Step} {call : Call}
    (named : step.call? = some call)
    (unknown : service.registry.contains call.provider = false) :
    service.advance tally step = tally := by
  rw [advance, calls_perform_of_call? service named, unknown]
  rfl

/-! ## A whole run -/

theorem tallyAfter_registered (service : Service) (start : Tally) (steps : List Step)
    {id : String} (registered : service.registry.contains id = true) (question : Question) :
    service.tallyAfter start steps ⟨id, question⟩ =
      start ⟨id, question⟩ + (if question == .info then steps.countP Step.lists else 0) +
        steps.countP (Step.puts question id) := by
  induction steps generalizing start with
  | nil => cases question <;> rfl
  | cons step steps inductionHypothesis =>
    change service.tallyAfter (service.advance start step) steps ⟨id, question⟩ = _
    rw [inductionHypothesis, advance_registered service start step registered,
      List.countP_cons, List.countP_cons]
    cases question == Question.info with
    | true =>
      rw [Bool.and_true, if_pos rfl, if_pos rfl]
      omega
    | false =>
      rw [Bool.and_false]
      simp only [Bool.false_eq_true, if_false]
      omega

theorem tallyAfter_unregistered (service : Service) (start : Tally) (steps : List Step)
    {id : String} (unknown : service.registry.contains id = false) (question : Question) :
    service.tallyAfter start steps ⟨id, question⟩ = start ⟨id, question⟩ := by
  induction steps generalizing start with
  | nil => rfl
  | cons step steps inductionHypothesis =>
    change service.tallyAfter (service.advance start step) steps ⟨id, question⟩ = _
    rw [inductionHypothesis, advance_unregistered service start step unknown]

/-! ## Replies -/

theorem ask_registered {α : Type} {service : Service} {backend : Backend}
    (member : backend ∈ service.registry.backends) (query : Query α) :
    service.ask backend.id query = put backend query := by
  rw [ask, Registry.get?_eq_some_iff.mpr ⟨member, rfl⟩]

theorem ask_unregistered {α : Type} {service : Service} {id : String}
    (unknown : service.registry.contains id = false) (query : Query α) :
    service.ask id query = ⟨.atOnce (.error (.unknownProvider id)) [unknownEvent id], []⟩ := by
  have absent : service.registry.get? id = none :=
    Option.isNone_iff_eq_none.mp (Option.isSome_eq_false_iff.mp unknown)
  rw [ask, absent]

/-! ## What the calls decide -/

/-- Two backends of one identifier answer alike whatever some calls put to them. -/
structure AnswersAlike (calls : List Call) (backend other : Backend) : Prop where
  id : other.id = backend.id
  answer : ∀ {α : Type} (query : Query α), ⟨backend.id, .ofQuery query⟩ ∈ calls →
    other.answer query = backend.answer query

section Alike

variable {service twin : Service} {calls : List Call} {backends others : List Backend}

theorem AnswersAlike.put {backend other : Backend} (alike : AnswersAlike calls backend other)
    {α : Type} {query : Query α} (made : ⟨backend.id, .ofQuery query⟩ ∈ calls) :
    Service.put other query = Service.put backend query := by
  rw [Service.put, Service.put, alike.id, alike.answer query made]

theorem hear_of_alike (sameDeadline : twin.deadline = service.deadline) {backend other : Backend}
    (alike : AnswersAlike calls backend other) (made : ⟨backend.id, .info⟩ ∈ calls) :
    twin.hear other = service.hear backend := by
  have asked : put other .info = put backend .info := alike.put made
  unfold hear heed lateError
  rw [sameDeadline, alike.id, asked]

theorem map_of_alike {β : Type} {after before : Backend → β}
    (each : List.Forall₂ (AnswersAlike calls) backends others)
    (same : ∀ backend ∈ backends, ∀ other, AnswersAlike calls backend other →
      after other = before backend) :
    others.map after = backends.map before := by
  induction each with
  | nil => rfl
  | cons alike _ inductionHypothesis =>
    rw [List.forall_mem_cons] at same
    rw [List.map_cons, List.map_cons, same.1 _ alike, inductionHypothesis same.2]

/-- Of two lists of backends that answer alike, the same one is found, if any. -/
theorem find?_of_alike (each : List.Forall₂ (AnswersAlike calls) backends others) (id : String) :
    (backends.find? (fun backend => backend.id == id) = none ∧
      others.find? (fun backend => backend.id == id) = none) ∨
    ∃ backend other, backends.find? (fun backend => backend.id == id) = some backend ∧
      others.find? (fun backend => backend.id == id) = some other ∧
        AnswersAlike calls backend other := by
  induction each with
  | nil => exact Or.inl ⟨rfl, rfl⟩
  | @cons backend other _ _ alike _ inductionHypothesis =>
    rw [List.find?_cons, List.find?_cons, alike.id]
    cases backend.id == id with
    | true => exact Or.inr ⟨backend, other, rfl, rfl, alike⟩
    | false => exact inductionHypothesis

theorem ask_of_alike {α : Type} {id : String} {query : Query α}
    (each : List.Forall₂ (AnswersAlike (service.ask id query).calls)
      service.registry.backends twin.registry.backends) :
    twin.ask id query = service.ask id query := by
  rcases find?_of_alike each id with
    ⟨absent, absentThere⟩ | ⟨backend, other, found, foundThere, alike⟩
  · rw [ask, ask, Registry.get?, Registry.get?, absent, absentThere]
  · have asked : service.ask id query = put backend query := by
      rw [ask, Registry.get?, found]
    rw [asked] at alike ⊢
    rw [ask, Registry.get?, foundThere]
    exact alike.put (List.mem_singleton_self _)

theorem info?_of_alike {id : String}
    (each : List.Forall₂ (AnswersAlike (service.perform (.info id)).calls)
      service.registry.backends twin.registry.backends) :
    twin.info? id = service.info? id := by
  rcases find?_of_alike each id with
    ⟨absent, absentThere⟩ | ⟨backend, other, found, foundThere, alike⟩
  · rw [info?, info?, Registry.get?, Registry.get?, absent, absentThere]
  · have asked : service.info? id = some (put backend .info) := by
      rw [info?, Registry.get?, found]
      rfl
    rw [perform, asked] at alike
    rw [asked, info?, Registry.get?, foundThere]
    exact congrArg some (alike.put (List.mem_singleton_self _))

/-- The listing that is made of what is heard under each identifier. -/
def Listing.ofHearings (hearings : List (String × Hearing)) : Listing :=
  let providers := Registry.sortBy Provider.id <| hearings.filterMap fun heard =>
    heard.2.outcome.toOption.map (rename heard.1)
  { providers
    ticks := (hearings.map fun heard => heard.2.ticks).foldl max 0
    calls := hearings.flatMap fun heard => heard.2.calls
    events := hearings.flatMap (fun heard => heard.2.events)
      ++ hearings.flatMap (fun heard => hearingEvents heard.1 heard.2.outcome)
      ++ [listedEvent providers.length hearings.length] }

theorem list_eq_ofHearings (service : Service) :
    service.list = .ofHearings
      (service.registry.backends.map fun backend => (backend.id, service.hear backend)) := by
  unfold list Listing.ofHearings entries
  simp only [List.filterMap_map, List.map_map, List.flatMap_map, List.length_map]
  rfl

theorem list_of_alike (sameDeadline : twin.deadline = service.deadline)
    (each : List.Forall₂ (AnswersAlike service.list.calls)
      service.registry.backends twin.registry.backends) :
    twin.list = service.list := by
  have made : ∀ backend ∈ service.registry.backends, ⟨backend.id, .info⟩ ∈ service.list.calls := by
    intro backend member
    rw [calls_list]
    exact List.mem_map_of_mem (List.mem_map_of_mem member)
  rw [list_eq_ofHearings twin, list_eq_ofHearings service]
  refine congrArg Listing.ofHearings (map_of_alike each ?_)
  intro backend member other alike
  rw [alike.id, hear_of_alike sameDeadline alike (made backend member)]

/-- A step rests on the answers to its calls and on no other answer of any backend. -/
theorem perform_of_alike (sameDeadline : twin.deadline = service.deadline) {step : Step}
    (each : List.Forall₂ (AnswersAlike (service.perform step).calls)
      service.registry.backends twin.registry.backends) :
    twin.perform step = service.perform step := by
  cases step with
  | list => exact congrArg Result.listed (list_of_alike sameDeadline each)
  | rates provider request => exact congrArg Result.rates (ask_of_alike each)
  | accounts provider request => exact congrArg Result.accounts (ask_of_alike each)
  | info provider => rw [perform, perform, info?_of_alike each]

end Alike

/-- After any run, the counters of a backend tell how many listings there were and how many
steps named it.  A query under an identifier that is not registered fails with that
identifier and counts nowhere; one to a registered backend is answered as the backend
answers it.  What a listing hears of a backend in time is the backend's own answer to the
one call that it makes there, and no step makes use of an answer without a call. -/
theorem tally_of_run (service : Service) (start : Tally) (steps : List Step) :
    let finish := service.tallyAfter start steps
    (∀ backend ∈ service.registry.backends,
      finish ⟨backend.id, .info⟩ = start ⟨backend.id, .info⟩ + steps.countP Step.lists +
        steps.countP (Step.puts .info backend.id) ∧
      finish ⟨backend.id, .rates⟩ = start ⟨backend.id, .rates⟩ +
        steps.countP (Step.puts .rates backend.id) ∧
      finish ⟨backend.id, .accounts⟩ = start ⟨backend.id, .accounts⟩ +
        steps.countP (Step.puts .accounts backend.id)) ∧
    (∀ id, service.registry.contains id = false →
      (∀ question, finish ⟨id, question⟩ = start ⟨id, question⟩) ∧
      (∀ request tally,
        (∃ events, (service.rates id request).reply =
          .atOnce (.error (.unknownProvider id)) events) ∧
        service.advance tally (.rates id request) = tally) ∧
      (∀ request tally,
        (∃ events, (service.accounts id request).reply =
          .atOnce (.error (.unknownProvider id)) events) ∧
        service.advance tally (.accounts id request) = tally)) ∧
    (∀ backend ∈ service.registry.backends,
      (∀ request, (service.rates backend.id request).reply = backend.rates request.assets) ∧
      (∀ request, (service.accounts backend.id request).reply = backend.accounts request) ∧
      (service.info? backend.id).map Asked.reply = some backend.info ∧
      (∀ ticks outcome events, backend.info = .after ticks outcome events →
        ticks ≤ service.deadline.ticks →
          service.hear backend = ⟨ticks, outcome, events, [⟨backend.id, .info⟩]⟩) ∧
      (service.hear backend).calls = [⟨backend.id, .info⟩]) ∧
    (∀ (twin : Service) (step : Step), twin.deadline = service.deadline →
      List.Forall₂ (AnswersAlike (service.perform step).calls)
        service.registry.backends twin.registry.backends →
          twin.perform step = service.perform step) := by
  intro finish
  refine ⟨?_, ?_, ?_, fun _ _ sameDeadline => perform_of_alike sameDeadline⟩
  · intro backend member
    have registered : service.registry.contains backend.id = true :=
      Registry.contains_iff_mem_ids.mpr (List.mem_map_of_mem member)
    have counted := service.tallyAfter_registered start steps registered
    exact ⟨counted .info, counted .rates, counted .accounts⟩
  · intro id unknown
    refine ⟨service.tallyAfter_unregistered start steps unknown, ?_, ?_⟩
    · intro request tally
      refine ⟨⟨[unknownEvent id], ?_⟩, service.advance_unknown tally rfl unknown⟩
      rw [rates, ask_unregistered unknown]
    · intro request tally
      refine ⟨⟨[unknownEvent id], ?_⟩, service.advance_unknown tally rfl unknown⟩
      rw [accounts, ask_unregistered unknown]
  · intro backend member
    refine ⟨?_, ?_, ?_, ?_, service.calls_hear backend⟩
    · intro request
      rw [rates, ask_registered member]
      rfl
    · intro request
      rw [accounts, ask_registered member]
      rfl
    · rw [info?, Registry.get?_eq_some_iff.mpr ⟨member, rfl⟩]
      rfl
    · intro ticks outcome events answer inTime
      exact hear_in_time answer inTime

/-- A backend that describes itself too late and fails every query. -/
def ailing (id : String) : Backend where
  id := id
  info := .after 50 (.error (.unavailable id "HTTP 503")) []
  rates _ := .after 3 (.error (.invalidAsset id "XYZ")) []
  accounts _ := .never

/-- Two listings, a description, two queries to the ailing backend and one to nobody: the
listings are counted although the backend is late for them, and so are the queries. -/
theorem tally_of_ailing :
    let service : Service := ⟨⟨[ailing "aave", ailing "pool"], by decide⟩, .ofMillis 40⟩
    let steps : List Step := [.list, .rates "pool" ⟨["XYZ"]⟩, .rates "Pool" ⟨[]⟩, .info "pool",
      .accounts "pool" ⟨[""], []⟩, .list]
    let finish := service.tallyAfter (fun _ => 0) steps
    ailing "pool" ∈ service.registry.backends ∧ service.registry.contains "Pool" = false ∧
      (finish ⟨"pool", .info⟩ = 3 ∧ finish ⟨"pool", .rates⟩ = 1 ∧ finish ⟨"pool", .accounts⟩ = 1) ∧
      finish ⟨"Pool", .rates⟩ = 0 ∧
      (service.rates "pool" ⟨["XYZ"]⟩).reply =
        .after 3 (.error (.invalidAsset "pool" "XYZ")) [] := by
  intro service steps finish
  have member : ailing "pool" ∈ service.registry.backends :=
    List.mem_cons_of_mem _ List.mem_cons_self
  have unknown : service.registry.contains "Pool" = false := by decide
  rcases tally_of_run service (fun _ => 0) steps with ⟨counted, uncounted, replied, _⟩
  rcases counted _ member with ⟨info, rates, accounts⟩
  exact ⟨member, unknown, ⟨info, rates, accounts⟩, (uncounted _ unknown).1 .rates,
    (replied _ member).1 ⟨["XYZ"]⟩⟩

end Service
end LendingGateway
