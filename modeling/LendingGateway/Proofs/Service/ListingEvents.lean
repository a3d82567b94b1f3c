import Mathlib.Data.List.Nodup
import Mathlib.Data.List.Perm.Basic
import LendingGateway.Proofs.Service.Listing

namespace LendingGateway
namespace Service

open Lending Backend

/-!
# What a listing tells of itself

A listing never fails, so a backend that it leaves out shows in its events alone.  The
events that are the listing's own say of every backend what became of it: there is one
for each backend left out, one for each entry that describes itself under another
identifier, and a last one with both counts.
-/

/-- A listing leaves a backend out for its own error, if it fails in time, and for the missing
answer otherwise.  In time is what comes by the tick at which the deadline takes effect. -/
inductive LeavesOut (service : Service) (backend : Backend) : QueryError → Prop
  | failed {ticks : Nat} {error : QueryError} {events : List Log.Event}
      (answer : backend.info = .after ticks (.error error) events)
      (inTime : ticks ≤ service.deadline.ticks) : LeavesOut service backend error
  | late {ticks : Nat} {outcome : Except QueryError Provider} {events : List Log.Event}
      (answer : backend.info = .after ticks outcome events)
      (overdue : service.deadline.ticks < ticks) :
      LeavesOut service backend (.unavailable backend.id
        ("no answer within " ++ toString service.deadline.millis ++ " ms"))
  | silent (answer : backend.info = .never) :
      LeavesOut service backend (.unavailable backend.id
        ("no answer within " ++ toString service.deadline.millis ++ " ms"))

/-- A backend describes itself in time: by the tick at which the deadline takes effect, which
is the first whole millisecond that is not before the deadline. -/
def Describes (service : Service) (backend : Backend) (provider : Provider) : Prop :=
  ∃ ticks events, backend.info = .after ticks (.ok provider) events ∧
    ticks ≤ service.deadline.ticks

/-- The event of a backend that is left out. -/
def skipWarning (skipped : String × QueryError) : Log.Event :=
  ⟨.warn, "lendgate_lending::service",
    "Skipping provider '" ++ skipped.1 ++ "' in listing: " ++ skipped.2.message⟩

/-- The event of an entry whose backend describes itself under another identifier. -/
def disguiseWarning (disguised : String × String) : Log.Event :=
  ⟨.warn, "lendgate_lending::service",
    "Provider registered as '" ++ disguised.1 ++ "' describes itself as '" ++ disguised.2
      ++ "', listing it as '" ++ disguised.1 ++ "'"⟩

/-! ## One backend -/

/-- A backend that is left out, with the reason. -/
def skipped? (service : Service) (backend : Backend) : Option (String × QueryError) :=
  match (service.hear backend).outcome with
  | .ok _ => none
  | .error error => some (backend.id, error)

/-- A backend that describes itself under another identifier, with both identifiers. -/
def disguised? (service : Service) (backend : Backend) : Option (String × String) :=
  match (service.hear backend).outcome with
  | .ok provider => if provider.id = backend.id then none else some (backend.id, provider.id)
  | .error _ => none

theorem LeavesOut.of_overdue {service : Service} {backend : Backend}
    (overdue : service.Overdue backend.info) :
    LeavesOut service backend (service.lateError backend.id) := by
  cases answer : backend.info with
  | never => exact LeavesOut.silent answer
  | after ticks outcome events => exact LeavesOut.late answer (overdue _ _ _ answer)

theorem hear_error_iff {service : Service} {backend : Backend} {error : QueryError} :
    (service.hear backend).outcome = .error error ↔ LeavesOut service backend error := by
  constructor
  · intro failed
    rcases service.hear_cases backend with
      ⟨ticks, outcome, events, answer, inTime, heard⟩ | ⟨overdue, heard⟩
    · rw [heard] at failed
      subst failed
      exact LeavesOut.failed answer inTime
    · rw [heard] at failed
      cases failed
      exact LeavesOut.of_overdue overdue
  · intro left
    cases left with
    | failed answer inTime => rw [hear_in_time answer inTime]
    | late answer overdue =>
      rw [hear_overdue (answer ▸ service.overdue_after overdue), lateError]
    | silent answer => rw [hear_overdue (answer ▸ service.overdue_never), lateError]

theorem hear_ok_iff {service : Service} {backend : Backend} {provider : Provider} :
    (service.hear backend).outcome = .ok provider ↔ Describes service backend provider := by
  constructor
  · intro described
    rcases service.hear_cases backend with
      ⟨ticks, outcome, events, answer, inTime, heard⟩ | ⟨_, heard⟩
    · rw [heard] at described
      subst described
      exact ⟨ticks, events, answer, inTime⟩
    · rw [heard] at described
      cases described
  · rintro ⟨ticks, events, answer, inTime⟩
    rw [hear_in_time answer inTime]

theorem skipped?_eq_some_iff {service : Service} {backend : Backend} {id : String}
    {error : QueryError} :
    service.skipped? backend = some (id, error) ↔
      backend.id = id ∧ LeavesOut service backend error := by
  rw [← hear_error_iff, skipped?]
  cases (service.hear backend).outcome with
  | ok provider => simp only [reduceCtorEq, and_false]
  | error own => simp only [Option.some.injEq, Prod.mk.injEq, Except.error.injEq]

theorem disguised?_eq_some_iff {service : Service} {backend : Backend} {id other : String} :
    service.disguised? backend = some (id, other) ↔
      backend.id = id ∧ other ≠ id ∧
        ∃ provider, provider.id = other ∧ Describes service backend provider := by
  simp only [← hear_ok_iff, disguised?]
  cases (service.hear backend).outcome with
  | error own => simp only [reduceCtorEq, and_false, exists_false]
  | ok provider =>
    simp only [Except.ok.injEq, exists_eq_right']
    constructor
    · intro found
      split at found
      · cases found
      · next different =>
        cases found
        exact ⟨rfl, different, rfl⟩
    · rintro ⟨rfl, different, rfl⟩
      rw [if_neg different]

/-- The events of one backend's part say what became of it and nothing else. -/
theorem hearingEvents_eq (service : Service) (backend : Backend) :
    hearingEvents backend.id (service.hear backend).outcome =
      (service.skipped? backend).toList.map skipWarning ++
        (service.disguised? backend).toList.map disguiseWarning := by
  unfold skipped? disguised?
  cases (service.hear backend).outcome with
  | error error => rfl
  | ok provider =>
    by_cases own : provider.id = backend.id
    · simp only [hearingEvents, own, if_true, Option.toList_none, List.map_nil, List.nil_append]
    · simp only [hearingEvents, own, if_false, Option.toList_none, Option.toList_some,
        List.map_nil, List.nil_append, List.map_cons]
      rfl

/-! ## All backends -/

/-- The backends that are left out, with the reasons. -/
def skipped (service : Service) : List (String × QueryError) :=
  service.registry.backends.filterMap service.skipped?

/-- The entries whose backends describe themselves under other identifiers. -/
def disguised (service : Service) : List (String × String) :=
  service.registry.backends.filterMap service.disguised?

/-- The events of the backends' parts in a listing. -/
def warnings (service : Service) : List Log.Event :=
  service.registry.backends.flatMap fun backend =>
    hearingEvents backend.id (service.hear backend).outcome

private theorem map_filterMap_eq_flatMap {α β γ : Type} (f : α → Option β) (g : β → γ)
    (items : List α) :
    (items.filterMap f).map g = items.flatMap fun item => (f item).toList.map g := by
  rw [List.filterMap_eq_flatMap_toList, List.map_flatMap]

theorem warnings_perm (service : Service) :
    service.warnings.Perm
      (service.skipped.map skipWarning ++ service.disguised.map disguiseWarning) := by
  unfold warnings skipped disguised
  simp only [hearingEvents_eq, map_filterMap_eq_flatMap]
  exact (List.flatMap_append_perm _ _ _).symm

/-- A backend is either listed or left out. -/
theorem listed?_or_skipped? (service : Service) (backend : Backend) :
    (∃ provider, service.listed? backend = some provider ∧ service.skipped? backend = none) ∨
      (service.listed? backend = none ∧
        ∃ error, service.skipped? backend = some (backend.id, error)) := by
  rw [listed?_eq_hear, skipped?]
  cases (service.hear backend).outcome with
  | ok provider => exact Or.inl ⟨rename backend.id provider, rfl, rfl⟩
  | error error => exact Or.inr ⟨rfl, error, rfl⟩

theorem ids_listed_skipped_perm (service : Service) (backends : List Backend) :
    ((backends.filterMap service.listed?).map Provider.id ++
      (backends.filterMap service.skipped?).map Prod.fst).Perm (backends.map Backend.id) := by
  induction backends with
  | nil => exact List.Perm.nil
  | cons backend backends inductionHypothesis =>
    rw [List.map_cons]
    rcases service.listed?_or_skipped? backend with
      ⟨provider, listed, kept⟩ | ⟨unlisted, error, left⟩
    · rw [List.filterMap_cons_some listed, List.filterMap_cons_none kept, List.map_cons,
        id_of_listed? listed]
      exact inductionHypothesis.cons backend.id
    · rw [List.filterMap_cons_none unlisted, List.filterMap_cons_some left, List.map_cons]
      exact List.perm_middle.trans (inductionHypothesis.cons backend.id)

theorem ids_disguised_sublist (service : Service) (backends : List Backend) :
    ((backends.filterMap service.disguised?).map Prod.fst).Sublist (backends.map Backend.id) :=
  keys_filterMap_sublist (fun found => (disguised?_eq_some_iff.mp found).1.symm) backends

/-- The events of a listing account for every backend.  They are those of the backends
that answer in time, then one for each backend left out, with its identifier and the
reason, and one for each entry whose backend describes itself under another identifier,
and last the count of the entries and of the backends.  The identifiers listed and those
left out are together those of the registry, and no identifier is both.  The deadline
counts rounded up to the first whole millisecond that is not before it, here as in the
listing itself. -/
theorem list_events_account (service : Service) :
    service.list.events =
      service.registry.backends.flatMap (fun backend => (service.hear backend).events)
        ++ service.warnings
        ++ [⟨.debug, "lendgate_lending::service",
            "Listed " ++ toString service.list.providers.length ++ " of "
              ++ toString service.registry.size ++ " providers"⟩] ∧
    service.warnings.Perm
      (service.skipped.map skipWarning ++ service.disguised.map disguiseWarning) ∧
    (∀ id error, (id, error) ∈ service.skipped ↔
      ∃ backend ∈ service.registry.backends, backend.id = id ∧ LeavesOut service backend error) ∧
    (∀ id other, (id, other) ∈ service.disguised ↔
      ∃ backend ∈ service.registry.backends, backend.id = id ∧ other ≠ id ∧
        ∃ provider, provider.id = other ∧ Describes service backend provider) ∧
    (service.disguised.map Prod.fst).Nodup ∧
    (service.list.providers.map Provider.id ++ service.skipped.map Prod.fst).Perm
      (service.registry.backends.map Backend.id) ∧
    (service.list.providers.map Provider.id).Disjoint (service.skipped.map Prod.fst) := by
  have parts : (service.list.providers.map Provider.id ++ service.skipped.map Prod.fst).Perm
      (service.registry.backends.map Backend.id) := by
    rw [list_providers_eq]
    have sorted := (Registry.sortBy_perm Provider.id
      (service.registry.backends.filterMap service.listed?)).map Provider.id
    exact (sorted.append_right _).trans (service.ids_listed_skipped_perm _)
  have apart := parts.nodup_iff.mpr service.registry.distinct
  refine ⟨rfl, service.warnings_perm, ?_, ?_, ?_, parts, List.disjoint_of_nodup_append apart⟩
  · intro id error
    simp only [skipped, List.mem_filterMap, skipped?_eq_some_iff]
  · intro id other
    simp only [disguised, List.mem_filterMap, disguised?_eq_some_iff]
  · exact (service.ids_disguised_sublist _).nodup service.registry.distinct

/-- A backend whose description of itself fails after some time. -/
def undescribed (id : String) (ticks : Nat) : Backend :=
  { mute id with info := .after ticks (.error (.unavailable id "HTTP 503")) [] }

/-- Of four backends one fails at the very deadline, one is a tick late, one never answers and
one describes itself at the very deadline under another identifier.  There is one event for
each of them, and the last one is listed alone. -/
theorem list_events_account_mixed :
    let service : Service :=
      ⟨⟨[undescribed "aave" 40, misnamed "comp" 41, mute "idle", misnamed "tezos" 40],
        by decide⟩, .ofMillis 40⟩
    service.warnings.Perm
      [skipWarning ("aave", .unavailable "aave" "HTTP 503"),
        skipWarning ("comp", .unavailable "comp" "no answer within 40 ms"),
        skipWarning ("idle", .unavailable "idle" "no answer within 40 ms"),
        disguiseWarning ("tezos", "elsewhere")] ∧
    (service.list.providers.map Provider.id ++ ["aave", "comp", "idle"]).Perm
      ["aave", "comp", "idle", "tezos"] ∧
    service.list.events = service.warnings ++
      [⟨.debug, "lendgate_lending::service", "Listed 1 of 4 providers"⟩] := by
  intro service
  have skipped : service.skipped =
      [("aave", .unavailable "aave" "HTTP 503"),
        ("comp", .unavailable "comp" "no answer within 40 ms"),
        ("idle", .unavailable "idle" "no answer within 40 ms")] := by
    decide
  have disguised : service.disguised = [("tezos", "elsewhere")] := by decide
  rcases list_events_account service with ⟨told, warned, _, _, _, parts, _⟩
  rw [skipped] at warned parts
  rw [disguised] at warned
  refine ⟨warned, parts, ?_⟩
  have one : service.list.providers.length = 1 := by
    have lengths := parts.length_eq
    rw [List.length_append, List.length_map] at lengths
    exact Nat.add_right_cancel lengths
  have untold : service.registry.backends.flatMap
      (fun backend => (service.hear backend).events) = [] := by decide
  have counts : "Listed " ++ toString 1 ++ " of " ++ toString service.registry.size
      ++ " providers" = "Listed 1 of 4 providers" := by decide
  rw [told, one, untold, counts, List.nil_append]

end Service
end LendingGateway
