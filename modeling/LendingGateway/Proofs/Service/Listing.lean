import LendingGateway.Proofs.Registry.Lookup
import LendingGateway.Proofs.Registry.Sorting
import LendingGateway.Proofs.Service.Hearing
import LendingGateway.Proofs.Text.Octets

namespace LendingGateway
namespace Service

open Lending Backend

/-!
# What a listing holds

Whether a backend is listed, and as what, is a matter between the backend and the
deadline.  A listing puts these entries in order, and since the identifiers of a registry
are distinct there is one such order.  The backends can therefore be asked in any order,
and none of them has a say in the entry of another.
-/

/-- The entry of a backend in a listing: its description of itself under the identifier it
is registered by, if it gives one by the tick at which the deadline takes effect. -/
def listed? (service : Service) (backend : Backend) : Option Provider :=
  match backend.info with
  | .after ticks (.ok provider) _ =>
    if ticks ≤ service.deadline.ticks then some { provider with id := backend.id } else none
  | .after _ (.error _) _ => none
  | .never => none

theorem listed?_of_overdue {service : Service} {backend : Backend}
    (overdue : service.Overdue backend.info) : service.listed? backend = none := by
  unfold listed?
  split
  · next ticks provider events answer =>
    exact if_neg (Nat.not_le.mpr (overdue _ _ _ answer))
  · rfl
  · rfl

theorem listed?_eq_hear (service : Service) (backend : Backend) :
    service.listed? backend =
      (service.hear backend).outcome.toOption.map (rename backend.id) := by
  rcases service.hear_cases backend with
    ⟨ticks, outcome, events, answer, inTime, heard⟩ | ⟨overdue, heard⟩
  · rw [heard, listed?, answer]
    cases outcome with
    | ok provider => exact if_pos inTime
    | error error => rfl
  · rw [heard, listed?_of_overdue overdue]
    rfl

theorem entries_eq_filterMap (service : Service) :
    service.entries = service.registry.backends.filterMap service.listed? := by
  unfold entries
  rw [show service.listed? = fun backend =>
    (service.hear backend).outcome.toOption.map (rename backend.id) from
      funext (listed?_eq_hear service)]

theorem id_of_listed? {service : Service} {backend : Backend} {provider : Provider}
    (listed : service.listed? backend = some provider) : provider.id = backend.id := by
  rw [listed?_eq_hear, Option.map_eq_some_iff] at listed
  rcases listed with ⟨described, _, renamed⟩
  rw [← renamed]
  rfl

/-- What some items give under their own keys has these keys, each at most once. -/
theorem keys_filterMap_sublist {α β : Type} {key : α → String} {keyOf : β → String}
    {give? : α → Option β}
    (kept : ∀ {item : α} {given : β}, give? item = some given → keyOf given = key item)
    (items : List α) : ((items.filterMap give?).map keyOf).Sublist (items.map key) := by
  induction items with
  | nil => exact List.Sublist.slnil
  | cons item items inductionHypothesis =>
    cases gives : give? item with
    | none =>
      rw [List.filterMap_cons_none gives, List.map_cons]
      exact inductionHypothesis.cons (key item)
    | some given =>
      rw [List.filterMap_cons_some gives, List.map_cons, List.map_cons, kept gives]
      exact inductionHypothesis.cons_cons (key item)

/-- Entries are listed under identifiers of the registry, each at most once. -/
theorem ids_entries_sublist (service : Service) (backends : List Backend) :
    ((backends.filterMap service.listed?).map Provider.id).Sublist (backends.map Backend.id) :=
  keys_filterMap_sublist id_of_listed? backends

private theorem filter_entries_eq_nil (service : Service) {backends : List Backend} {id : String}
    (unknown : id ∉ backends.map Backend.id) :
    (backends.filterMap service.listed?).filter (fun provider => provider.id == id) = [] := by
  apply List.filter_eq_nil_iff.mpr
  intro provider listed same
  apply unknown
  rw [← beq_iff_eq.mp same]
  exact (ids_entries_sublist service backends).subset (List.mem_map_of_mem listed)

/-- The entries under the identifier of a backend are the entry of that backend: there is
one if it answers in time, and no other backend contributes any. -/
theorem filter_entries_eq_listed? (service : Service) {backends : List Backend}
    (distinct : (backends.map Backend.id).Nodup) {backend : Backend}
    (member : backend ∈ backends) :
    (backends.filterMap service.listed?).filter (fun provider => provider.id == backend.id) =
      (service.listed? backend).toList := by
  induction backends with
  | nil => cases member
  | cons head rest inductionHypothesis =>
    rw [List.map_cons, List.nodup_cons] at distinct
    rcases List.mem_cons.mp member with same | later
    · subst same
      have others := filter_entries_eq_nil service distinct.1
      cases listed : service.listed? backend with
      | none =>
        rw [List.filterMap_cons_none listed, others]
        rfl
      | some provider =>
        have own : (provider.id == backend.id) = true := beq_iff_eq.mpr (id_of_listed? listed)
        rw [List.filterMap_cons_some listed, List.filter_cons, if_pos own, others]
        rfl
    · have different : head.id ≠ backend.id := fun equal =>
        distinct.1 (equal ▸ List.mem_map_of_mem later)
      cases listed : service.listed? head with
      | none =>
        rw [List.filterMap_cons_none listed]
        exact inductionHypothesis distinct.2 later
      | some provider =>
        have foreign : ¬ (provider.id == backend.id) = true := by
          rw [beq_iff_eq, id_of_listed? listed]
          exact different
        rw [List.filterMap_cons_some listed, List.filter_cons, if_neg foreign]
        exact inductionHypothesis distinct.2 later

/-! ## The listing as a whole -/

theorem distinct_entries (service : Service) :
    ((service.registry.backends.filterMap service.listed?).map Provider.id).Nodup :=
  (ids_entries_sublist service service.registry.backends).nodup service.registry.distinct

theorem list_providers_eq (service : Service) :
    service.list.providers =
      Registry.sortBy Provider.id (service.registry.backends.filterMap service.listed?) := by
  rw [← entries_eq_filterMap]
  rfl

/-- The entries of a listing under the identifier of a registered backend are the entry of
that backend, whatever the others do. -/
theorem filter_list_providers (service : Service) {backend : Backend}
    (member : backend ∈ service.registry.backends) :
    service.list.providers.filter (fun provider => provider.id == backend.id) =
      (service.listed? backend).toList := by
  have sorted := Registry.sortBy_perm Provider.id
    (service.registry.backends.filterMap service.listed?)
  have kept := sorted.filter (fun provider => provider.id == backend.id)
  rw [filter_entries_eq_listed? service service.registry.distinct member] at kept
  rw [list_providers_eq]
  cases listed : service.listed? backend with
  | none =>
    rw [listed] at kept
    exact List.perm_nil.mp kept
  | some provider =>
    rw [listed] at kept
    exact List.perm_singleton.mp kept

/-- A listing holds exactly the entries of the backends that describe themselves in time,
by ascending identifier, in whichever order the backends are asked.  The identifiers
ascend strictly as octets and are those of registered backends, every backend has its own
entry once or not at all, and the entry is the same beside any other backends.  In time is
what comes by the first whole millisecond that is not before the deadline: the clock knows
no others, so the deadline counts rounded up to it. -/
theorem list_providers_exact (service : Service) (order : List Backend)
    (reordered : order.Perm service.registry.backends) :
    service.list.providers = Registry.sortBy Provider.id (order.filterMap service.listed?) ∧
    service.list.providers.Pairwise (fun before after =>
      Text.octets before.id < Text.octets after.id) ∧
    (∀ provider ∈ service.list.providers, service.registry.contains provider.id = true) ∧
    (∀ backend ∈ service.registry.backends,
      service.list.providers.filter (fun provider => provider.id == backend.id) =
        (service.listed? backend).toList) ∧
    (∀ other : Service, other.deadline = service.deadline →
      ∀ backend ∈ service.registry.backends, backend ∈ other.registry.backends →
        other.list.providers.filter (fun provider => provider.id == backend.id) =
          service.list.providers.filter (fun provider => provider.id == backend.id)) ∧
    (∀ tick, service.deadline.ticks ≤ tick ↔ service.deadline.micros ≤ tick * 1000) := by
  refine ⟨?_, ?_, ?_, fun backend member => filter_list_providers service member, ?_,
    service.deadline.ticks_le_iff⟩
  · rw [list_providers_eq]
    exact Registry.sortBy_eq_of_perm (distinct_entries service)
      (reordered.symm.filterMap service.listed?)
  · rw [list_providers_eq]
    exact (Registry.sortBy_strictly_ascending (distinct_entries service)).imp
      Text.octets_lt_octets_iff.mpr
  · intro provider listed
    rw [list_providers_eq, Registry.mem_sortBy] at listed
    exact Registry.contains_iff_mem_ids.mpr
      ((ids_entries_sublist service _).subset (List.mem_map_of_mem listed))
  · intro other sameDeadline backend member elsewhere
    have sameEntry : other.listed? backend = service.listed? backend := by
      unfold listed?
      rw [sameDeadline]
    rw [filter_list_providers service member, filter_list_providers other elsewhere, sameEntry]

/-- A backend that takes some time and then describes itself under another identifier. -/
def misnamed (id : String) (ticks : Nat) : Backend where
  id := id
  info := .after ticks (.ok ⟨"elsewhere", ⟨"elsewhere", "", "", ""⟩, .staking, []⟩) []
  rates _ := .never
  accounts _ := .never

/-- Of two backends asked in the reverse order, one answers at the very deadline and is
listed under its own identifier, and the other answers a tick later and is left out. -/
theorem list_providers_at_deadline :
    let service : Service :=
      ⟨⟨[misnamed "tezos" 40, misnamed "aave" 41], by decide⟩, .ofMillis 40⟩
    [misnamed "aave" 41, misnamed "tezos" 40].Perm service.registry.backends ∧
      service.list.providers.map Provider.id = ["tezos"] := by
  intro service
  have reordered : [misnamed "aave" 41, misnamed "tezos" 40].Perm service.registry.backends :=
    List.Perm.swap _ _ _
  refine ⟨reordered, ?_⟩
  rw [(list_providers_exact service _ reordered).1]
  have entries : [misnamed "aave" 41, misnamed "tezos" 40].filterMap service.listed? =
      [⟨"tezos", ⟨"elsewhere", "", "", ""⟩, .staking, []⟩] := by
    simp [service, listed?, misnamed]
  rw [entries, Registry.sortBy, List.mergeSort_singleton]
  rfl

/-- The entry that a backend would have if the deadline took effect when it has come, and not
only at the next tick. -/
def punctual? (service : Service) (backend : Backend) : Option Provider :=
  match backend.info with
  | .after ticks (.ok provider) _ =>
    if ticks * 1000 ≤ service.deadline.micros then some { provider with id := backend.id }
    else none
  | .after _ (.error _) _ => none
  | .never => none

/-- With a deadline between two ticks, a backend is listed that describes itself after the
deadline, at the second of them. -/
theorem list_providers_past_deadline :
    ¬ ∀ service : Service, service.list.providers =
      Registry.sortBy Provider.id (service.registry.backends.filterMap service.punctual?) := by
  intro exact
  let service : Service :=
    ⟨⟨[misnamed "tezos" 5], by decide⟩, (Timeout.ofMillis 6).fourFifths⟩
  have nobody : service.registry.backends.filterMap service.punctual? = [] := by
    simp [service, punctual?, misnamed, Timeout.fourFifths, Timeout.ofMillis]
  have empty : service.list.providers = [] := by
    rw [exact service, nobody]
    exact List.mergeSort_nil
  have listed : service.listed? (misnamed "tezos" 5) =
      some ⟨"tezos", ⟨"elsewhere", "", "", ""⟩, .staking, []⟩ := by
    simp [service, listed?, misnamed, Timeout.ticks, Timeout.fourFifths, Timeout.ofMillis]
  have own := filter_list_providers service (List.mem_singleton_self (misnamed "tezos" 5))
  rw [empty, listed] at own
  cases own

end Service
end LendingGateway
