import LendingGateway.Proofs.Registry.Lookup
import LendingGateway.Proofs.Registry.Sorting
import LendingGateway.Proofs.Text.Octets

namespace LendingGateway
namespace Registry

/-!
# Registering backends one by one

The registry of some backends is what is left when they are registered one after another,
beginning with the empty registry: a backend whose identifier is new is added, and the
first one whose identifier is taken ends the registration.  What has been registered is
one finite map from identifiers to backends, and every question about it is answered from
that map.
-/

/-- Register one more backend. -/
def register (registry : Registry) (backend : Backend) : Except AssemblyError Registry :=
  if fresh : backend.id ∉ registry.backends.map Backend.id then
    .ok ⟨registry.backends ++ [backend], by
      rw [List.map_append]
      exact List.nodup_append.mpr ⟨registry.distinct, List.pairwise_singleton _ _,
        fun _ old _ new same => fresh (List.mem_singleton.mp new ▸ same ▸ old)⟩⟩
  else
    .error (.duplicateProvider backend.id)

theorem register_of_fresh {registry : Registry} {backend : Backend}
    (fresh : backend.id ∉ registry.backends.map Backend.id) :
    ∃ larger, registry.register backend = .ok larger ∧
      larger.backends = registry.backends ++ [backend] := by
  rw [register, dif_pos fresh]
  exact ⟨_, rfl, rfl⟩

theorem register_of_taken {registry : Registry} {backend : Backend}
    (taken : backend.id ∈ registry.backends.map Backend.id) :
    registry.register backend = .error (.duplicateProvider backend.id) := by
  rw [register, dif_neg (not_not_intro taken)]

/-- The first of some backends whose identifier occurs earlier, among the identifiers that
are taken or before it in the list. -/
structure FirstTaken (taken : List String) (backends before : List Backend)
    (backend : Backend) (after : List Backend) : Prop where
  split : backends = before ++ backend :: after
  distinct : (taken ++ before.map Backend.id).Nodup
  again : backend.id ∈ taken ++ before.map Backend.id

/-- One registered backend moves from the list to the identifiers that are taken. -/
theorem FirstTaken.cons {taken : List String} {head : Backend} {rest before : List Backend}
    {backend : Backend} {after : List Backend}
    (found : FirstTaken (taken ++ [head.id]) rest before backend after) :
    FirstTaken taken (head :: rest) (head :: before) backend after where
  split := by rw [found.split, List.cons_append]
  distinct := by
    rw [List.map_cons, ← List.singleton_append, ← List.append_assoc]
    exact found.distinct
  again := by
    rw [List.map_cons, ← List.singleton_append, ← List.append_assoc]
    exact found.again

/-- Registration ends with all backends, or at the first whose identifier is taken. -/
theorem register_all (backends : List Backend) (registry : Registry) :
    (∃ full, backends.foldlM register registry = .ok full ∧
      full.backends = registry.backends ++ backends) ∨
    ∃ before backend after,
      FirstTaken (registry.backends.map Backend.id) backends before backend after ∧
      backends.foldlM register registry = .error (.duplicateProvider backend.id) := by
  induction backends generalizing registry with
  | nil => exact Or.inl ⟨registry, rfl, (List.append_nil _).symm⟩
  | cons head rest inductionHypothesis =>
    rw [List.foldlM_cons]
    by_cases taken : head.id ∈ registry.backends.map Backend.id
    · rw [register_of_taken taken]
      refine Or.inr ⟨[], head, rest, ⟨rfl, ?_, ?_⟩, rfl⟩
      · rw [List.map_nil, List.append_nil]
        exact registry.distinct
      · rw [List.map_nil, List.append_nil]
        exact taken
    · rcases register_of_fresh taken with ⟨larger, registered, grown⟩
      rw [registered]
      rcases inductionHypothesis larger with
        ⟨full, done, all⟩ | ⟨before, backend, after, found, failed⟩
      · refine Or.inl ⟨full, done, ?_⟩
        rw [all, grown, List.append_assoc, List.singleton_append]
      · rw [grown, List.map_append, List.map_singleton] at found
        exact Or.inr ⟨head :: before, backend, after, found.cons, failed⟩

/-- A first repetition is what the registration of all backends is refused for. -/
theorem FirstTaken.refused {backends before : List Backend} {backend : Backend}
    {after : List Backend} (found : FirstTaken [] backends before backend after) :
    ofBackends backends = .error (.duplicateProvider backend.id) := by
  apply ofBackends_eq_error_iff.mpr
  refine ⟨backend.id, ?_, rfl⟩
  rw [found.split, List.map_append, List.map_cons]
  exact firstRepeated?_append_cons found.distinct (fun _ _ => List.not_mem_nil)
    (Or.inr found.again)

theorem ofBackends_eq_foldlM (backends : List Backend) :
    ofBackends backends = backends.foldlM register empty := by
  rcases register_all backends empty with
    ⟨full, done, all⟩ | ⟨before, backend, after, found, failed⟩
  · rw [done]
    exact ofBackends_eq_ok_iff.mpr all
  · rw [failed]
    exact found.refused

/-! ## One finite map -/

/-- The registry is the map from identifiers to some backends with distinct identifiers,
whichever way it is asked. -/
structure Presents (registry : Registry) (backends : List Backend) : Prop where
  found : ∀ id backend, registry.get? id = some backend ↔ backend ∈ backends ∧ backend.id = id
  alone : ∀ id, backends.filter (fun backend => backend.id == id) = (registry.get? id).toList
  held : ∀ id, registry.contains id = true ↔ ∃ backend, registry.get? id = some backend
  entries : registry.entries.Perm (backends.map fun backend => (backend.id, backend))
  keyed : (registry.entries.map Prod.fst).Nodup
  size : registry.size = backends.length
  isEmpty : registry.isEmpty = true ↔ backends = []
  ascending : registry.ids.Pairwise fun before after => Text.octets before < Text.octets after
  listed : ∀ id, id ∈ registry.ids ↔ ∃ backend ∈ backends, backend.id = id

/-- No backend shares its identifier with another one of the registry. -/
theorem filter_backends_eq_get? (registry : Registry) (id : String) :
    registry.backends.filter (fun backend => backend.id == id) = (registry.get? id).toList := by
  cases found : registry.get? id with
  | none =>
    apply List.filter_eq_nil_iff.mpr
    exact List.find?_eq_none.mp found
  | some backend =>
    rcases List.find?_eq_some_iff_append.mp found with ⟨same, before, after, split, others⟩
    have distinct := registry.distinct
    rw [split, List.map_append, List.map_cons, List.nodup_append, List.nodup_cons] at distinct
    have earlier : before.filter (fun backend => backend.id == id) = [] := by
      apply List.filter_eq_nil_iff.mpr
      intro other member
      exact (Bool.not_eq_true _).mpr ((Bool.not_eq_true' _).mp (others other member))
    have later : after.filter (fun backend => backend.id == id) = [] := by
      apply List.filter_eq_nil_iff.mpr
      intro other member equal
      apply distinct.2.1.1
      rw [beq_iff_eq.mp same, ← beq_iff_eq.mp equal]
      exact List.mem_map_of_mem member
    rw [split, List.filter_append, earlier, List.filter_cons, if_pos same, later]
    rfl

theorem map_fst_entries (registry : Registry) :
    registry.entries.map Prod.fst = registry.backends.map Backend.id := by
  rw [entries, List.map_map]
  rfl

theorem presents_backends (registry : Registry) : registry.Presents registry.backends where
  found _ _ := get?_eq_some_iff
  alone := filter_backends_eq_get? registry
  held _ := Option.isSome_iff_exists
  entries := List.Perm.refl _
  keyed := by
    rw [map_fst_entries]
    exact registry.distinct
  size := rfl
  isEmpty := List.isEmpty_iff
  ascending := by
    have distinct : ((registry.backends.map Backend.id).map id).Nodup := by
      rw [List.map_id]
      exact registry.distinct
    exact (sortBy_strictly_ascending distinct).imp Text.octets_lt_octets_iff.mpr
  listed id := mem_sortBy.trans List.mem_map

/-- Backends are registered if and only if their identifiers are distinct.  The registry
then is the map from their identifiers to them.  Otherwise the registration is refused for
the first backend whose identifier occurs before it. -/
theorem ofBackends_exact (backends : List Backend) :
    ((∃ registry, ofBackends backends = .ok registry) ↔ (backends.map Backend.id).Nodup) ∧
    (∀ registry, ofBackends backends = .ok registry → registry.Presents backends) ∧
    ∀ error, ofBackends backends = .error error ↔
      ∃ before backend after, backends = before ++ backend :: after ∧
        (before.map Backend.id).Nodup ∧ backend.id ∈ before.map Backend.id ∧
        error = .duplicateProvider backend.id := by
  refine ⟨⟨?_, ?_⟩, ?_, ?_⟩
  · rintro ⟨registry, done⟩
    rw [← ofBackends_eq_ok_iff.mp done]
    exact registry.distinct
  · exact fun distinct => ⟨⟨backends, distinct⟩, ofBackends_eq_ok_iff.mpr rfl⟩
  · intro registry done
    have held := presents_backends registry
    rw [ofBackends_eq_ok_iff.mp done] at held
    exact held
  · intro error
    constructor
    · intro failed
      rw [ofBackends_eq_foldlM] at failed
      rcases register_all backends empty with
        ⟨full, done, _⟩ | ⟨before, backend, after, found, refused⟩
      · rw [done] at failed
        cases failed
      · rw [refused] at failed
        cases failed
        exact ⟨before, backend, after, found.split, found.distinct, found.again, rfl⟩
    · rintro ⟨before, backend, after, split, distinct, again, rfl⟩
      exact FirstTaken.refused ⟨split, distinct, again⟩

/-- Of two backends in the reverse order of their identifiers each is found under its own,
and a third one that takes the identifier of the first is refused. -/
theorem ofBackends_two_then_again :
    let backends : List Backend := [.mute "tezos", .mute "aave"]
    (∃ registry, ofBackends backends = .ok registry ∧ registry.Presents backends) ∧
      ofBackends (backends ++ [.mute "tezos"]) = .error (.duplicateProvider "tezos") := by
  intro backends
  rcases (ofBackends_exact backends).1.mpr (by decide) with ⟨registry, done⟩
  refine ⟨⟨registry, done, (ofBackends_exact backends).2.1 registry done⟩, ?_⟩
  exact ((ofBackends_exact _).2.2 _).mpr
    ⟨backends, .mute "tezos", [], rfl, by decide, by decide, rfl⟩

end Registry
end LendingGateway
