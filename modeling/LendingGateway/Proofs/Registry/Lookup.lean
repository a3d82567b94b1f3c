import LendingGateway.Registry.Basic

namespace LendingGateway
namespace Registry

/-!
# Looking up a backend

The identifiers of a registry are distinct, so a backend of the registry is found under
its own identifier, and what is found under an identifier has that identifier.
-/

theorem get?_id {registry : Registry} {id : String} {backend : Backend}
    (found : registry.get? id = some backend) : backend.id = id := by
  unfold get? at found
  have same := List.find?_some found
  exact beq_iff_eq.mp same

theorem mem_of_get? {registry : Registry} {id : String} {backend : Backend}
    (found : registry.get? id = some backend) : backend ∈ registry.backends :=
  List.mem_of_find?_eq_some found

private theorem find?_id_of_mem {backends : List Backend}
    (distinct : (backends.map Backend.id).Nodup) {backend : Backend}
    (member : backend ∈ backends) :
    backends.find? (fun other => other.id == backend.id) = some backend := by
  induction backends with
  | nil => cases member
  | cons head rest inductionHypothesis =>
    rw [List.map_cons, List.nodup_cons] at distinct
    rcases List.mem_cons.mp member with same | later
    · subst same
      exact List.find?_cons_of_pos (beq_self_eq_true backend.id)
    · have different : ¬ (head.id == backend.id) = true := by
        intro equal
        exact distinct.1 (beq_iff_eq.mp equal ▸ List.mem_map_of_mem later)
      rw [List.find?_cons, Bool.eq_false_iff.mpr different]
      exact inductionHypothesis distinct.2 later

theorem get?_eq_some_iff {registry : Registry} {id : String} {backend : Backend} :
    registry.get? id = some backend ↔ backend ∈ registry.backends ∧ backend.id = id := by
  constructor
  · exact fun found => ⟨mem_of_get? found, get?_id found⟩
  · rintro ⟨member, rfl⟩
    exact find?_id_of_mem registry.distinct member

theorem contains_iff_mem_ids {registry : Registry} {id : String} :
    registry.contains id = true ↔ id ∈ registry.backends.map Backend.id := by
  rw [contains, Option.isSome_iff_exists, List.mem_map]
  exact exists_congr fun backend => get?_eq_some_iff

/-! ## Registering some backends -/

/-- What is found occurs before, and nothing before that does. -/
theorem firstRepeated?_eq_some {ids : List String} :
    ∀ {seen : List String} {id : String}, firstRepeated? seen ids = some id →
      ∃ before after, ids = before ++ id :: after ∧ (id ∈ seen ∨ id ∈ before) ∧
        before.Nodup ∧ ∀ earlier ∈ before, earlier ∉ seen := by
  induction ids with
  | nil =>
    intro seen id found
    cases found
  | cons head rest inductionHypothesis =>
    intro seen id found
    unfold firstRepeated? at found
    by_cases old : head ∈ seen
    · rw [if_pos old] at found
      cases found
      exact ⟨[], rest, rfl, Or.inl old, List.nodup_nil,
        fun _ member => absurd member List.not_mem_nil⟩
    · rw [if_neg old] at found
      rcases inductionHypothesis found with ⟨before, after, split, again, distinct, fresh⟩
      refine ⟨head :: before, after, by rw [split]; rfl, ?_, ?_, ?_⟩
      · rcases again with known | earlier
        · rcases List.mem_cons.mp known with same | early
          · exact Or.inr (same ▸ List.mem_cons_self)
          · exact Or.inl early
        · exact Or.inr (List.mem_cons_of_mem head earlier)
      · have unseen : head ∉ before := fun member => fresh head member List.mem_cons_self
        exact List.nodup_cons.mpr ⟨unseen, distinct⟩
      · intro earlier member
        rcases List.mem_cons.mp member with same | later
        · exact same ▸ old
        · exact fun early => fresh earlier later (List.mem_cons_of_mem head early)

/-- Whatever is first to repeat what stands before it is found. -/
theorem firstRepeated?_append_cons {before after : List String} {id : String} :
    ∀ {seen : List String}, before.Nodup → (∀ earlier ∈ before, earlier ∉ seen) →
      (id ∈ seen ∨ id ∈ before) → firstRepeated? seen (before ++ id :: after) = some id := by
  induction before with
  | nil =>
    intro seen _ _ again
    exact if_pos (again.resolve_right List.not_mem_nil)
  | cons head rest inductionHypothesis =>
    intro seen distinct fresh again
    rcases List.nodup_cons.mp distinct with ⟨unseen, others⟩
    rw [List.cons_append, firstRepeated?, if_neg (fresh head List.mem_cons_self)]
    apply inductionHypothesis others
    · intro earlier member known
      rcases List.mem_cons.mp known with same | old
      · exact unseen (same ▸ member)
      · exact fresh earlier (List.mem_cons_of_mem head member) old
    · rcases again with known | earlier
      · exact Or.inl (List.mem_cons_of_mem head known)
      · rcases List.mem_cons.mp earlier with same | later
        · exact Or.inl (same ▸ List.mem_cons_self)
        · exact Or.inr later

theorem ofBackends_eq_ok_iff {backends : List Backend} {registry : Registry} :
    ofBackends backends = .ok registry ↔ registry.backends = backends := by
  unfold ofBackends
  split
  · rename_i id repeated
    constructor
    · intro impossible
      cases impossible
    · rintro rfl
      rcases firstRepeated?_eq_some repeated with ⟨before, after, split, again, _, _⟩
      have earlier : id ∈ before := again.resolve_left List.not_mem_nil
      have distinct := registry.distinct
      rw [split] at distinct
      exact absurd rfl ((List.nodup_append.mp distinct).2.2 id earlier id List.mem_cons_self)
  · constructor
    · intro done
      cases done
      rfl
    · rintro rfl
      rfl

theorem ofBackends_eq_error_iff {backends : List Backend} {error : AssemblyError} :
    ofBackends backends = .error error ↔
      ∃ id, firstRepeated? [] (backends.map Backend.id) = some id ∧
        error = .duplicateProvider id := by
  unfold ofBackends
  split
  · rename_i id repeated
    constructor
    · intro failed
      cases failed
      exact ⟨id, repeated, rfl⟩
    · rintro ⟨other, found, rfl⟩
      rw [repeated] at found
      cases found
      rfl
  · rename_i unrepeated
    constructor
    · intro impossible
      cases impossible
    · rintro ⟨id, found, _⟩
      rw [unrepeated] at found
      cases found

theorem repeated_of_ofBackends {backends : List Backend} {error : AssemblyError}
    (failed : ofBackends backends = .error error) :
    ∃ before id after, backends.map Backend.id = before ++ id :: after ∧ id ∈ before ∧
      before.Nodup ∧ error = .duplicateProvider id := by
  rcases ofBackends_eq_error_iff.mp failed with ⟨id, repeated, cause⟩
  rcases firstRepeated?_eq_some repeated with ⟨before, after, split, again, distinct, _⟩
  exact ⟨before, id, after, split, again.resolve_left List.not_mem_nil, distinct, cause⟩

end Registry
end LendingGateway
