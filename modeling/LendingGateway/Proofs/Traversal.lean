import Mathlib.Data.List.Forall2

namespace LendingGateway
namespace Traversal

/-!
# Checking a list element by element

A traversal that may fail either succeeds for every element, and its results stand in
their order, or it stops at the first element that fails.
-/

variable {α β ε : Type} {check : α → Except ε β}

/-- A step after another succeeds if both do. -/
theorem bind_eq_ok_iff {first : Except ε α} {result : β} :
    (first >>= check) = .ok result ↔ ∃ value, first = .ok value ∧ check value = .ok result := by
  cases first with
  | error error =>
    constructor
    · intro impossible
      cases impossible
    · rintro ⟨value, impossible, _⟩
      cases impossible
  | ok value =>
    constructor
    · exact fun done => ⟨value, rfl, done⟩
    · rintro ⟨other, same, done⟩
      cases same
      exact done

theorem mapM_cons_ok {item : α} {result : β} (checked : check item = .ok result)
    (items : List α) : (item :: items).mapM check = (items.mapM check).map (result :: ·) := by
  rw [List.mapM_cons, checked]
  cases items.mapM check with
  | ok results => rfl
  | error error => rfl

theorem mapM_cons_error {item : α} {error : ε} (failed : check item = .error error)
    (items : List α) : (item :: items).mapM check = .error error := by
  rw [List.mapM_cons, failed]
  rfl

theorem mapM_eq_ok_iff {items : List α} {results : List β} :
    items.mapM check = .ok results ↔
      List.Forall₂ (fun item result => check item = .ok result) items results := by
  induction items generalizing results with
  | nil =>
    rw [List.forall₂_nil_left_iff]
    exact ⟨fun done => (Except.ok.inj done).symm, fun empty => empty ▸ rfl⟩
  | cons item items inductionHypothesis =>
    rw [List.forall₂_cons_left_iff]
    cases checked : check item with
    | error error =>
      rw [mapM_cons_error checked]
      constructor
      · intro impossible
        cases impossible
      · rintro ⟨result, rest, impossible, _, _⟩
        cases impossible
    | ok result =>
      rw [mapM_cons_ok checked]
      constructor
      · intro done
        cases rest : items.mapM check with
        | error error =>
          rw [rest] at done
          cases done
        | ok others =>
          rw [rest] at done
          cases done
          exact ⟨result, others, rfl, inductionHypothesis.mp rest, rfl⟩
      · rintro ⟨first, others, same, done, rfl⟩
        cases same
        rw [inductionHypothesis.mpr done]
        rfl

/-- The error of a traversal is that of the first element that fails. -/
theorem first_error_of_mapM {items : List α} {error : ε}
    (failed : items.mapM check = .error error) :
    ∃ before item after, items = before ++ item :: after ∧
      (∀ earlier ∈ before, ∃ result, check earlier = .ok result) ∧
        check item = .error error := by
  induction items with
  | nil => cases failed
  | cons item items inductionHypothesis =>
    cases checked : check item with
    | error cause =>
      rw [mapM_cons_error checked] at failed
      cases failed
      exact ⟨[], item, items, rfl, fun _ member => absurd member List.not_mem_nil, checked⟩
    | ok result =>
      rw [mapM_cons_ok checked] at failed
      cases rest : items.mapM check with
      | ok others =>
        rw [rest] at failed
        cases failed
      | error cause =>
        rw [rest] at failed
        cases failed
        rcases inductionHypothesis rest with ⟨before, failing, after, split, earlier, cause⟩
        refine ⟨item :: before, failing, after, by rw [split]; rfl, ?_, cause⟩
        intro other member
        rcases List.mem_cons.mp member with same | later
        · exact ⟨result, same ▸ checked⟩
        · exact earlier other later

theorem mapM_of_first_error {before : List α} {item : α} {error : ε}
    (earlier : ∀ other ∈ before, ∃ result, check other = .ok result)
    (failed : check item = .error error) (after : List α) :
    (before ++ item :: after).mapM check = .error error := by
  induction before with
  | nil => exact mapM_cons_error failed after
  | cons other before inductionHypothesis =>
    rw [List.forall_mem_cons] at earlier
    rcases earlier.1 with ⟨result, checked⟩
    rw [List.cons_append, mapM_cons_ok checked, inductionHypothesis earlier.2]
    rfl

/-- A traversal succeeds if the check does for every element. -/
theorem mapM_isOk {items : List α} (each : ∀ item ∈ items, ∃ result, check item = .ok result) :
    ∃ results, items.mapM check = .ok results := by
  cases done : items.mapM check with
  | ok results => exact ⟨results, rfl⟩
  | error error =>
    rcases first_error_of_mapM done with ⟨before, item, after, split, _, failed⟩
    rcases each item (split ▸ List.mem_append_right before List.mem_cons_self) with ⟨result, checked⟩
    rw [failed] at checked
    cases checked

/-- In related lists, each element of the one has its partner in the other. -/
theorem exists_of_mem {related : α → β → Prop} {items : List α} {results : List β}
    (each : List.Forall₂ related items results) {item : α} (member : item ∈ items) :
    ∃ result ∈ results, related item result := by
  induction each with
  | nil => cases member
  | cons first _ inductionHypothesis =>
    rcases List.mem_cons.mp member with same | later
    · exact ⟨_, List.mem_cons_self, same ▸ first⟩
    · rcases inductionHypothesis later with ⟨result, found, connected⟩
      exact ⟨result, List.mem_cons_of_mem _ found, connected⟩

theorem mapM_isOk_iff {items : List α} :
    (∃ results, items.mapM check = .ok results) ↔
      ∀ item ∈ items, ∃ result, check item = .ok result := by
  refine ⟨?_, mapM_isOk⟩
  rintro ⟨results, done⟩ item member
  rcases exists_of_mem (mapM_eq_ok_iff.mp done) member with ⟨result, _, checked⟩
  exact ⟨result, checked⟩

theorem mapM_eq_error_iff {items : List α} {error : ε} :
    items.mapM check = .error error ↔
      ∃ before item after, items = before ++ item :: after ∧
        (∀ earlier ∈ before, ∃ result, check earlier = .ok result) ∧
          check item = .error error := by
  refine ⟨first_error_of_mapM, ?_⟩
  rintro ⟨before, item, after, rfl, earlier, failed⟩
  exact mapM_of_first_error earlier failed after

/-- A traversal by another check with the same outcomes up to an image has the same outcome
up to the images. -/
theorem mapM_map_image {γ : Type} {other : α → Except ε γ} {image : β → γ}
    (each : ∀ item, other item = (check item).map image) (items : List α) :
    items.mapM other = (items.mapM check).map (List.map image) := by
  induction items with
  | nil => rfl
  | cons item items inductionHypothesis =>
    have first := each item
    cases checked : check item with
    | error error =>
      rw [checked] at first
      rw [mapM_cons_error first, mapM_cons_error checked]
      rfl
    | ok result =>
      rw [checked] at first
      rw [mapM_cons_ok first, mapM_cons_ok checked, inductionHypothesis]
      cases items.mapM check <;> rfl

/-- What all elements give has what each of them gives. -/
theorem exists_of_mapM_eq_some {read? : α → Option β} {items : List α} {results : List β}
    (done : items.mapM read? = some results) {item : α} (member : item ∈ items) :
    ∃ result ∈ results, read? item = some result := by
  induction items generalizing results with
  | nil => cases member
  | cons first rest inductionHypothesis =>
    rw [List.mapM_cons, Option.bind_eq_bind, Option.bind_eq_some_iff] at done
    rcases done with ⟨head, own, done⟩
    rcases Option.bind_eq_some_iff.mp done with ⟨tail, others, whole⟩
    cases whole
    rcases List.mem_cons.mp member with rfl | behind
    · exact ⟨head, List.mem_cons_self, own⟩
    · rcases inductionHypothesis others behind with ⟨result, listed, read⟩
      exact ⟨result, List.mem_cons_of_mem head listed, read⟩

end Traversal
end LendingGateway
