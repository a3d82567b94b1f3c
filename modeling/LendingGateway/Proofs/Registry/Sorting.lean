import LendingGateway.Registry.Basic

namespace LendingGateway
namespace Registry

/-!
# Sorting by a key

The order in which a registry holds its backends means nothing.  Sorting removes it
altogether once the keys are distinct: lists of the same items then have one sorted form,
and its keys ascend strictly.
-/

variable {α : Type}

theorem sortBy_perm (key : α → String) (items : List α) : (sortBy key items).Perm items :=
  List.mergeSort_perm items _

theorem mem_sortBy {key : α → String} {items : List α} {item : α} :
    item ∈ sortBy key items ↔ item ∈ items :=
  (sortBy_perm key items).mem_iff

theorem sortBy_ascending (key : α → String) (items : List α) :
    (sortBy key items).Pairwise fun before after => key before ≤ key after := by
  have sorted : (sortBy key items).Pairwise
      fun before after => decide (key before ≤ key after) = true := by
    apply List.pairwise_mergeSort
    · intro first second third below above
      rw [decide_eq_true_eq] at below above ⊢
      exact String.le_trans below above
    · intro first second
      rw [Bool.or_eq_true, decide_eq_true_eq, decide_eq_true_eq]
      exact String.le_total (key first) (key second)
  exact sorted.imp of_decide_eq_true

/-- Distinct keys leave no two neighbours equal. -/
theorem sortBy_strictly_ascending {key : α → String} {items : List α}
    (distinct : (items.map key).Nodup) :
    (sortBy key items).Pairwise fun before after => key before < key after := by
  have apart : (sortBy key items).Pairwise fun before after => key before ≠ key after := by
    apply List.pairwise_map.mp
    exact ((sortBy_perm key items).map key).nodup_iff.mpr distinct
  apply ((sortBy_ascending key items).and apart).imp
  intro before after both
  rcases Std.lt_trichotomy (key before) (key after) with less | same | greater
  · exact less
  · exact absurd same both.2
  · exact absurd greater (String.not_lt.mpr both.1)

/-- The order of the items before sorting does not show. -/
theorem sortBy_eq_of_perm {key : α → String} {first second : List α}
    (distinct : (first.map key).Nodup) (reordered : first.Perm second) :
    sortBy key first = sortBy key second := by
  have distinctSecond : (second.map key).Nodup := (reordered.map key).nodup_iff.mp distinct
  apply List.Perm.eq_of_pairwise _ (sortBy_strictly_ascending distinct)
    (sortBy_strictly_ascending distinctSecond)
    ((sortBy_perm key first).trans (reordered.trans (sortBy_perm key second).symm))
  intro left right _ _ less greater
  exact absurd greater (String.lt_asymm less)

/-- Items are sorted as their images are if these have the same keys. -/
theorem sortBy_map {β : Type} {image : α → β} {key : α → String} {other : β → String}
    (same : ∀ item, other (image item) = key item) (items : List α) :
    sortBy other (items.map image) = (sortBy key items).map image := by
  unfold sortBy
  rw [List.map_mergeSort]
  intro left _ right _
  rw [same, same]

end Registry
end LendingGateway
