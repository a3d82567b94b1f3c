import LendingGateway.Text.Split
import Mathlib.Data.List.Basic

namespace LendingGateway
namespace Text

/-!
# Pieces of a text

The separator between two texts is where the pieces of the one end and those of the other
begin.  Splitting therefore undoes joining for pieces without the separator.
-/

theorem splitAt_ne_nil (separator : Char) (chars : List Char) : splitAt separator chars ≠ [] := by
  intro empty
  have counted := length_splitAt separator chars
  rw [empty] at counted
  cases counted

theorem splitAt_append_separator (separator : Char) (front back : List Char) :
    splitAt separator (front ++ separator :: back) =
      splitAt separator front ++ splitAt separator back := by
  induction front with
  | nil => exact if_pos rfl
  | cons c rest inductionHypothesis =>
    rw [List.cons_append, splitAt, inductionHypothesis, splitAt]
    by_cases same : c = separator
    · rw [if_pos same, if_pos same, List.cons_append]
    · rw [if_neg same, if_neg same]
      cases pieces : splitAt separator rest with
      | nil => exact absurd pieces (splitAt_ne_nil separator rest)
      | cons piece others => rfl

theorem splitAt_of_not_mem {separator : Char} {piece : List Char} (free : separator ∉ piece) :
    splitAt separator piece = [piece] := by
  induction piece with
  | nil => rfl
  | cons c rest inductionHypothesis =>
    rw [List.mem_cons, not_or] at free
    rw [splitAt, if_neg (Ne.symm free.1), inductionHypothesis free.2]

/-- The last piece is empty exactly if there is nothing behind the last separator, where a
text begins as if it stood behind one. -/
theorem exists_last_piece (separator : Char) (chars : List Char) :
    ∃ before last, splitAt separator chars = before ++ [last] ∧
      (last = [] ↔ (separator :: chars).getLast? = some separator) := by
  have ends : ∀ front back : List Char, separator ∉ back →
      (back = [] ↔ (front ++ separator :: back).getLast? = some separator) := by
    intro front back free
    rcases List.eq_nil_or_concat back with rfl | ⟨others, c, rfl⟩
    · exact iff_of_true rfl List.getLast?_concat
    · have other : c ≠ separator := by
        rintro rfl
        exact free (by simp)
      have last : (front ++ separator :: others.concat c).getLast? = some c := by
        rw [List.concat_eq_append, ← List.cons_append, ← List.append_assoc]
        exact List.getLast?_concat
      rw [last]
      exact iff_of_false (by simp) fun same => other (Option.some.inj same)
  by_cases member : separator ∈ chars
  · rcases List.eq_append_cons_of_mem (List.mem_reverse.mpr member) with
      ⟨behind, ahead, split, free⟩
    have whole : chars = ahead.reverse ++ separator :: behind.reverse := by
      rw [← List.reverse_reverse chars, split]
      simp
    have alone : separator ∉ behind.reverse := fun inside => free (List.mem_reverse.mp inside)
    refine ⟨splitAt separator ahead.reverse, behind.reverse, ?_, ?_⟩
    · rw [whole, splitAt_append_separator, splitAt_of_not_mem alone]
    · rw [whole, ← List.cons_append]
      exact ends (separator :: ahead.reverse) behind.reverse alone
  · exact ⟨[], chars, splitAt_of_not_mem member, ends [] chars member⟩

/-- A text without the separator belongs to the last piece of the text before it. -/
theorem splitAt_append_of_not_mem {separator : Char} {back : List Char}
    (free : separator ∉ back) {front last : List Char} {before : List (List Char)}
    (pieces : splitAt separator front = before ++ [last]) :
    splitAt separator (front ++ back) = before ++ [last ++ back] := by
  induction front generalizing before last with
  | nil =>
    rcases List.append_eq_singleton_iff.mp pieces.symm with ⟨rfl, alone⟩ | ⟨_, impossible⟩
    · cases alone
      exact splitAt_of_not_mem free
    · cases impossible
  | cons c rest inductionHypothesis =>
    rw [List.cons_append]
    by_cases same : c = separator
    · rw [splitAt, if_pos same] at pieces ⊢
      cases before with
      | nil => exact absurd (List.cons.inj pieces).2 (splitAt_ne_nil separator rest)
      | cons piece others =>
        rcases List.cons.inj pieces with ⟨rfl, behind⟩
        rw [inductionHypothesis behind]
        rfl
    · rw [splitAt, if_neg same] at pieces ⊢
      cases behind : splitAt separator rest with
      | nil => exact absurd behind (splitAt_ne_nil separator rest)
      | cons piece others =>
        rw [behind] at pieces
        cases before with
        | nil =>
          cases pieces
          rw [@inductionHypothesis piece [] behind]
          rfl
        | cons first middle =>
          cases pieces
          rw [@inductionHypothesis last (piece :: middle) behind]
          rfl

/-- Every other character is in some piece. -/
theorem mem_splitAt {separator c : Char} (other : c ≠ separator) {chars : List Char}
    (member : c ∈ chars) : ∃ piece ∈ splitAt separator chars, c ∈ piece := by
  induction chars with
  | nil => cases member
  | cons first rest inductionHypothesis =>
    rw [splitAt]
    by_cases same : first = separator
    · rw [if_pos same]
      have behind : c ∈ rest := (List.mem_cons.mp member).resolve_left fun head =>
        other (head.trans same)
      rcases inductionHypothesis behind with ⟨piece, inside, found⟩
      exact ⟨piece, List.mem_cons_of_mem _ inside, found⟩
    · rw [if_neg same]
      cases pieces : splitAt separator rest with
      | nil => exact absurd pieces (splitAt_ne_nil separator rest)
      | cons piece others =>
        rcases List.mem_cons.mp member with rfl | behind
        · exact ⟨_, List.mem_cons_self, List.mem_cons_self⟩
        · rcases inductionHypothesis behind with ⟨found, inside, holds⟩
          rw [pieces] at inside
          rcases List.mem_cons.mp inside with rfl | further
          · exact ⟨_, List.mem_cons_self, List.mem_cons_of_mem _ holds⟩
          · exact ⟨found, List.mem_cons_of_mem _ further, holds⟩

/-- Pieces that are joined by a separator none of them holds are found again. -/
theorem splitAt_joined {separator : Char} (pieces : List (List Char)) {last : List Char}
    (free : ∀ piece ∈ pieces, separator ∉ piece) (lastFree : separator ∉ last) :
    splitAt separator (pieces.foldr (fun piece text => piece ++ separator :: text) last) =
      pieces ++ [last] := by
  induction pieces with
  | nil => exact splitAt_of_not_mem lastFree
  | cons piece pieces inductionHypothesis =>
    rw [List.forall_mem_cons] at free
    rw [List.foldr_cons, splitAt_append_separator, splitAt_of_not_mem free.1,
      inductionHypothesis free.2]
    rfl

end Text
end LendingGateway
