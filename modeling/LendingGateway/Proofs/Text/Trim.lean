import LendingGateway.Proofs.Text.Split
import LendingGateway.Text.Blank
import Mathlib.Data.List.DropRight

namespace LendingGateway
namespace Text

/-!
# Lists that are written in one text

A list of names is written as one text with a separator between them and with white space
around them.  What the names are is said here by two laws that look at the text alone: pieces
are those of the general splitter, and a name is what stands between two runs of white space
and has none at its own ends.
-/

/-- The pieces of a text are those of the general splitter. -/
theorem splitAt_eq_splitOn (separator : Char) (chars : List Char) :
    splitAt separator chars = chars.splitOn separator := by
  induction chars with
  | nil => exact (List.splitOn_nil separator).symm
  | cons c rest inductionHypothesis =>
    rw [List.splitOn, List.splitOnP_cons_eq_if_modifyHead, splitAt, inductionHypothesis]
    by_cases same : c = separator
    · rw [if_pos same, if_pos (beq_iff_eq.mpr same)]
      rfl
    · rw [if_neg same, if_neg (fun equal => same (beq_iff_eq.mp equal))]
      change _ = List.modifyHead (List.cons c) (rest.splitOn separator)
      cases pieces : rest.splitOn separator with
      | nil => exact absurd pieces (List.splitOnP_ne_nil _ rest)
      | cons piece pieces => rfl

/-- What is left of some characters when those of a class are dropped at both ends. -/
structure Trims (drop : Char → Bool) (chars core : List Char) : Prop where
  around : ∃ before after, chars = before ++ (core ++ after) ∧
    (∀ c ∈ before, drop c = true) ∧ ∀ c ∈ after, drop c = true
  begins : ∀ c, core.head? = some c → drop c = false
  ends : ∀ c, core.getLast? = some c → drop c = false

section Trimming

variable {drop : Char → Bool} {chars core : List Char}

theorem trimBy_eq_rdropWhile (drop : Char → Bool) (chars : List Char) :
    trimBy drop chars = (chars.dropWhile drop).rdropWhile drop :=
  rfl

theorem trims_trimBy (drop : Char → Bool) (chars : List Char) :
    Trims drop chars (trimBy drop chars) where
  around := by
    refine ⟨chars.takeWhile drop, (chars.dropWhile drop).rtakeWhile drop, ?_,
      fun c => List.mem_takeWhile_imp, fun c => List.mem_rtakeWhile_imp⟩
    rw [trimBy_eq_rdropWhile, List.rdropWhile_append_rtakeWhile, List.takeWhile_append_dropWhile]
  begins c head := by
    rcases List.rdropWhile_prefix drop (chars.dropWhile drop) with ⟨behind, whole⟩
    have first : (chars.dropWhile drop).head? = some c := by
      rw [← whole, List.head?_append]
      exact congrArg (Option.or · _) head
    have kept := List.head?_dropWhile_not drop chars
    rw [first] at kept
    exact kept
  ends c last := by
    have nonempty : (chars.dropWhile drop).rdropWhile drop ≠ [] := by
      intro empty
      rw [trimBy_eq_rdropWhile, empty] at last
      cases last
    have kept := List.rdropWhile_last_not drop _ nonempty
    rw [trimBy_eq_rdropWhile, List.getLast?_eq_some_getLast nonempty] at last
    rw [Option.some.inj last] at kept
    exact Bool.eq_false_iff.mpr kept

/-- Nothing else is left. -/
theorem Trims.eq_trimBy (trims : Trims drop chars core) : trimBy drop chars = core := by
  rcases trims.around with ⟨before, after, rfl, dropped, loose⟩
  rw [trimBy_eq_rdropWhile, List.dropWhile_append_of_pos dropped]
  cases core with
  | nil =>
    have nothing : after.dropWhile drop = [] := List.dropWhile_eq_nil_iff.mpr loose
    rw [List.nil_append, nothing]
    rfl
  | cons c rest =>
    have stays : (c :: (rest ++ after)).dropWhile drop = c :: (rest ++ after) := by
      rw [List.dropWhile_cons_of_neg (Bool.eq_false_iff.mp (trims.begins c rfl))]
    have kept : (c :: rest).rdropWhile drop = c :: rest := by
      refine List.rdropWhile_eq_self_iff.mpr fun nonempty dropped => ?_
      have last := trims.ends _ (List.getLast?_eq_some_getLast nonempty)
      exact Bool.false_ne_true (last.symm.trans dropped)
    rw [List.cons_append, stays, ← List.cons_append, List.rdropWhile, List.reverse_append,
      List.dropWhile_append_of_pos fun c member => loose c (List.mem_reverse.mp member)]
    exact kept

theorem trims_iff : Trims drop chars core ↔ trimBy drop chars = core :=
  ⟨Trims.eq_trimBy, fun same => same ▸ trims_trimBy drop chars⟩

end Trimming

end Text
end LendingGateway
