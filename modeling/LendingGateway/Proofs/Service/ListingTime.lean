import LendingGateway.Proofs.Service.Hearing

namespace LendingGateway
namespace Service

open Backend

/-!
# How long a listing takes

A listing waits for all backends at once, so it takes as long as the slowest of them, and
the deadline cuts off whatever would take longer.
-/

/-- A backend answers for itself before a tick, be it with an error. -/
def AnswersBefore (tick : Nat) (backend : Backend) : Prop :=
  ∃ ticks outcome events, backend.info = .after ticks outcome events ∧ ticks < tick

theorem foldl_max_lt_iff {bound : Nat} (items : List Nat) (start : Nat) :
    items.foldl max start < bound ↔ start < bound ∧ ∀ item ∈ items, item < bound := by
  induction items generalizing start with
  | nil => simp only [List.foldl_nil, List.not_mem_nil, false_implies, implies_true, and_true]
  | cons item items inductionHypothesis =>
    rw [List.foldl_cons, inductionHypothesis, List.forall_mem_cons, Nat.max_lt, and_assoc]

theorem ticks_list_lt_iff (service : Service) {bound : Nat} :
    service.list.ticks < bound ↔
      0 < bound ∧ ∀ backend ∈ service.registry.backends, (service.hear backend).ticks < bound := by
  change (service.registry.backends.map fun backend => (service.hear backend).ticks).foldl max 0
    < bound ↔ _
  rw [foldl_max_lt_iff, List.forall_mem_map]

theorem ticks_hear_le (service : Service) (backend : Backend) :
    (service.hear backend).ticks ≤ service.deadline.ticks := by
  rcases service.hear_cases backend with ⟨_, _, _, _, inTime, heard⟩ | ⟨_, heard⟩
  · rw [heard]
    exact inTime
  · exact Nat.le_of_eq (congrArg Hearing.ticks heard)

theorem ticks_list_le (service : Service) : service.list.ticks ≤ service.deadline.ticks := by
  apply Nat.le_of_lt_succ
  exact service.ticks_list_lt_iff.mpr
    ⟨Nat.succ_pos _, fun backend _ => Nat.lt_succ_of_le (service.ticks_hear_le backend)⟩

/-- Before the deadline, a listing hears from a backend when that backend answers. -/
theorem ticks_hear_lt_iff {service : Service} {tick : Nat}
    (early : tick ≤ service.deadline.ticks) (backend : Backend) :
    (service.hear backend).ticks < tick ↔ AnswersBefore tick backend := by
  rcases service.hear_cases backend with
    ⟨ticks, outcome, events, answer, _, heard⟩ | ⟨overdue, heard⟩
  · rw [heard]
    constructor
    · exact fun before => ⟨ticks, outcome, events, answer, before⟩
    · rintro ⟨_, _, _, same, before⟩
      rw [answer] at same
      cases same
      exact before
  · rw [heard]
    constructor
    · exact fun late => absurd late (Nat.not_lt.mpr early)
    · rintro ⟨ticks, outcome, events, answer, before⟩
      exact Nat.lt_trans (overdue ticks outcome events answer) before

end Service
end LendingGateway
