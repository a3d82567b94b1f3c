import LendingGateway.Service.Basic

namespace LendingGateway
namespace Service

open Lending Backend

/-!
# What is heard of one backend

A listing asks a backend once.  Either it takes the answer as it comes, because that is in time,
or it hears at the deadline that there is none.  In both cases the calls are those by which the
backend was asked.
-/

section Heeding

variable (service : Service) (id : String) {asked : Asked Provider}

theorem heed_in_time {ticks : Nat} {outcome : Except QueryError Provider}
    {events : List Log.Event} (answer : asked.reply = .after ticks outcome events)
    (inTime : ticks ≤ service.deadline.ticks) :
    service.heed id asked = ⟨ticks, outcome, events, asked.calls⟩ := by
  simp only [heed, answer, inTime, if_true]

/-- A reply comes after the deadline, if at all. -/
def Overdue (reply : Reply Provider) : Prop :=
  ∀ ticks outcome events, reply = .after ticks outcome events → service.deadline.ticks < ticks

theorem heed_overdue (overdue : service.Overdue asked.reply) :
    service.heed id asked =
      ⟨service.deadline.ticks, .error (service.lateError id), [], asked.calls⟩ := by
  cases answer : asked.reply with
  | never => simp only [heed, answer]
  | after ticks outcome events =>
    have late := Nat.not_le.mpr (overdue ticks outcome events answer)
    simp only [heed, answer, late, if_false]

theorem overdue_never : service.Overdue .never := by
  intro _ _ _ impossible
  cases impossible

theorem overdue_after {ticks : Nat} {outcome : Except QueryError Provider}
    {events : List Log.Event} (late : service.deadline.ticks < ticks) :
    service.Overdue (.after ticks outcome events) := by
  rintro _ _ _ ⟨⟩
  exact late

theorem in_time_or_overdue (reply : Reply Provider) :
    (∃ ticks outcome events, reply = .after ticks outcome events ∧
      ticks ≤ service.deadline.ticks) ∨ service.Overdue reply := by
  cases reply with
  | never => exact Or.inr service.overdue_never
  | after ticks outcome events =>
    rcases Nat.lt_or_ge service.deadline.ticks ticks with late | inTime
    · exact Or.inr (service.overdue_after late)
    · exact Or.inl ⟨ticks, outcome, events, rfl, inTime⟩

theorem calls_heed (asked : Asked Provider) : (service.heed id asked).calls = asked.calls := by
  rcases service.in_time_or_overdue asked.reply with ⟨_, _, _, answer, inTime⟩ | overdue
  · rw [service.heed_in_time id answer inTime]
  · rw [service.heed_overdue id overdue]

end Heeding

section Hearing

variable {service : Service} {backend : Backend}

theorem hear_in_time {ticks : Nat} {outcome : Except QueryError Provider}
    {events : List Log.Event} (answer : backend.info = .after ticks outcome events)
    (inTime : ticks ≤ service.deadline.ticks) :
    service.hear backend = ⟨ticks, outcome, events, [⟨backend.id, .info⟩]⟩ :=
  service.heed_in_time backend.id answer inTime

theorem hear_overdue (overdue : service.Overdue backend.info) :
    service.hear backend = ⟨service.deadline.ticks, .error (service.lateError backend.id), [],
      [⟨backend.id, .info⟩]⟩ :=
  service.heed_overdue backend.id overdue

end Hearing

/-- Of a backend a listing hears the answer, if it comes in time, and that there is none, if
not. -/
theorem hear_cases (service : Service) (backend : Backend) :
    (∃ ticks outcome events, backend.info = .after ticks outcome events ∧
      ticks ≤ service.deadline.ticks ∧
        service.hear backend = ⟨ticks, outcome, events, [⟨backend.id, .info⟩]⟩) ∨
    (service.Overdue backend.info ∧ service.hear backend =
      ⟨service.deadline.ticks, .error (service.lateError backend.id), [],
        [⟨backend.id, .info⟩]⟩) := by
  rcases service.in_time_or_overdue backend.info with
    ⟨ticks, outcome, events, answer, inTime⟩ | overdue
  · exact Or.inl ⟨ticks, outcome, events, answer, inTime, hear_in_time answer inTime⟩
  · exact Or.inr ⟨overdue, hear_overdue overdue⟩

/-- A backend is asked once, whatever is heard of it. -/
theorem calls_hear (service : Service) (backend : Backend) :
    (service.hear backend).calls = [⟨backend.id, .info⟩] :=
  service.calls_heed backend.id _

end Service
end LendingGateway
