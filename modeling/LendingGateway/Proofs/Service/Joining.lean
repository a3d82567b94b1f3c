import Mathlib
import LendingGateway.Proofs.Service.ListingEvents
import LendingGateway.Proofs.Service.ListingTime

namespace LendingGateway
namespace Service

open Lending Backend

/-!
# The lookups of a listing

A listing starts a lookup at every backend and waits for all of them.  As the clock ticks,
each lookup is polled on its own: it takes an answer that is there, and without one it
gives up once the deadline has come.  No lookup knows of the others, and the listing is
done at the first tick at which all lookups are over.

Here the lookups run tick by tick.  What a listing hears, and how long it takes, is what
comes out of this run.
-/

/-- A lookup at one backend, which has been asked. -/
inductive Lookup where
  | waiting (asked : Asked Provider)
  | ended (hearing : Hearing)

/-- What becomes of a lookup without an answer. -/
def giveUp (service : Service) (tick : Nat) (id : String) (asked : Asked Provider) : Lookup :=
  if service.deadline.ticks ≤ tick then
    .ended ⟨tick, .error (service.lateError id), [], asked.calls⟩
  else
    .waiting asked

/-- Poll a lookup.  The answer is looked at before the deadline is. -/
def poll (service : Service) (tick : Nat) (id : String) : Lookup → Lookup
  | .ended hearing => .ended hearing
  | .waiting asked =>
    match asked.reply with
    | .after ticks outcome events =>
      if ticks ≤ tick then .ended ⟨tick, outcome, events, asked.calls⟩
      else service.giveUp tick id asked
    | .never => service.giveUp tick id asked

/-- The lookups of a listing once they have been polled up to a tick. -/
def lookups (service : Service) : Nat → List (Backend × Lookup)
  | 0 => service.registry.backends.map fun backend =>
      (backend, service.poll 0 backend.id (.waiting (put backend .info)))
  | tick + 1 => (service.lookups tick).map fun entry =>
      (entry.1, service.poll (tick + 1) entry.1.id entry.2)

/-- At some tick all lookups are over. -/
def Joined (service : Service) (tick : Nat) : Prop :=
  ∀ entry ∈ service.lookups tick, ∃ hearing, entry.2 = .ended hearing

/-! ## The run of a lookup -/

/-- What a lookup should be at a tick. -/
def lookupAt (service : Service) (tick : Nat) (id : String) (asked : Asked Provider) : Lookup :=
  if (service.heed id asked).ticks ≤ tick then .ended (service.heed id asked) else .waiting asked

section Lookups

variable {service : Service} {tick : Nat} {id : String} {asked : Asked Provider}

theorem lookupAt_eq_giveUp
    (heard : service.heed id asked =
      ⟨service.deadline.ticks, .error (service.lateError id), [], asked.calls⟩)
    (due : tick ≤ service.deadline.ticks) :
    service.lookupAt tick id asked = service.giveUp tick id asked := by
  unfold lookupAt giveUp
  rw [heard]
  by_cases come : service.deadline.ticks ≤ tick
  · have now : service.deadline.ticks = tick := Nat.le_antisymm come due
    rw [if_pos come, if_pos come, now]
  · rw [if_neg come, if_neg come]

theorem poll_of_never (answer : asked.reply = .never) :
    service.poll tick id (.waiting asked) = service.giveUp tick id asked := by
  simp only [poll, answer]

theorem poll_of_after {ticks : Nat} {outcome : Except QueryError Provider}
    {events : List Log.Event} (answer : asked.reply = .after ticks outcome events) :
    service.poll tick id (.waiting asked) =
      if ticks ≤ tick then .ended ⟨tick, outcome, events, asked.calls⟩
      else service.giveUp tick id asked := by
  simp only [poll, answer]

/-- A lookup that is still waiting when something may be heard becomes what it should be. -/
theorem poll_waiting (due : tick ≤ (service.heed id asked).ticks) :
    service.poll tick id (.waiting asked) = service.lookupAt tick id asked := by
  cases answer : asked.reply with
  | never =>
    have heard := service.heed_overdue id (answer ▸ service.overdue_never)
    rw [heard] at due
    rw [poll_of_never answer, lookupAt_eq_giveUp heard due]
  | after ticks outcome events =>
    rw [poll_of_after answer]
    rcases Nat.lt_or_ge service.deadline.ticks ticks with late | inTime
    · have heard := service.heed_overdue id (answer ▸ service.overdue_after late)
      rw [heard] at due
      have unanswered : ¬ ticks ≤ tick := Nat.not_le.mpr (Nat.lt_of_le_of_lt due late)
      rw [if_neg unanswered, lookupAt_eq_giveUp heard due]
    · have heard := service.heed_in_time id answer inTime
      rw [heard] at due
      unfold lookupAt
      rw [heard]
      by_cases come : ticks ≤ tick
      · have now : ticks = tick := Nat.le_antisymm come due
        rw [if_pos come, if_pos come, now]
      · have early : ¬ service.deadline.ticks ≤ tick :=
          fun passed => come (Nat.le_trans inTime passed)
        rw [if_neg come, if_neg come, giveUp, if_neg early]

theorem poll_lookupAt (service : Service) (tick : Nat) (id : String) (asked : Asked Provider) :
    service.poll (tick + 1) id (service.lookupAt tick id asked) =
      service.lookupAt (tick + 1) id asked := by
  by_cases ended : (service.heed id asked).ticks ≤ tick
  · have still : (service.heed id asked).ticks ≤ tick + 1 := Nat.le_succ_of_le ended
    simp only [lookupAt, ended, still, if_true, poll]
  · have waiting : service.lookupAt tick id asked = .waiting asked := if_neg ended
    rw [waiting]
    exact poll_waiting (Nat.lt_of_not_le ended)

end Lookups

theorem lookups_eq (service : Service) (tick : Nat) :
    service.lookups tick = service.registry.backends.map fun backend =>
      (backend, service.lookupAt tick backend.id (put backend .info)) := by
  induction tick with
  | zero =>
    unfold lookups
    apply List.map_congr_left
    intro backend _
    rw [poll_waiting (Nat.zero_le _)]
  | succ tick inductionHypothesis =>
    unfold lookups
    rw [inductionHypothesis, List.map_map]
    apply List.map_congr_left
    intro backend _
    simp only [Function.comp, poll_lookupAt]

/-! ## The run of all lookups -/

theorem ticks_list_le_iff (service : Service) {tick : Nat} :
    service.list.ticks ≤ tick ↔
      ∀ backend ∈ service.registry.backends, (service.hear backend).ticks ≤ tick := by
  simp only [← Nat.lt_succ_iff, ticks_list_lt_iff, Nat.succ_pos, true_and]

theorem joined_iff (service : Service) (tick : Nat) :
    service.Joined tick ↔ service.list.ticks ≤ tick := by
  rw [ticks_list_le_iff]
  unfold Joined
  rw [lookups_eq, List.forall_mem_map]
  apply forall₂_congr
  intro backend _
  change (∃ hearing, (if (service.hear backend).ticks ≤ tick then
    Lookup.ended (service.hear backend) else .waiting _) = .ended hearing) ↔ _
  by_cases ended : (service.hear backend).ticks ≤ tick
  · simp only [ended, if_true, Lookup.ended.injEq, exists_eq']
  · simp only [ended, if_false, reduceCtorEq, exists_false]

/-- When all lookups are over, each has heard what the listing hears. -/
theorem lookups_of_joined {service : Service} {tick : Nat} (joined : service.Joined tick) :
    service.lookups tick =
      service.registry.backends.map fun backend => (backend, .ended (service.hear backend)) := by
  have ended := service.ticks_list_le_iff.mp ((service.joined_iff tick).mp joined)
  rw [lookups_eq]
  apply List.map_congr_left
  intro backend member
  exact congrArg (Prod.mk backend) (if_pos (ended backend member))

/-! ## The slowest backend -/

/-- How long a reply takes, in ticks. -/
def delay {α : Type} : Reply α → ℕ∞
  | .after ticks _ _ => ticks
  | .never => ⊤

theorem le_delay_of_overdue {service : Service} {reply : Reply Provider}
    (overdue : service.Overdue reply) : (service.deadline.ticks : ℕ∞) ≤ delay reply := by
  cases reply with
  | never => exact le_top
  | after ticks outcome events => exact Nat.cast_le.mpr (Nat.le_of_lt (overdue _ _ _ rfl))

theorem ticks_hear_eq_min (service : Service) (backend : Backend) :
    ((service.hear backend).ticks : ℕ∞) = min (delay backend.info) service.deadline.ticks := by
  rcases service.hear_cases backend with ⟨_, _, _, answer, inTime, heard⟩ | ⟨overdue, heard⟩
  · rw [heard, answer]
    exact (min_eq_left (Nat.cast_le.mpr inTime)).symm
  · rw [heard]
    exact (min_eq_right (le_delay_of_overdue overdue)).symm

theorem ticks_list_eq_iSup (service : Service) :
    (service.list.ticks : ℕ∞) =
      ⨆ backend ∈ service.registry.backends,
        min (delay backend.info) service.deadline.ticks := by
  apply eq_of_forall_ge_iff
  intro bound
  simp only [iSup_le_iff, ← ticks_hear_eq_min]
  cases bound with
  | top => simp only [le_top, implies_true]
  | coe bound => simp only [Nat.cast_le, ticks_list_le_iff]

/-! ## Which backends are listed -/

theorem id_mem_list_iff {service : Service} {backend : Backend}
    (member : backend ∈ service.registry.backends) :
    backend.id ∈ service.list.providers.map Provider.id ↔
      ∃ provider, Describes service backend provider := by
  have own := filter_list_providers service member
  rw [listed?_eq_hear] at own
  simp only [← hear_ok_iff]
  constructor
  · intro listed
    rcases List.mem_map.mp listed with ⟨provider, entry, same⟩
    have kept : provider ∈
        service.list.providers.filter fun provider => provider.id == backend.id :=
      List.mem_filter.mpr ⟨entry, beq_iff_eq.mpr same⟩
    rw [own] at kept
    cases heard : (service.hear backend).outcome with
    | error error =>
      rw [heard] at kept
      cases kept
    | ok described => exact ⟨described, rfl⟩
  · rintro ⟨described, heard⟩
    rw [heard] at own
    have kept : rename backend.id described ∈
        service.list.providers.filter fun provider => provider.id == backend.id := by
      rw [own]
      exact List.mem_singleton.mpr rfl
    exact List.mem_map.mpr ⟨_, (List.mem_filter.mp kept).1, rfl⟩

/-- A listing takes as long as the slowest of its lookups, of which none takes longer than
the deadline, and nothing when there are no backends.  The lookups polled tick by tick are
all over exactly from the last tick of the listing on, and then each has heard what the
listing hears.  A backend is listed if it describes itself by the deadline, at the very
tick of it included, and not if it takes longer.  The clock knows whole milliseconds only,
so the deadline takes effect at the first of them that is not before it. -/
theorem ticks_list_exact (service : Service) :
    (service.list.ticks : ℕ∞) =
      (⨆ backend ∈ service.registry.backends,
        min (delay backend.info) service.deadline.ticks) ∧
    service.list.ticks ≤ service.deadline.ticks ∧
    (∀ tick, service.Joined tick ↔ service.list.ticks ≤ tick) ∧
    (service.lookups service.list.ticks =
      service.registry.backends.map fun backend => (backend, .ended (service.hear backend))) ∧
    (∀ backend ∈ service.registry.backends,
      backend.id ∈ service.list.providers.map Provider.id ↔
        ∃ ticks provider events,
          backend.info = .after ticks (.ok provider) events ∧ ticks ≤ service.deadline.ticks) ∧
    (∀ tick, service.deadline.ticks ≤ tick ↔ service.deadline.micros ≤ tick * 1000) := by
  refine ⟨service.ticks_list_eq_iSup, service.ticks_list_le, service.joined_iff,
    lookups_of_joined ((service.joined_iff _).mpr (Nat.le_refl _)), ?_,
    service.deadline.ticks_le_iff⟩
  intro backend member
  rw [id_mem_list_iff member]
  exact exists_comm

/-- With a deadline between two ticks a backend is listed that takes longer, and so does
the listing. -/
theorem list_outlasts_deadline :
    let service : Service :=
      ⟨⟨[misnamed "tezos" 5], by decide⟩, (Timeout.ofMillis 6).fourFifths⟩
    (delay (misnamed "tezos" 5).info = 5 ∧ service.deadline.micros < 5 * 1000) ∧
      service.deadline.micros < service.list.ticks * 1000 ∧
      service.list.providers.map Provider.id = ["tezos"] := by
  intro service
  refine ⟨⟨rfl, by decide⟩, by decide, ?_⟩
  have entries : service.registry.backends.filterMap service.listed? =
      [⟨"tezos", ⟨"elsewhere", "", "", ""⟩, .staking, []⟩] := by
    simp [service, listed?, misnamed, Timeout.ticks, Timeout.fourFifths, Timeout.ofMillis]
  rw [list_providers_eq, entries, Registry.sortBy, List.mergeSort_singleton]
  rfl

end Service
end LendingGateway
