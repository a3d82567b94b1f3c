import LendingGateway.Lending.Account
import LendingGateway.Lending.Provider
import LendingGateway.Lending.Query
import LendingGateway.Lending.QueryError
import LendingGateway.Log.Event

namespace LendingGateway
namespace Backend

open Lending

/-!
# Backends

A backend answers the three queries about one provider.  What it answers to a question
is a fixed fact about it, so everything the gateway does can be said as a function of
the answers: their outcome, the time they take and the events on the way.
-/

/-- An answer to one question.  Time is counted in whole milliseconds. -/
inductive Reply (α : Type) where
  | after (ticks : Nat) (outcome : Except QueryError α) (events : List Log.Event)
  /-- There is no answer, however long one waits. -/
  | never

def Reply.atOnce {α : Type} (outcome : Except QueryError α) (events : List Log.Event) :
    Reply α :=
  .after 0 outcome events

/-- A reply has an outcome at some time. -/
def Reply.Gives {α : Type} (reply : Reply α) (outcome : Except QueryError α) : Prop :=
  ∃ ticks events, reply = .after ticks outcome events

theorem Reply.gives_after_iff {α : Type} {ticks : Nat} {outcome other : Except QueryError α}
    {events : List Log.Event} :
    (Reply.after ticks outcome events).Gives other ↔ other = outcome := by
  constructor
  · rintro ⟨_, _, ⟨⟩⟩
    rfl
  · rintro rfl
    exact ⟨ticks, events, rfl⟩

end Backend

/-- Something that answers the queries about one provider. -/
structure Backend where
  id : String
  /-- The provider's description of itself. -/
  info : Backend.Reply Lending.Provider
  /-- The rates of some assets, or of all when none are named. -/
  rates : List String → Backend.Reply (List Lending.Rate)
  /-- The deposits of some addresses. -/
  accounts : Lending.AccountsQuery → Backend.Reply (List Lending.Account)

namespace Backend

open Lending

/-- What can be asked of a backend, by what it yields. -/
inductive Query : Type → Type where
  | info : Query Provider
  | rates (request : RatesQuery) : Query (List Rate)
  | accounts (request : AccountsQuery) : Query (List Account)

def answer {α : Type} (backend : Backend) : Query α → Reply α
  | .info => backend.info
  | .rates request => backend.rates request.assets
  | .accounts request => backend.accounts request

/-- A backend that never answers anything. -/
def mute (id : String) : Backend where
  id := id
  info := .never
  rates _ := .never
  accounts _ := .never

end Backend

end LendingGateway
