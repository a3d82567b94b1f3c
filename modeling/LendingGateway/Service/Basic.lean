import LendingGateway.Registry.Basic
import LendingGateway.Service.Timeout

namespace LendingGateway

open Lending Backend

/-!
# The service

The service puts queries to the backends of a registry.  A listing asks every backend at
once and keeps whatever comes in time; the other queries go to the one backend they
name and pass its answer on.
-/

/-- The registry, and how long a listing waits for each backend. -/
structure Service where
  registry : Registry
  deadline : Timeout

namespace Service

/-- How long a listing waits when nothing else is said. -/
def defaultDeadline : Timeout := .ofMillis 10000

/-- The questions that a backend can be asked. -/
inductive Question where
  | info
  | rates
  | accounts
deriving DecidableEq, Repr

/-- A question put to a backend. -/
structure Call where
  provider : String
  question : Question
deriving DecidableEq, Repr

/-- What comes of asking: the reply, and the calls that were made for it. -/
structure Asked (α : Type) where
  reply : Reply α
  calls : List Call

def Question.ofQuery {α : Type} : Query α → Question
  | .info => .info
  | .rates _ => .rates
  | .accounts _ => .accounts

/-- Put a query to a backend.  The service has no other way to a reply, and each way to one
is a call. -/
def put {α : Type} (backend : Backend) (query : Query α) : Asked α :=
  ⟨backend.answer query, [⟨backend.id, .ofQuery query⟩]⟩

def event (level : Log.Level) (message : String) : Log.Event :=
  ⟨level, "lendgate_lending::service", message⟩

/-! ## Listing -/

/-- What a listing hears from one backend: when, with which outcome, with which events on the
way, and by which calls. -/
structure Hearing where
  ticks : Nat
  outcome : Except QueryError Provider
  events : List Log.Event
  calls : List Call

/-- The error of a backend that misses the deadline. -/
def lateError (service : Service) (id : String) : QueryError :=
  .unavailable id ("no answer within " ++ toString service.deadline.millis ++ " ms")

/-- What a listing hears of a backend that has been asked.  An answer at the very deadline is in
time. -/
def heed (service : Service) (id : String) (asked : Asked Provider) : Hearing :=
  let late : Hearing :=
    ⟨service.deadline.ticks, .error (service.lateError id), [], asked.calls⟩
  match asked.reply with
  | .after ticks outcome events =>
    if ticks ≤ service.deadline.ticks then ⟨ticks, outcome, events, asked.calls⟩ else late
  | .never => late

/-- A listing asks a backend to describe itself. -/
def hear (service : Service) (backend : Backend) : Hearing :=
  service.heed backend.id (put backend .info)

/-- The entry of a provider under the identifier it is registered by. -/
def rename (id : String) (provider : Provider) : Provider :=
  { provider with id := id }

/-- The events of a backend's part in a listing. -/
def hearingEvents (id : String) : Except QueryError Provider → List Log.Event
  | .ok provider =>
    if provider.id = id then []
    else
      [event .warn ("Provider registered as '" ++ id ++ "' describes itself as '" ++ provider.id
        ++ "', listing it as '" ++ id ++ "'")]
  | .error error =>
    [event .warn ("Skipping provider '" ++ id ++ "' in listing: " ++ error.message)]

/-- A listing of the providers. -/
structure Listing where
  providers : List Provider
  /-- How many milliseconds it took. -/
  ticks : Nat
  calls : List Call
  events : List Log.Event

def listedEvent (listed registered : Nat) : Log.Event :=
  event .debug ("Listed " ++ toString listed ++ " of " ++ toString registered ++ " providers")

/-- The entries of a listing, before they are sorted. -/
def entries (service : Service) : List Provider :=
  service.registry.backends.filterMap fun backend =>
    (service.hear backend).outcome.toOption.map (rename backend.id)

/-- List every provider whose backend describes it in time, by ascending identifier. -/
def list (service : Service) : Listing :=
  let backends := service.registry.backends
  let providers := Registry.sortBy Provider.id service.entries
  { providers
    ticks := (backends.map fun backend => (service.hear backend).ticks).foldl max 0
    calls := backends.flatMap fun backend => (service.hear backend).calls
    events := backends.flatMap (fun backend => (service.hear backend).events)
      ++ backends.flatMap (fun backend =>
        hearingEvents backend.id (service.hear backend).outcome)
      ++ [listedEvent providers.length backends.length] }

/-! ## Queries to one backend -/

def unknownEvent (id : String) : Log.Event :=
  event .debug ("Lending query for unknown provider '" ++ id ++ "'")

/-- Put a query to the backend registered under an identifier. -/
def ask {α : Type} (service : Service) (id : String) (query : Query α) : Asked α :=
  match service.registry.get? id with
  | some backend => put backend query
  | none => ⟨.atOnce (.error (.unknownProvider id)) [unknownEvent id], []⟩

def rates (service : Service) (id : String) (request : RatesQuery) : Asked (List Rate) :=
  service.ask id (.rates request)

def accounts (service : Service) (id : String) (request : AccountsQuery) :
    Asked (List Account) :=
  service.ask id (.accounts request)

/-- A registered provider's description of itself, without any deadline. -/
def info? (service : Service) (id : String) : Option (Asked Provider) :=
  (service.registry.get? id).map fun backend => put backend .info

end Service
end LendingGateway
