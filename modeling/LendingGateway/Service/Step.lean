import LendingGateway.Service.Basic

namespace LendingGateway
namespace Service

open Lending Backend

/-!
# Runs of the service

A run is a sequence of steps.  No step leaves anything behind in the service, so what a
run does to the backends is the sequence of the calls that its steps make.
-/

/-- One use of the service. -/
inductive Step where
  | list
  | rates (provider : String) (request : RatesQuery)
  | accounts (provider : String) (request : AccountsQuery)
  | info (provider : String)

inductive Result where
  | listed (listing : Listing)
  | rates (asked : Asked (List Rate))
  | accounts (asked : Asked (List Account))
  | info (asked : Asked Provider)
  /-- There is no backend to be asked about itself. -/
  | nobody

def perform (service : Service) : Step → Result
  | .list => .listed service.list
  | .rates provider request => .rates (service.rates provider request)
  | .accounts provider request => .accounts (service.accounts provider request)
  | .info provider =>
    match service.info? provider with
    | some asked => .info asked
    | none => .nobody

def Result.calls : Result → List Call
  | .listed listing => listing.calls
  | .rates asked => asked.calls
  | .accounts asked => asked.calls
  | .info asked => asked.calls
  | .nobody => []

end Service
end LendingGateway
