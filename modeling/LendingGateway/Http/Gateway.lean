import LendingGateway.Http.Body
import LendingGateway.Http.CrossOrigin
import LendingGateway.Http.Documentation
import LendingGateway.Http.Route
import LendingGateway.Http.Status
import LendingGateway.Http.Target
import LendingGateway.Service.Basic

namespace LendingGateway
namespace Http

open Lending Backend

/-!
# The gateway over HTTP

A request is routed, its body is read, and its query is put to the service.  Around
that stand three rules for every response: it says which origins may read it, it
carries the identifier of its request, and it comes before the request times out or not
at all.
-/

/-! ## Responses -/

def emptyResponse (status : Nat) : Response :=
  ⟨status, [], ""⟩

def textResponse (status : Nat) (text : String) : Response :=
  ⟨status, [("content-type", "text/plain; charset=utf-8")], text⟩

def jsonResponse (status : Nat) (tree : Json.Tree) : Response :=
  ⟨status, [("content-type", "application/json")], tree.render⟩

/-- A response that holds what a query yields. -/
def docsResponse {α : Type} [Json.Wire α] (docs : α) : Response :=
  jsonResponse 200 (Json.Wire.tree (Envelope.mk docs))

/-- Why an operation fails. -/
inductive Failure where
  | query (error : QueryError)
  | badRequest (reason : String)
deriving DecidableEq

def queryStatus : QueryError → Nat
  | .unknownProvider _ => 404
  | .invalidAsset .. | .invalidAddress .. => 400
  | .unavailable .. => 502

namespace Failure

def ofBody (error : BodyError) : Failure :=
  .badRequest ("Invalid request: " ++ error.message)

def status : Failure → Nat
  | .query error => queryStatus error
  | .badRequest _ => 400

def message : Failure → String
  | .query error => error.message
  | .badRequest reason => reason

def response (error : Failure) : Response :=
  jsonResponse error.status <|
    .object [("code", .number (.integer error.status)), ("message", .text error.message)]

/-- The events of a failure: only those that the gateway is to blame for are told. -/
def events (error : Failure) : List Log.Event :=
  if isServerError error.status then
    [⟨.warn, "lendgate_server::error",
      "Request failed with " ++ describeStatus error.status ++ ": " ++ error.message⟩]
  else []

end Failure

/-! ## Operations -/

/-- A finished operation: after how many milliseconds, with which response and events. -/
structure Finished where
  ticks : Nat
  response : Response
  events : List Log.Event

/-- An operation: how it finishes, if ever, and the calls made for it. -/
structure Operation where
  finished : Option Finished
  calls : List Service.Call

/-- An operation that makes no calls and takes no time. -/
def Operation.immediate (response : Response) : Operation :=
  ⟨some ⟨0, response, []⟩, []⟩

/-- An operation that fails before any call. -/
def Operation.failed (error : Failure) : Operation :=
  ⟨some ⟨0, error.response, error.events⟩, []⟩

/-- The operation that hands out the answer to a query. -/
def Operation.ofAsked {α : Type} [Json.Wire α] (asked : Service.Asked α) : Operation where
  calls := asked.calls
  finished :=
    match asked.reply with
    | .never => none
    | .after ticks (.ok value) events => some ⟨ticks, docsResponse value, events⟩
    | .after ticks (.error error) events =>
      some ⟨ticks, (Failure.query error).response, events ++ (Failure.query error).events⟩

def Operation.ofListing (listing : Service.Listing) : Operation :=
  ⟨some ⟨listing.ticks, docsResponse listing.providers, listing.events⟩, listing.calls⟩

/-- The operation on one provider: its segment is decoded first, then the body. -/
def operationOn {α β : Type} [Json.Wire α] [Json.Wire β] (segment : String)
    (request : Request) (query : String → α → Service.Asked β) : Operation :=
  match decodeSegment? segment with
  | none => .immediate (textResponse 400 "Invalid URL: Invalid UTF-8 in `provider`")
  | some provider =>
    match readBody α request with
    | .error error => .failed (.ofBody error)
    | .ok value => .ofAsked (query provider value)

def operation (service : Service) (request : Request) : Route → Operation
  | .alive | .ready => .immediate (textResponse 200 "ok")
  | .providers => .ofListing service.list
  | .rates segment => operationOn segment request service.rates
  | .account segment => operationOn segment request service.accounts
  | .documentation => .immediate (jsonResponse 200 documentation)

/-- A response as it answers the method of a request: the headers alone for HEAD. -/
def Response.trimFor (method : String) (response : Response) : Response :=
  if method = "HEAD" then { response with body := "" } else response

/-- What becomes of a request inside the rules for every response. -/
def dispatch (service : Service) (request : Request) : Operation :=
  let route? := Route.ofPath? request.path
  if request.method = "OPTIONS" then
    .immediate ⟨200, route?.toList.map fun route => ("allow", route.allow), ""⟩
  else
    match route? with
    | none => .immediate (emptyResponse 404)
    | some route =>
      if route.accepts request.method then
        let operation := operation service request route
        { operation with
          finished := operation.finished.map fun finished =>
            { finished with response := finished.response.trimFor request.method } }
      else .immediate ⟨405, [("allow", route.allow)], ""⟩

/-! ## The gateway -/

def requestIdHeader : String := "x-request-id"

/-- The gateway: a service, the origins it allows, and how long a request may take. -/
structure Gateway where
  service : Service
  origins : OriginPolicy
  timeout : Timeout

/-- How long a listing waits for each backend: four fifths of what a request may take. -/
def listingDeadline (timeout : Timeout) : Timeout :=
  timeout.fourFifths

/-- The gateway of a registry, of a list of origins and of a timeout. -/
def Gateway.make (registry : Registry) (origins : List String) (timeout : Timeout) : Gateway :=
  ⟨⟨registry, listingDeadline timeout⟩, .ofList origins, timeout⟩

/-- What serving a request leads to. -/
structure Served where
  response : Response
  calls : List Service.Call
  events : List Log.Event

/-- The response to a request that has taken too long. -/
def timedOut : Response :=
  emptyResponse 408

/-- A response with the headers that every response in time has. -/
def Gateway.complete (gateway : Gateway) (request : Request) (response : Response) : Response :=
  { response with
    headers := response.headers ++ gateway.origins.headers request
      ++ ((header? requestIdHeader request.headers).toList.map fun id => (requestIdHeader, id)) }

/-- Serve a request.  Its time is looked at before its operation, so an operation that
finishes only when the time is up comes too late. -/
def Gateway.serve (gateway : Gateway) (request : Request) : Served :=
  if gateway.timeout.ticks = 0 then ⟨timedOut, [], []⟩
  else
    let operation := dispatch gateway.service request
    match operation.finished with
    | some finished =>
      if finished.ticks < gateway.timeout.ticks then
        ⟨gateway.complete request finished.response, operation.calls, finished.events⟩
      else ⟨timedOut, operation.calls, []⟩
    | none => ⟨timedOut, operation.calls, []⟩

end Http
end LendingGateway
