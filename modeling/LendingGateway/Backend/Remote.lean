import LendingGateway.Backend.Basic
import LendingGateway.Http.Status
import LendingGateway.Http.Target
import LendingGateway.Registry.AssemblyError
import LendingGateway.Text.Blank
import LendingGateway.Web.Exchange

namespace LendingGateway
namespace Backend

open Lending Registry Web

/-!
# Remote providers

A remote provider is answered for by another gateway, which is asked over the web in
the gateway's own document forms.  Requests are passed on as they are.  A status of 400
means that the other gateway blames the request; everything else that goes wrong means
that the provider is unavailable.
-/

/-- A provider that another gateway answers for. -/
structure Remote where
  id : String
  /-- The web address below which the other gateway answers, without a slash at its end. -/
  baseUrl : String
  /-- How many milliseconds an answer may take. -/
  timeout : Nat

/-- The timeout of a remote provider when none is given. -/
def defaultTimeout : Nat := 10000

namespace Remote

def make (id baseUrl : String) (timeout : Nat) : Except EntryError Remote :=
  let base := Text.trimEnd '/' baseUrl
  if Text.isBlank id then .error .blankRemoteId
  else if (Url.read? base).isSome then .ok ⟨id, base, timeout⟩
  else .error (.unusableBaseUrl id base)

def endpoint (remote : Remote) (name : String) : String :=
  remote.baseUrl ++ "/" ++ name

/-- Whether requests can be sent to a web address.  The host of an address may hold
characters that the target of a request may not. -/
def isTarget (url : Url) : Bool :=
  url.host.render.toList.all Http.isAuthorityChar
    && url.withoutUser.render.utf8ByteSize ≤ Http.targetLimit

/-- Why no answer can be used. -/
inductive Failure where
  /-- The address of the endpoint is no web address. -/
  | noAddress
  /-- No request can be sent to the address of the endpoint. -/
  | noTarget (url : Url)
  | noAnswer (url : Url)
  /-- The body could not be read, or not as what it should be. -/
  | badBody

def Failure.message : Failure → String
  | .noAddress => "builder error"
  | .noTarget url => "builder error for url (" ++ url.withoutUser.render ++ ")"
  | .noAnswer url => "error sending request for url (" ++ url.withoutUser.render ++ ")"
  | .badBody => "error decoding response body"

def event (level : Log.Level) (message : String) : Log.Event :=
  ⟨level, "lendgate_lending::provider::remote", message⟩

/-- The events and the outcome when there is no answer. -/
def unanswered {α : Type} (remote : Remote) (failure : Failure) :
    Except QueryError α × List Log.Event :=
  (.error (.unavailable remote.id failure.message),
    [event .warn ("Provider '" ++ remote.id ++ "' request failed: " ++ failure.message)])

def answeredEvent (remote : Remote) (status : Nat) : Log.Event :=
  event .debug ("Provider '" ++ remote.id ++ "' responded with " ++ Http.describeStatus status)

/-- The events and the outcome of an answer. -/
def judge {α : Type} (remote : Remote) (rejected : String → QueryError)
    (decode : List UInt8 → Option α) (received : Received) :
    Except QueryError α × List Log.Event :=
  let answered := remote.answeredEvent received.status
  let unavailable (reason : String) : Except QueryError α :=
    .error (.unavailable remote.id reason)
  if received.status = 400 then
    if received.complete then (.error (rejected (Text.ofOctetsLossy received.body)), [answered])
    else
      (unavailable Failure.badBody.message,
        [answered, event .warn ("Provider '" ++ remote.id
          ++ "' rejected the request with an unreadable body: " ++ Failure.badBody.message)])
  else if Http.isSuccess received.status then
    match if received.complete then decode received.body else none with
    | some value => (.ok value, [answered])
    | none => (unavailable Failure.badBody.message, [answered])
  else
    (unavailable ("upstream returned HTTP " ++ toString received.status), [answered])

/-- Send a request and wait for its answer no longer than allowed. -/
def fetch {α : Type} (remote : Remote) (transport : Transport) (name : String)
    (request : Url → Outgoing) (rejected : String → QueryError)
    (decode : List UInt8 → Option α) : Reply α :=
  match Url.read? (remote.endpoint name) with
  | none =>
    let (outcome, events) := remote.unanswered .noAddress
    .atOnce outcome events
  | some url =>
    if isTarget url then
      let (ticks, outcome, events) :=
        match transport (request url) with
        | .answered ticks received =>
          if ticks ≤ remote.timeout then (ticks, remote.judge rejected decode received)
          else (remote.timeout, remote.unanswered (.noAnswer url))
        | .broken ticks => (min ticks remote.timeout, remote.unanswered (.noAnswer url))
        | .silent => (remote.timeout, remote.unanswered (.noAnswer url))
      .after ticks outcome events
    else
      let (outcome, events) := remote.unanswered (.noTarget url)
      .atOnce outcome events

def decodeBody (α : Type) [Json.Wire α] (body : List UInt8) : Option α :=
  (Json.Wire.decode α body).toOption

def toBackend (remote : Remote) (transport : Transport) : Backend where
  id := remote.id
  info := remote.fetch transport "info" .get
    (fun body => .unavailable remote.id ("upstream rejected info request: " ++ body))
    (decodeBody Provider)
  rates symbols := remote.fetch transport "rates"
    (fun url => .post url (Json.Wire.encode (RatesQuery.mk symbols)))
    (.invalidAsset remote.id) (decodeBody (List Rate))
  accounts request := remote.fetch transport "account"
    (fun url => .post url (Json.Wire.encode request))
    (.invalidAddress remote.id) (decodeBody (List Account))

end Remote

end Backend
end LendingGateway
