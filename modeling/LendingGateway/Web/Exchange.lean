import LendingGateway.Web.Url

namespace LendingGateway
namespace Web

/-!
# Exchanges with another gateway

A request is sent to a web address and something comes back, or nothing does.  How the
network behaves is left open: it is a function from requests to what becomes of them.
-/

/-- A request to another gateway. -/
inductive Outgoing where
  | get (url : Url)
  /-- The body is a document. -/
  | post (url : Url) (body : String)

def Outgoing.url : Outgoing → Url
  | .get url | .post url _ => url

/-- What came back: a status and a body, of which the end may be missing. -/
structure Received where
  status : Nat
  body : List UInt8
  complete : Bool

/-- What becomes of a request.  Time is counted in whole milliseconds. -/
inductive Exchange where
  | answered (ticks : Nat) (received : Received)
  /-- The connection fails or ends before there is an answer. -/
  | broken (ticks : Nat)
  /-- Nothing ever happens. -/
  | silent

/-- A network. -/
abbrev Transport := Outgoing → Exchange

end Web
end LendingGateway
