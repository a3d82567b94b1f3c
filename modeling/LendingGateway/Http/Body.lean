import LendingGateway.Http.MediaType
import LendingGateway.Json.Wire

namespace LendingGateway
namespace Http

/-!
# Bodies of requests

The body of a request must be declared as a document, must not be too long, must arrive as a
whole, and must be a document of the right shape, in this order.
-/

/-- Why a body is refused. -/
inductive BodyError where
  | undeclared
  | tooLong
  /-- The body breaks off. -/
  | unreadable (reason : String)
  | malformed (fault : Json.Fault)

def BodyError.message : BodyError → String
  | .undeclared => "Expected request with `Content-Type: application/json`"
  | .tooLong => "Failed to buffer the request body: length limit exceeded"
  | .unreadable reason => "Failed to buffer the request body: " ++ reason
  | .malformed fault =>
    match fault.cause.category with
    | .mismatch =>
      "Failed to deserialize the JSON body into the target type: " ++ fault.placed
    | .malformed | .truncated =>
      "Failed to parse the request body as JSON: " ++ fault.placed

/-- The longest body in octets. -/
def bodyLimit : Nat := 2097152

def declaresJson (request : Request) : Bool :=
  ((header? "content-type" request.headers).bind MediaType.read?).any MediaType.isJson

def readBody (α : Type) [Json.Wire α] (request : Request) : Except BodyError α :=
  if !declaresJson request then .error .undeclared
  else if bodyLimit < request.body.octets.length then .error .tooLong
  else
    match request.body.broken with
    | some reason => .error (.unreadable reason)
    | none =>
      match Json.Wire.decode α request.body.octets with
      | .ok value => .ok value
      | .error fault => .error (.malformed fault)

end Http
end LendingGateway
