import LendingGateway.Http.Message
import LendingGateway.Text.Percent
import LendingGateway.Text.Split

namespace LendingGateway
namespace Http

/-!
# Routes

A path names an operation exactly: no segment may be missing, empty or in excess.  Two
operations take the identifier of a provider as their last segment, percent-encoded.
-/

/-- The operations of the gateway. -/
inductive Route where
  | alive
  | ready
  | providers
  /-- The rates of a provider; the segment is still percent-encoded. -/
  | rates (segment : String)
  /-- The deposits at a provider; the segment is still percent-encoded. -/
  | account (segment : String)
  | documentation
deriving DecidableEq, Repr

def Route.ofPath? (path : String) : Option Route :=
  match (Text.splitAt '/' path.toList).map String.ofList with
  | ["", "api", "v1", "healthz"] => some .alive
  | ["", "api", "v1", "readyz"] => some .ready
  | ["", "api", "v1", "lending", "providers"] => some .providers
  | ["", "api", "v1", "lending", "rates", segment] =>
    if segment = "" then none else some (.rates segment)
  | ["", "api", "v1", "lending", "account", segment] =>
    if segment = "" then none else some (.account segment)
  | ["", "openapi.json"] => some .documentation
  | _ => none

def Route.takesBody : Route → Bool
  | .rates _ | .account _ => true
  | .alive | .ready | .providers | .documentation => false

/-- The methods of an operation, as they are told to the caller. -/
def Route.allow (route : Route) : String :=
  if route.takesBody then "POST" else "GET,HEAD"

def Route.accepts (route : Route) (method : String) : Bool :=
  if route.takesBody then method == "POST" else method == "GET" || method == "HEAD"

def decodeSegment? (segment : String) : Option String :=
  Text.ofOctets? (Text.percentDecode (Text.octets segment))

/-- The segment of an identifier, with every octet percent-encoded. -/
def encodeSegment (id : String) : String :=
  String.ofList ((Text.percentEncode (Text.octets id)).map fun octet => Char.ofNat octet.toNat)

end Http
end LendingGateway
