import LendingGateway.Text.AsciiCase
import LendingGateway.Text.Utf8

namespace LendingGateway
namespace Http

/-!
# Requests and responses

A request has a method, a path, headers and a body.  Names of headers are compared up to
ASCII case, and of several headers of one name the first one counts.
-/

/-- A header: its name and its value. -/
abbrev Header := String × String

def header? (name : String) (headers : List Header) : Option String :=
  (headers.find? fun header => Text.sameFold header.1 name).map Prod.snd

/-- A body as it arrives: octets, and what keeps the rest from arriving, if anything does. -/
structure Body where
  octets : List UInt8
  broken : Option String

/-- A request.  The path is still percent-encoded. -/
structure Request where
  method : String
  path : String
  headers : List Header
  body : Body

structure Response where
  status : Nat
  headers : List Header
  body : String
deriving DecidableEq

/-! ## Characters -/

/-- Whether a character may stand in a token, such as a method or the name of a header. -/
def isTokenChar (c : Char) : Bool :=
  c.isAlphanum || "!#$%&'*+-.^_`|~".toList.contains c

def isToken (text : String) : Bool :=
  text ≠ "" && text.toList.all isTokenChar

def isHeaderValue (text : String) : Bool :=
  text.toList.all fun c => c == '\t' || (0x20 ≤ c.toNat && c != '\x7f')

end Http
end LendingGateway
