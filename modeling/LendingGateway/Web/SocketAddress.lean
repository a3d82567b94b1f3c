import LendingGateway.Web.Ip

namespace LendingGateway
namespace Web

/-!
# Socket addresses

A socket address is an internet address and a port.  A version 6 address stands in
brackets and may have a scope, which is a number that is written only if it is not zero.
-/

/-- An internet address with a port. -/
inductive SocketAddress where
  | ipv4 (octets : List Nat) (port : Nat)
  | ipv6 (groups : List Nat) (scope port : Nat)
deriving DecidableEq, Repr

def SocketAddress.port : SocketAddress → Nat
  | .ipv4 _ port | .ipv6 _ _ port => port

/-- The port after a colon. -/
def readPortPart? : List Char → Option Nat
  | ':' :: digits => Text.readBounded? UInt16.size digits
  | _ => none

/-- A version 6 address with its scope, if that is given. -/
def readScoped? (text : List Char) : Option (List Nat × Nat) := do
  let groups ← readIpv6? (text.takeWhile (· != '%'))
  match text.dropWhile (· != '%') with
  | [] => some (groups, 0)
  | _ :: digits => do
    let scope ← Text.readBounded? UInt32.size digits
    some (groups, scope)

def SocketAddress.read? (text : String) : Option SocketAddress :=
  match text.toList with
  | '[' :: rest => do
    let (groups, scope) ← readScoped? (rest.takeWhile (· != ']'))
    let port ← readPortPart? ((rest.dropWhile (· != ']')).drop 1)
    some (.ipv6 groups scope port)
  | chars => do
    let octets ← readIpv4? (chars.takeWhile (· != ':'))
    let port ← readPortPart? (chars.dropWhile (· != ':'))
    some (.ipv4 octets port)

/-- A version 6 address; one that stands for a version 4 address is written as that. -/
def writeMapped : List Nat → String
  | [0, 0, 0, 0, 0, 0xffff, high, low] =>
    "::ffff:" ++ writeIpv4 [high / 256, high % 256, low / 256, low % 256]
  | groups => writeIpv6 groups

def SocketAddress.render : SocketAddress → String
  | .ipv4 octets port => writeIpv4 octets ++ ":" ++ toString port
  | .ipv6 groups scope port =>
    "[" ++ writeMapped groups ++ (if scope = 0 then "" else "%" ++ toString scope) ++ "]:"
      ++ toString port

end Web
end LendingGateway
