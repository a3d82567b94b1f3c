import LendingGateway.Text.Percent
import LendingGateway.Text.Utf8
import LendingGateway.Web.Ip
import LendingGateway.Web.Label

namespace LendingGateway
namespace Web

/-!
# Hosts

The host of a web address is a name or an internet address.  A name whose last part is
a number is always read as a version 4 address, in which parts may be missing and may
be given to other bases, or it is no host at all.
-/

inductive Host where
  | name (text : String)
  | ipv4 (octets : List Nat)
  | ipv6 (groups : List Nat)
deriving DecidableEq, Repr

def Host.render : Host → String
  | .name text => text
  | .ipv4 octets => writeIpv4 octets
  | .ipv6 groups => "[" ++ writeIpv6 groups ++ "]"

/-! ## Numbers -/

/-- The base that the digits of a part are given to, and the digits themselves. -/
def splitBase : List Char → Nat × List Char
  | '0' :: 'x' :: digits | '0' :: 'X' :: digits => (16, digits)
  | '0' :: c :: digits => (8, c :: digits)
  | digits => (10, digits)

/-- The number that a part of a version 4 address is. -/
def readPart? (part : List Char) : Option Nat :=
  if part.isEmpty then none
  else
    let (base, digits) := splitBase part
    Text.digitsValue? base digits

/-- Whether the last part of a name is a number, so that the name has to be a version 4
address.  An empty part at the very end does not count as the last one. -/
def endsInNumber (parts : List (List Char)) : Bool :=
  match parts.reverse with
  | [] :: last :: _ | last :: _ =>
    (!last.isEmpty && last.all Char.isDigit) || (readPart? last).isSome
  | [] => false

/-- The octets of a version 4 address as a single number. -/
def octetsOf (address : Nat) : List Nat :=
  [address / 0x1000000 % 256, address / 0x10000 % 256, address / 0x100 % 256, address % 256]

/-- A version 4 address of up to four numbers.  The last one fills all the octets that
the others leave. -/
def readLooseIpv4? (parts : List (List Char)) : Option Host := do
  let parts := if parts.getLast? = some [] then parts.dropLast else parts
  if 4 < parts.length then none
  else
    let numbers ← parts.mapM readPart?
    let leading := numbers.dropLast
    let last ← numbers.getLast?
    if leading.all (· < 256) && last < Nat.pow 256 (4 - leading.length) then
      let address := leading.zipIdx.foldl
        (fun address (number, place) => address + number * Nat.pow 256 (3 - place)) last
      some (.ipv4 (octetsOf address))
    else none

/-! ## Names -/

/-- The labels in ASCII of a name in which octets may be given by their numbers. -/
def readName? (text : List Char) : Option (List (List Char)) := do
  let name ← Text.ofOctets? (Text.percentDecode (Text.octets (String.ofList text)))
  (readLabels? name.toList).map (·.map Label.ascii)

def Host.read? (text : List Char) : Option Host :=
  match text with
  | '[' :: inner =>
    if inner.getLast? = some ']' then (readIpv6? inner.dropLast).map .ipv6 else none
  | _ => do
    let labels ← readName? text
    if labels.all List.isEmpty && labels.length ≤ 1 then none
    else if endsInNumber labels then readLooseIpv4? labels
    else some (.name (String.ofList (List.intercalate ['.'] labels)))

end Web
end LendingGateway
