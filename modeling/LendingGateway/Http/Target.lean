import LendingGateway.Http.Message

namespace LendingGateway
namespace Http

/-!
# Targets of requests

A request names its target in one of four forms: a path with an optional query, a whole
web address, a host alone, or a star.  Only the path matters to the gateway, but the
target has to be well formed as a whole, or the request cannot be made.
-/

/-- What keeps a request from being made. -/
inductive RequestError where
  | badMethod
  | emptyTarget
  | longTarget
  | badTargetChar
  | badAuthority
  | longScheme
  | badFormat
  | badHeaderName
  | badHeaderValue
deriving DecidableEq, Repr

def RequestError.message : RequestError → String
  | .badMethod => "invalid HTTP method"
  | .emptyTarget => "empty string"
  | .longTarget => "uri too long"
  | .badTargetChar => "invalid uri character"
  | .badAuthority => "invalid authority"
  | .longScheme => "scheme too long"
  | .badFormat => "invalid format"
  | .badHeaderName => "invalid HTTP header name"
  | .badHeaderValue => "failed to parse header value"

/-! ## Paths -/

def isPathChar (c : Char) : Bool :=
  0x80 ≤ c.toNat || c == '!' || ('$' ≤ c && c ≤ ';') || c == '=' || ('@' ≤ c && c ≤ '_')
    || ('a' ≤ c && c ≤ 'z') || "|~\"\x7b\x7d".toList.contains c

def isQueryChar (c : Char) : Bool :=
  0x80 ≤ c.toNat || c == '!' || ('$' ≤ c && c ≤ ';') || c == '=' || ('?' ≤ c && c ≤ '~')

/-- The path of a path and query; an empty path is the root. -/
def readPathAndQuery (text : List Char) : Except RequestError String :=
  let kept := text.takeWhile (· != '#')
  let path := kept.takeWhile (· != '?')
  let query := (kept.dropWhile (· != '?')).drop 1
  if path.all isPathChar && query.all isQueryChar then
    .ok (if path.isEmpty then "/" else String.ofList path)
  else .error .badTargetChar

/-! ## Whole addresses -/

/-- The longest name of a scheme. -/
def schemeLimit : Nat := 64

def isSchemeChar (c : Char) : Bool :=
  c.isAlphanum || c == '+' || c == '-' || c == '.' || c == '~'

/-- What follows the scheme and the slashes after it, if there is a scheme.  Its name may
be empty unless nothing follows either. -/
def dropScheme? (text : List Char) : Except RequestError (Option (List Char)) :=
  let name := text.takeWhile isSchemeChar
  match text.dropWhile isSchemeChar with
  | ':' :: '/' :: '/' :: rest =>
    if name.isEmpty && rest.isEmpty then .ok none
    else if schemeLimit < name.length then .error .longScheme
    else .ok (some rest)
  | _ => .ok none

/-- Whether a character may stand in the part of an address that names the host. -/
def isAuthorityChar (c : Char) : Bool :=
  c.isAlphanum || "!$&'()*+,-.:;=@[]_~%".toList.contains c

/-- What has been seen of the part that names the host: colons that may stand before a
port, whether brackets were opened and closed, and whether there is a percent sign. -/
structure AuthorityScan where
  colons : Nat := 0
  opened : Bool := false
  closed : Bool := false
  percent : Bool := false

def AuthorityScan.step (scan : AuthorityScan) (c : Char) : Except RequestError AuthorityScan :=
  if !isAuthorityChar c then .error .badTargetChar
  else if c = ':' then
    if 8 ≤ scan.colons then .error .badAuthority
    else .ok { scan with colons := scan.colons + 1 }
  else if c = '[' then
    if scan.percent || scan.opened then .error .badAuthority
    else .ok { scan with opened := true }
  else if c = ']' then
    if !scan.opened || scan.closed then .error .badAuthority
    else .ok { scan with closed := true, colons := 0, percent := false }
  else if c = '@' then .ok { scan with colons := 0, percent := false }
  else if c = '%' then .ok { scan with percent := true }
  else .ok scan

def checkAuthority (authority : List Char) : Except RequestError Unit := do
  let scan ← authority.foldlM AuthorityScan.step {}
  if scan.opened != scan.closed || 1 < scan.colons || authority.getLast? == some '@'
    || scan.percent
  then .error .badAuthority
  else .ok ()

/-- Whether a character ends the part of an address that names the host. -/
def endsHost (c : Char) : Bool :=
  c == '/' || c == '?' || c == '#'

/-- The path of a target that does not begin with a slash. -/
def readAddress (text : List Char) : Except RequestError String := do
  let scheme? ← dropScheme? text
  let rest := scheme?.getD text
  let authority := rest.takeWhile fun c => !endsHost c
  let tail := rest.dropWhile fun c => !endsHost c
  if rest.isEmpty then .error .emptyTarget
  else
    checkAuthority authority
    if scheme?.isSome then
      if authority.isEmpty then .error .badFormat else readPathAndQuery tail
    else if tail.isEmpty then .ok ""
    else if text.length = 1 then .error .badTargetChar
    else .error .badFormat

/-! ## Requests -/

/-- The longest target in octets. -/
def targetLimit : Nat := 65534

def readTarget (target : String) : Except RequestError String :=
  if targetLimit < target.utf8ByteSize then .error .longTarget
  else
    match target.toList with
    | [] => .error .emptyTarget
    | ['*'] => .ok "*"
    | '/' :: rest => readPathAndQuery ('/' :: rest)
    | chars => readAddress chars

def checkHeader (header : Header) : Except RequestError Unit :=
  if !isToken header.1 then .error .badHeaderName
  else if !isHeaderValue header.2 then .error .badHeaderValue
  else .ok ()

/-- The request of some parts with a whole body, if it can be made. -/
def Request.make (method target : String) (headers : List Header) (body : List UInt8) :
    Except RequestError Request := do
  if !isToken method then .error .badMethod
  else
    let path ← readTarget target
    headers.forM checkHeader
    .ok ⟨method, path, headers, body, none⟩

end Http
end LendingGateway
