import LendingGateway.Text.Blank
import LendingGateway.Web.Host

namespace LendingGateway
namespace Web

/-!
# Web addresses

A web address has a scheme, a host and a path.  Reading one is forgiving: white space
around it is dropped, tabs and line ends inside it too, any number of slashes may stand
before the host, a backslash is as good as a slash, and characters that must not stand
in an address are percent-encoded.  What has been read has one text.
-/

/-- The schemes of web addresses. -/
inductive Scheme where
  | http
  | https
deriving DecidableEq, Repr

def Scheme.name : Scheme → String
  | .http => "http"
  | .https => "https"

/-- The port of a scheme when none is given. -/
def Scheme.defaultPort : Scheme → Nat
  | .http => 80
  | .https => 443

/-- A web address.  A port that is the default one of the scheme is not kept. -/
structure Url where
  scheme : Scheme
  username : String
  password : Option String
  host : Host
  port : Option Nat
  /-- The segments of the path, of which there is at least one. -/
  path : List String
  query : Option String
  fragment : Option String
deriving DecidableEq, Repr

/-! ## Percent-encoding -/

/-- Characters that stand in no part of an address. -/
def inControls (c : Char) : Bool :=
  c.toNat < 0x20 || 0x7e < c.toNat

/-- Characters to encode in a fragment. -/
def inFragmentSet (c : Char) : Bool :=
  inControls c || c == ' ' || c == '"' || c == '<' || c == '>' || c == '`'

/-- Characters to encode in a query. -/
def inQuerySet (c : Char) : Bool :=
  inControls c || c == ' ' || c == '"' || c == '#' || c == '<' || c == '>' || c == '\''

/-- Characters to encode in a path. -/
def inPathSet (c : Char) : Bool :=
  inFragmentSet c || c == '#' || c == '?' || c == '\x7b' || c == '\x7d'

/-- Characters to encode in a user name or a password. -/
def inUserSet (c : Char) : Bool :=
  inPathSet c || "/:;=@[\\]^|".toList.contains c

def encodeChar (set : Char → Bool) (c : Char) : List Char :=
  if set c then
    (Text.octets (String.ofList [c])).flatMap fun octet =>
      (Text.percentTriple octet).map fun digit => Char.ofNat digit.toNat
  else [c]

def encodeSet (set : Char → Bool) (text : List Char) : String :=
  String.ofList (text.flatMap (encodeChar set))

/-! ## Reading -/

/-- Whether a character ends the part of an address that names the host. -/
def endsAuthority (c : Char) : Bool :=
  c == '/' || c == '\\' || c == '?' || c == '#'

/-- Whether a character separates the segments of a path. -/
def isSlash (c : Char) : Bool :=
  c == '/' || c == '\\'

/-- Drop what surrounds an address and what must be ignored inside it. -/
def tidy (text : List Char) : List Char :=
  (Text.trimBy (·.toNat ≤ 0x20) text).filter fun c => !(c == '\t' || c == '\n' || c == '\r')

/-- Read the scheme and the colon after it, in any case. -/
def readScheme? (text : List Char) : Option (Scheme × List Char) :=
  let letters := (text.takeWhile (· != ':')).map Char.toLower
  match text.dropWhile (· != ':') with
  | [] => none
  | _ :: rest =>
    if letters = ['h', 't', 't', 'p'] then some (.http, rest)
    else if letters = ['h', 't', 't', 'p', 's'] then some (.https, rest)
    else none

/-- Split the part that names the host at its last at-sign, if there is one. -/
def splitUser (authority : List Char) : Option (List Char) × List Char :=
  let backward := authority.reverse
  match backward.dropWhile (· != '@') with
  | [] => (none, authority)
  | _ :: front => (some front.reverse, (backward.takeWhile (· != '@')).reverse)

/-- The user name and the password.  An empty password is as good as none. -/
def readUser (user : List Char) : String × Option String :=
  let name := user.takeWhile (· != ':')
  let password := (user.dropWhile (· != ':')).drop 1
  (encodeSet inUserSet name,
    if password.isEmpty then none else some (encodeSet inUserSet password))

/-- Split a host from the colon and the port after it.  Colons between brackets belong to
the host. -/
def splitPort : (bracketed : Bool) → List Char → List Char × Option (List Char)
  | _, [] => ([], none)
  | bracketed, c :: rest =>
    if c = ':' ∧ bracketed = false then ([], some rest)
    else
      let (host, port) := splitPort (c == '[' || (bracketed && c != ']')) rest
      (c :: host, port)

/-- Read a port; the outer option is none when it is not one. -/
def readPort? (scheme : Scheme) : Option (List Char) → Option (Option Nat)
  | none | some [] => some none
  | some digits => do
    let port ← Text.digitsValue? 10 digits
    if 65535 < port then none
    else if port = scheme.defaultPort then some none
    else some (some port)

/-- How a segment of a path is to be taken. -/
inductive Step where
  | stay
  | up
  | down (segment : String)

/-- A segment with every percent-encoded point written as a point. -/
def plainPoints : List Char → List Char
  | '%' :: '2' :: c :: rest =>
    if c = 'e' ∨ c = 'E' then '.' :: plainPoints rest
    else '%' :: '2' :: plainPoints (c :: rest)
  | c :: rest => c :: plainPoints rest
  | [] => []

/-- The reading of a segment: one point stays, two points go up, in either spelling. -/
def readStep (segment : List Char) : Step :=
  let plain := plainPoints segment
  if plain = ['.'] then .stay
  else if plain = ['.', '.'] then .up
  else .down (encodeSet inPathSet segment)

/-- Whether a segment names a drive: a letter and a colon or a bar. -/
def isDrive (segment : String) : Bool :=
  match segment.toList with
  | [letter, sign] => letter.isAlpha && (sign == ':' || sign == '|')
  | _ => false

/-- Go up from where the segments walked so far lead.  From a drive there is no way up. -/
def goUp : List String → List String
  | [] => []
  | last :: before => if isDrive last then last :: before else before

/-- Walk along the segments of a path.  The segments walked so far are in reverse. -/
def walk (done : List String) : List (List Char) → List String
  | [] => done.reverse
  | [last] =>
    match readStep last with
    | .stay => ("" :: done).reverse
    | .up => ("" :: goUp done).reverse
    | .down segment => (segment :: done).reverse
  | segment :: rest =>
    match readStep segment with
    | .stay => walk done rest
    | .up => walk (goUp done) rest
    | .down segment => walk (segment :: done) rest

def readPath (text : List Char) : List String :=
  let slashed := text.map fun c => if isSlash c then '/' else c
  walk [] (Text.splitAt '/' (if slashed.head? = some '/' then slashed.tail else slashed))

/-- What follows the host: path, query and fragment. -/
def readTail (text : List Char) : List String × Option String × Option String :=
  let body := text.takeWhile (· != '#')
  let path := body.takeWhile (· != '?')
  let query := (body.dropWhile (· != '?')).tail?
  let fragment := (text.dropWhile (· != '#')).tail?
  (readPath path, query.map (encodeSet inQuerySet), fragment.map (encodeSet inFragmentSet))

def Url.read? (text : String) : Option Url := do
  let (scheme, rest) ← readScheme? (tidy text.toList)
  let rest := rest.dropWhile isSlash
  let authority := rest.takeWhile fun c => !endsAuthority c
  let (user, hostAndPort) := splitUser authority
  let (hostText, portText) := splitPort false hostAndPort
  if hostText.isEmpty then none
  else
    let host ← Host.read? hostText
    let port ← readPort? scheme portText
    let (username, password) := (user.map readUser).getD ("", none)
    let (path, query, fragment) := readTail (rest.dropWhile fun c => !endsAuthority c)
    some ⟨scheme, username, password, host, port, path, query, fragment⟩

/-! ## Writing -/

/-- The user name and the password as they stand before the host. -/
def Url.renderUser (url : Url) : String :=
  match url.password with
  | some password => url.username ++ ":" ++ password ++ "@"
  | none => if url.username = "" then "" else url.username ++ "@"

/-- The path with its slashes. -/
def Url.renderPath (url : Url) : String :=
  String.join (url.path.map ("/" ++ ·))

def Url.render (url : Url) : String :=
  url.scheme.name ++ "://" ++ url.renderUser ++ url.host.render
    ++ (url.port.elim "" fun port => ":" ++ toString port)
    ++ url.renderPath
    ++ (url.query.elim "" ("?" ++ ·))
    ++ (url.fragment.elim "" ("#" ++ ·))

/-- The text that an encoded text stands for, if it is one. -/
def decodeText? (encoded : String) : Option String :=
  Text.ofOctets? (Text.percentDecode (Text.octets encoded))

/-- A web address as requests are sent to it.  A user name and a password are sent beside
the address, if they are texts and not empty. -/
def Url.withoutUser (url : Url) : Url :=
  match decodeText? url.username with
  | none => url
  | some username =>
    if username = "" ∧ (url.password.bind decodeText?) = none then url
    else { url with username := "", password := none }

end Web
end LendingGateway
