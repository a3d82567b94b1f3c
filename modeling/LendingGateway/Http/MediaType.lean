import LendingGateway.Http.Message

namespace LendingGateway
namespace Http

/-!
# Media types

The header that names the type of a body must be well formed as a whole: a type and a
subtype, then parameters.  What follows the last plus sign of a subtype is its suffix.
A body is taken for a document when either of the two says so.
-/

/-- A media type without its parameters. -/
structure MediaType where
  kind : String
  /-- The subtype up to its suffix. -/
  subtype : String
  suffix : Option String
deriving DecidableEq, Repr

/-- Whether a character may stand between the quotes of a parameter. -/
def isQuotedChar (c : Char) : Bool :=
  0x1f < c.toNat && c != '\x7f'

/-- What of a parameter is being read. -/
inductive ParameterState where
  /-- The name has not begun. -/
  | blank
  | name
  /-- The value has not begun. -/
  | equals
  | value
  /-- The value is quoted and empty so far. -/
  | opened
  | quoted
  | closed
deriving DecidableEq

/-- One character of the parameters. -/
def ParameterState.step : ParameterState → Char → Option ParameterState
  | .blank, c => if c == ' ' then some .blank else if isTokenChar c then some .name else none
  | .name, c => if c == '=' then some .equals else if isTokenChar c then some .name else none
  | .equals, c =>
    if c == '"' then some .opened else if isTokenChar c then some .value else none
  | .value, c => if c == ';' then some .blank else if isTokenChar c then some .value else none
  | .opened, c => if isQuotedChar c then some .quoted else none
  | .quoted, c =>
    if c == '"' then some .closed else if isQuotedChar c then some .quoted else none
  | .closed, c => if c == ';' then some .blank else if c == ' ' then some .closed else none

def ParameterState.isFinal : ParameterState → Bool
  | .blank | .equals | .value | .closed => true
  | .name | .opened | .quoted => false

/-- Whether what follows the first semicolon is a list of parameters. -/
def areParameters (text : List Char) : Bool :=
  match text.foldlM ParameterState.step .blank with
  | some state => state.isFinal
  | none => false

/-- Split a subtype at its last plus sign, unless the subtype begins with that. -/
def splitSuffix (subtype : List Char) : String × Option String :=
  let backward := subtype.reverse
  match backward.dropWhile (· != '+') with
  | [] | [_] => (String.ofList subtype, none)
  | _ :: front =>
    (String.ofList front.reverse, some (String.ofList (backward.takeWhile (· != '+')).reverse))

/-- The media type that a header names. -/
def MediaType.read? (text : String) : Option MediaType :=
  let chars := text.toList
  let kind := chars.takeWhile (· != '/')
  let rest := (chars.dropWhile (· != '/')).drop 1
  let subtype := rest.takeWhile (· != ';')
  let parameters := (rest.dropWhile (· != ';')).drop 1
  if chars.all (·.toNat < 0x80) && !kind.isEmpty && kind.all isTokenChar
    && chars.contains '/' && (!subtype.isEmpty || !(rest.contains ';'))
    && subtype.all isTokenChar && areParameters parameters
  then
    let (subtype, suffix) := splitSuffix subtype
    some ⟨String.ofList kind, subtype, suffix⟩
  else none

def MediaType.isJson (type : MediaType) : Bool :=
  Text.sameFold type.kind "application"
    && (Text.sameFold type.subtype "json"
      || type.suffix.any fun suffix => Text.sameFold suffix "json")

end Http
end LendingGateway
