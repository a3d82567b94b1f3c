import LendingGateway.Decimal.Layout
import LendingGateway.Text.Quoted

namespace LendingGateway
namespace Json

/-!
# What can be wrong with a document

A document fails to decode in one of three ways: it is not JSON, it ends too early, or
it is JSON of the wrong shape.  A fault names the cause and the place, the latter as
the path of keys and indices that leads to the value being read.  The wording of a
cause is kept apart from the readers, in one function.
-/

/-- The three ways for a document to fail. -/
inductive Category where
  /-- The text is not JSON. -/
  | malformed
  /-- The text is JSON of another shape than the one asked for. -/
  | mismatch
  /-- The text ends before its value does. -/
  | truncated
deriving DecidableEq, Repr

/-- What a reader met in place of the value it was asked for. -/
inductive Found where
  | null
  | boolean (value : Bool)
  | integer (value : Int)
  | real (value : Float)
  | text (value : String)
  | sequence
  | map

/-- What a reader was asked for. -/
inductive Wanted where
  | text
  | real
  | int64
  | nat64
  | sequence
  | map
  /-- The null that stands beside the name of a variant without data. -/
  | unit
  | variantName
  /-- Either spelling of a variant: its name, or an object with that one key. -/
  | variantForm
  /-- A record or a tagged choice of records, by the title it goes by in messages. -/
  | titled (title : String)

/-- The causes of a fault. -/
inductive Cause where
  | endInValue
  | endInList
  | endInObject
  | endInText
  | expectedValue
  | expectedWord
  | expectedColon
  | expectedListStep
  | expectedObjectStep
  | keyNotText
  | trailingComma
  | trailingCharacters
  | badNumber
  | numberOutOfRange
  | badEscape
  | loneSurrogate
  | halfSurrogatePair
  | controlCharacter
  | badUnicode
  | tooDeep
  | wrongType (found : Found) (wanted : Wanted)
  | integerOutOfRange (value : Int) (wanted : Wanted)
  | notOneMember
  | missingField (key : String)
  | duplicateField (key : String)
  | unknownVariant (name : String) (known : List String)
  | tooFewElements (present : Nat) (title : String) (total : Nat)
  | tooManyElements (present : Nat) (total : Nat)

def Cause.category : Cause → Category
  | .endInValue | .endInList | .endInObject | .endInText => .truncated
  | .wrongType .. | .integerOutOfRange .. | .notOneMember | .missingField _
  | .duplicateField _ | .unknownVariant .. | .tooFewElements .. | .tooManyElements .. =>
    .mismatch
  | _ => .malformed

/-- A word between backquotes. -/
def ticked (word : String) : String :=
  "`" ++ word ++ "`"

def Found.describe : Found → String
  | .null => "null"
  | .boolean value => "boolean " ++ ticked (if value then "true" else "false")
  | .integer value => "integer " ++ ticked (toString value)
  | .real value => "floating point " ++ ticked (Decimal.writeReal value)
  | .text value => "string " ++ Text.quoted value
  | .sequence => "sequence"
  | .map => "map"

def Wanted.describe : Wanted → String
  | .text => "a string"
  | .real => "f64"
  | .int64 => "i64"
  | .nat64 => "u64"
  | .sequence => "a sequence"
  | .map => "a map"
  | .unit => "unit"
  | .variantName => "variant identifier"
  | .variantForm => "string or map"
  | .titled title => title

def describeNames : List String → String
  | [] => "there are no variants"
  | [only] => "expected " ++ ticked only
  | [first, second] => "expected " ++ ticked first ++ " or " ++ ticked second
  | names => "expected one of " ++ String.intercalate ", " (names.map ticked)

/-- A count of elements in words. -/
def describeElements (count : Nat) : String :=
  toString count ++ if count = 1 then " element" else " elements"

def Cause.message : Cause → String
  | .endInValue => "EOF while parsing a value"
  | .endInList => "EOF while parsing a list"
  | .endInObject => "EOF while parsing an object"
  | .endInText => "EOF while parsing a string"
  | .expectedValue => "expected value"
  | .expectedWord => "expected ident"
  | .expectedColon => "expected `:`"
  | .expectedListStep => "expected `,` or `]`"
  | .expectedObjectStep => "expected `,` or `\x7d`"
  | .keyNotText => "key must be a string"
  | .trailingComma => "trailing comma"
  | .trailingCharacters => "trailing characters"
  | .badNumber => "invalid number"
  | .numberOutOfRange => "number out of range"
  | .badEscape => "invalid escape"
  | .loneSurrogate => "lone leading surrogate in hex escape"
  | .halfSurrogatePair => "unexpected end of hex escape"
  | .controlCharacter =>
    "control character (\\u0000-\\u001F) found while parsing a string"
  | .badUnicode => "invalid unicode code point"
  | .tooDeep => "recursion limit exceeded"
  | .wrongType found wanted =>
    "invalid type: " ++ found.describe ++ ", expected " ++ wanted.describe
  | .integerOutOfRange value wanted =>
    "invalid value: integer " ++ ticked (toString value) ++ ", expected " ++ wanted.describe
  | .notOneMember => "invalid value: map, expected map with a single key"
  | .missingField key => "missing field " ++ ticked key
  | .duplicateField key => "duplicate field " ++ ticked key
  | .unknownVariant name known =>
    "unknown variant " ++ ticked name ++ ", " ++ describeNames known
  | .tooFewElements present title total =>
    "invalid length " ++ toString present ++ ", expected " ++ title ++ " with "
      ++ describeElements total
  | .tooManyElements present total =>
    "invalid length " ++ toString present ++ ", expected " ++ describeElements total
      ++ " in sequence"

/-- One step from a value to a value inside it. -/
inductive Segment where
  | key (name : String)
  | index (position : Nat)

/-- A cause and the place where it arose. -/
structure Fault where
  cause : Cause
  path : List Segment := []

/-- The fault seen from one level further out. -/
def Fault.within (segment : Segment) (fault : Fault) : Fault :=
  ⟨fault.cause, segment :: fault.path⟩

/-- The text of a path: keys are joined by points, indices stand in brackets. -/
def describePath : List Segment → String
  | [] => ""
  | .index position :: rest => "[" ++ toString position ++ "]" ++ describeRest rest
  | .key name :: rest => name ++ describeRest rest
where
  /-- The text of a path after its first segment. -/
  describeRest : List Segment → String
    | [] => ""
    | .index position :: rest => "[" ++ toString position ++ "]" ++ describeRest rest
    | .key name :: rest => "." ++ name ++ describeRest rest

/-- The message of a fault without its place. -/
def Fault.message (fault : Fault) : String :=
  fault.cause.message

/-- The message of a fault, after its place when that is not the document itself. -/
def Fault.placed (fault : Fault) : String :=
  match fault.path with
  | [] => fault.message
  | path => describePath path ++ ": " ++ fault.message

end Json
end LendingGateway
