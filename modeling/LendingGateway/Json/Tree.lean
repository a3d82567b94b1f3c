import LendingGateway.Json.Numeral

namespace LendingGateway
namespace Json

/-!
# Documents as trees

A tree holds everything a document says and nothing about how it was spaced.  Members
keep their order, and a key may occur more than once, because only a reader that knows
the record can tell whether that is a fault.  Every value the gateway writes is first
turned into a tree, and a tree has exactly one text.
-/

inductive Tree where
  | null
  | boolean (value : Bool)
  | number (value : Numeral)
  | text (value : String)
  | list (items : List Tree)
  | object (members : List (String × Tree))

def Tree.found : Tree → Found
  | .null => .null
  | .boolean value => .boolean value
  | .number value => value.found
  | .text value => .text value
  | .list _ => .sequence
  | .object _ => .map

/-! ## Writing -/

/-- One character as it stands between the quotes of a document: quotes, backslashes and
control characters are escaped, everything else stands for itself. -/
def escapedChar (c : Char) : List Char :=
  if c == '"' then ['\\', '"']
  else if c == '\\' then ['\\', '\\']
  else if c == '\x08' then ['\\', 'b']
  else if c == '\t' then ['\\', 't']
  else if c == '\n' then ['\\', 'n']
  else if c == '\x0c' then ['\\', 'f']
  else if c == '\r' then ['\\', 'r']
  else if c.toNat < 0x20 then
    ['\\', 'u', '0', '0', Nat.digitChar (c.toNat / 16), Nat.digitChar (c.toNat % 16)]
  else [c]

def renderText (text : String) : String :=
  "\"" ++ String.ofList (text.toList.flatMap escapedChar) ++ "\""

/-- The text of a number.  A real without a finite value is written as null. -/
def renderNumeral : Numeral → String
  | .integer value => toString value
  | .real value =>
    if value.isNaN || value.isInf then "null" else Decimal.writeReal value

mutual

/-- The text of a tree, without gaps. -/
def Tree.render : Tree → String
  | .null => "null"
  | .boolean true => "true"
  | .boolean false => "false"
  | .number value => renderNumeral value
  | .text value => renderText value
  | .list items => "[" ++ String.intercalate "," (renderItems items) ++ "]"
  | .object members => "\x7b" ++ String.intercalate "," (renderMembers members) ++ "\x7d"

def renderItems : List Tree → List String
  | [] => []
  | item :: items => item.render :: renderItems items

def renderMembers : List (String × Tree) → List String
  | [] => []
  | (key, value) :: members =>
    (renderText key ++ ":" ++ value.render) :: renderMembers members

end

/-- Insert a member before the first one whose key is greater. -/
def insertMember (key : String) (value : Tree) : List (String × Tree) → List (String × Tree)
  | [] => [(key, value)]
  | (other, held) :: members =>
    if key < other then (key, value) :: (other, held) :: members
    else (other, held) :: insertMember key value members

mutual

/-- A tree with the members of every object in ascending order of their keys. -/
def Tree.sorted : Tree → Tree
  | .list items => .list (sortedItems items)
  | .object members => .object (sortedMembers members)
  | tree => tree

def sortedItems : List Tree → List Tree
  | [] => []
  | item :: items => item.sorted :: sortedItems items

def sortedMembers : List (String × Tree) → List (String × Tree)
  | [] => []
  | (key, value) :: members => insertMember key value.sorted (sortedMembers members)

end

/-! ## Reading -/

/-- A cause that arose at the value being read. -/
def here {α : Type} : Except Cause α → Except Fault α
  | .ok value => .ok value
  | .error cause => .error ⟨cause, []⟩

/-- A fault seen from one level further out. -/
def inside {α : Type} (segment : Segment) : Except Fault α → Except Fault α
  | .ok value => .ok value
  | .error fault => .error (fault.within segment)

/-- How many containers a document may nest. -/
def nestingLimit : Nat := 127

/-- Decide whether a list goes on.  The answer is true when an element follows, whose
reading begins at the returned octets, and false at the closing bracket, which is left
to be read. -/
def nextElement (first : Bool) (input : Input) : Except Cause (Bool × Input) :=
  match skipGap input with
  | [] => .error .endInList
  | octet :: rest =>
    if octet = 0x5d then .ok (false, octet :: rest)
    else if first then .ok (true, octet :: rest)
    else if octet = 0x2c then
      match skipGap rest with
      | [] => .error .endInValue
      | next :: after =>
        if next = 0x5d then .error .trailingComma else .ok (true, next :: after)
    else .error .expectedListStep

/-- Decide whether an object goes on, and read the key if it does. -/
def nextKey (first : Bool) (input : Input) : Except Cause (Option String × Input) :=
  match skipGap input with
  | [] => .error .endInObject
  | octet :: rest =>
    if octet = 0x7d then .ok (none, octet :: rest)
    else if first then
      if octet = 0x22 then do
        let (key, rest) ← readText rest
        .ok (some key, rest)
      else .error .keyNotText
    else if octet = 0x2c then
      match skipGap rest with
      | [] => .error .endInValue
      | next :: after =>
        if next = 0x22 then do
          let (key, rest) ← readText after
          .ok (some key, rest)
        else if next = 0x7d then .error .trailingComma
        else .error .keyNotText
    else .error .expectedObjectStep

def expectColon (input : Input) : Except Cause Input :=
  match skipGap input with
  | [] => .error .endInObject
  | octet :: rest => if octet = 0x3a then .ok rest else .error .expectedColon

/-- Read the bracket that closes a list of fixed length. -/
def closeList (input : Input) : Except Cause Input :=
  match skipGap input with
  | [] => .error .endInList
  | octet :: rest =>
    if octet = 0x5d then .ok rest
    else if octet = 0x2c ∧ (skipGap rest).head? = some 0x5d then .error .trailingComma
    else .error .trailingCharacters

def closeObject (input : Input) : Except Cause Input :=
  match skipGap input with
  | [] => .error .endInObject
  | octet :: rest => if octet = 0x7d then .ok rest else .error .trailingCharacters

/-- Read the elements of a list up to its bracket with a reader for one of them.  Every
element takes at least one octet, so the length of the input bounds their number. -/
def readItems {α : Type} (item : Input → Except Fault (α × Input)) :
    (fuel index : Nat) → List α → Input → Except Fault (List α × Input)
  | 0, _, _, _ => .error ⟨.endInList, []⟩
  | fuel + 1, index, done, input => do
    let (more, rest) ← here (nextElement (index == 0) input)
    if more then
      let (value, rest) ← inside (.index index) (item rest)
      readItems item fuel (index + 1) (value :: done) rest
    else .ok (done.reverse, rest)

/-- Read the members of an object up to its brace.  What has been gathered from the
members so far is passed from one to the next. -/
def readMembers {σ : Type} (member : σ → String → Input → Except Fault (σ × Input)) :
    (fuel : Nat) → Bool → σ → Input → Except Fault (σ × Input)
  | 0, _, _, _ => .error ⟨.endInObject, []⟩
  | fuel + 1, first, gathered, input => do
    let (key?, rest) ← here (nextKey first input)
    match key? with
    | none => .ok (gathered, rest)
    | some key =>
      let (gathered, rest) ← member gathered key rest
      readMembers member fuel false gathered rest

/-- Read a whole list whose bracket has been read. -/
def readList {α : Type} (item : Input → Except Fault (α × Input)) (input : Input) :
    Except Fault (List α × Input) := do
  let (items, rest) ← readItems item (input.length + 1) 0 [] input
  let rest ← here (closeList rest)
  .ok (items, rest)

/-- Read a value that is no container. -/
def readScalar (octet : UInt8) (rest : Input) : Except Cause (Tree × Input) :=
  if octet = 0x6e then do
    let rest ← expectText "ull" rest
    .ok (.null, rest)
  else if octet = 0x74 then do
    let rest ← expectText "rue" rest
    .ok (.boolean true, rest)
  else if octet = 0x66 then do
    let rest ← expectText "alse" rest
    .ok (.boolean false, rest)
  else if octet = 0x22 then do
    let (text, rest) ← readText rest
    .ok (.text text, rest)
  else if octet = 0x2d ∨ isDigit octet then do
    let (value, rest) ← readNumeral (octet :: rest)
    .ok (.number value, rest)
  else .error .expectedValue

/-- Read a value of any shape, with the given number of containers still allowed. -/
def Tree.read (depth : Nat) (input : Input) : Except Fault (Tree × Input) :=
  match skipGap input with
  | [] => .error ⟨.endInValue, []⟩
  | octet :: rest =>
    if octet = 0x5b then
      match depth with
      | 0 => .error ⟨.tooDeep, []⟩
      | depth + 1 => do
        let (items, rest) ← readList (Tree.read depth) rest
        .ok (.list items, rest)
    else if octet = 0x7b then
      match depth with
      | 0 => .error ⟨.tooDeep, []⟩
      | depth + 1 => do
        let (members, rest) ← readMembers
          (fun members key input => do
            let rest ← here (expectColon input)
            let (value, rest) ← inside (.key key) (Tree.read depth rest)
            .ok ((key, value) :: members, rest))
          (rest.length + 1) true [] rest
        let rest ← here (closeObject rest)
        .ok (.object members.reverse, rest)
    else here (readScalar octet rest)

/-- The fault of a value of another shape than the one wanted. -/
def misfit {α : Type} (wanted : Wanted) (input : Input) : Except Cause α :=
  match skipGap input with
  | [] => .error .endInValue
  | octet :: rest =>
    if octet = 0x5b then .error (.wrongType .sequence wanted)
    else if octet = 0x7b then .error (.wrongType .map wanted)
    else do
      let (value, _) ← readScalar octet rest
      .error (.wrongType value.found wanted)

end Json
end LendingGateway
