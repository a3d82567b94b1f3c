import LendingGateway.Json.Tree

namespace LendingGateway
namespace Json

/-!
# Skipping a value

A record ignores the members it does not know.  Their values still have to be JSON, but
nothing is asked beyond that: they may nest to any depth, hold numbers of any size and
text that is no Unicode.  Skipping therefore keeps the open containers on a stack of its
own instead of calling itself.
-/

/-- A container that has been opened and not yet closed. -/
inductive Frame where
  | list
  | object
deriving DecidableEq, Repr

/-- What may come next while a value is skipped. -/
inductive Due where
  | value
  /-- The first element or member of the innermost container, or its end. -/
  | first
  /-- A comma in the innermost container, or its end; with no container open, nothing. -/
  | next
deriving DecidableEq, Repr

/-- The state of skipping: the open containers, innermost first, and what is due. -/
structure Skip where
  frames : List Frame
  due : Due

/-- The octet that closes a container. -/
def Frame.closing : Frame → UInt8
  | .list => 0x5d
  | .object => 0x7d

/-- The cause when the input ends inside a container. -/
def Frame.ended : Frame → Cause
  | .list => .endInList
  | .object => .endInObject

/-- The cause when neither a comma nor the end of a container follows a value in it. -/
def Frame.unexpected : Frame → Cause
  | .list => .expectedListStep
  | .object => .expectedObjectStep

/-- Skip a value that is no container. -/
def skipScalar (octet : UInt8) (rest : Input) : Except Cause Input :=
  if octet = 0x6e then expectText "ull" rest
  else if octet = 0x74 then expectText "rue" rest
  else if octet = 0x66 then expectText "alse" rest
  else if octet = 0x22 then skipText rest
  else if octet = 0x2d ∨ isDigit octet then skipNumeral (octet :: rest)
  else .error .expectedValue

/-- Skip a whole scalar, or the opening of a container. -/
def skipOpening (frames : List Frame) (input : Input) : Except Cause (Skip × Input) :=
  match skipGap input with
  | [] => .error .endInValue
  | octet :: rest =>
    if octet = 0x5b then .ok (⟨.list :: frames, .first⟩, rest)
    else if octet = 0x7b then .ok (⟨.object :: frames, .first⟩, rest)
    else do
      let rest ← skipScalar octet rest
      .ok (⟨frames, .next⟩, rest)

/-- Skip what comes before the value of an element: nothing in a list, the key and its
colon in an object. -/
def skipElement (frame : Frame) (outer : List Frame) (input : Input) :
    Except Cause (Skip × Input) :=
  match frame with
  | .list => skipOpening (.list :: outer) input
  | .object =>
    match skipGap input with
    | [] => .error .endInObject
    | octet :: rest =>
      if octet = 0x22 then do
        let rest ← skipText rest
        let rest ← expectColon rest
        .ok (⟨.object :: outer, .value⟩, rest)
      else .error .keyNotText

/-- One step of skipping.  Every step takes at least one octet. -/
def skipStep (state : Skip) (input : Input) : Except Cause (Skip × Input) :=
  match state.due, state.frames with
  | .value, frames => skipOpening frames input
  | _, [] => .ok (state, input)
  | due, frame :: outer =>
    match skipGap input with
    | [] => .error frame.ended
    | octet :: rest =>
      if octet = frame.closing then .ok (⟨outer, .next⟩, rest)
      else if due = .first then skipElement frame outer (octet :: rest)
      else if octet = 0x2c then
        match frame with
        | .list => .ok (⟨.list :: outer, .value⟩, rest)
        | .object => skipElement .object outer rest
      else .error frame.unexpected

/-- Skip until no container is open and nothing is due. -/
def skipFrom : (fuel : Nat) → Skip → Input → Except Cause Input
  | 0, _, _ => .error .endInValue
  | fuel + 1, state, input => do
    let (state, rest) ← skipStep state input
    if state.due = .next ∧ state.frames = [] then .ok rest else skipFrom fuel state rest

def skipValue (input : Input) : Except Cause Input :=
  skipFrom (input.length + 1) ⟨[], .value⟩ input

end Json
end LendingGateway
