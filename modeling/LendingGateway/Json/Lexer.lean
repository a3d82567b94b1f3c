import LendingGateway.Json.Fault
import LendingGateway.Text.Utf8

namespace LendingGateway
namespace Json

/-!
# Gaps, words and text

The smallest parts of a document.  Every reader takes the octets still to be read and
gives back what it read together with the octets after it.  Text is read by an
automaton that sees one octet at a time, in a strict and in a lenient way: the strict
way yields the text, the lenient one only finds where it ends.
-/

/-- The octets still to be read. -/
abbrev Input := List UInt8

/-- The octets that may stand between any two tokens. -/
def isGap (octet : UInt8) : Bool :=
  octet == 0x20 || octet == 0x0a || octet == 0x0d || octet == 0x09

/-- The input after any gap at its front. -/
def skipGap (input : Input) : Input :=
  input.dropWhile isGap

/-- Read exactly the given octets, the rest of a word whose first letter has already
told which word it is. -/
def expectWord : List UInt8 → Input → Except Cause Input
  | [], input => .ok input
  | _ :: _, [] => .error .endInValue
  | letter :: letters, octet :: rest =>
    if octet = letter then expectWord letters rest else .error .expectedWord

/-- Read a word given whole. -/
def expectText (word : String) (input : Input) : Except Cause Input :=
  expectWord (Text.octets word) input

/-- Where the automaton for text stands between two octets. -/
inductive TextState where
  /-- Between two characters. -/
  | plain
  /-- After a backslash. -/
  | escape
  /-- Within the four digits after `\u`, those so far in reverse. -/
  | unit (digits : List UInt8)
  /-- After the first half of a surrogate pair, where a backslash is due. -/
  | pair (high : Nat)
  /-- After that backslash, where a `u` is due. -/
  | pairEscape (high : Nat)
  /-- Within the four digits of the second half. -/
  | pairUnit (high : Nat) (digits : List UInt8)

/-- What one octet does to text: it closes it, or it produces octets and moves on. -/
inductive TextMove where
  | close
  | produce (octets : List UInt8) (next : TextState)

def hexDigit? (octet : UInt8) : Option Nat :=
  if 0x30 ≤ octet ∧ octet ≤ 0x39 then some (octet.toNat - 0x30)
  else if 0x41 ≤ octet ∧ octet ≤ 0x46 then some (octet.toNat - 0x37)
  else if 0x61 ≤ octet ∧ octet ≤ 0x66 then some (octet.toNat - 0x57)
  else none

/-- The number written by hexadecimal digits, given last digit first. -/
def hexNumber? : List UInt8 → Option Nat
  | [] => some 0
  | last :: before => do
    let digit ← hexDigit? last
    let number ← hexNumber? before
    some (number * 16 + digit)

/-- The octet that a one-letter escape stands for. -/
def simpleEscape? (octet : UInt8) : Option UInt8 :=
  if octet = 0x22 ∨ octet = 0x5c ∨ octet = 0x2f then some octet
  else if octet = 0x62 then some 0x08
  else if octet = 0x66 then some 0x0c
  else if octet = 0x6e then some 0x0a
  else if octet = 0x72 then some 0x0d
  else if octet = 0x74 then some 0x09
  else none

def encodeCode (code : Nat) : List UInt8 :=
  String.utf8EncodeChar (Char.ofNat code)

/-- The effect of the fourth digit after `\u`.  The strict way wants a leading surrogate
to be followed by its other half and never meets that half alone. -/
def closeUnit (strict : Bool) (digits : List UInt8) : Except Cause TextMove :=
  match hexNumber? digits with
  | none => .error .badEscape
  | some code =>
    if ¬ strict then .ok (.produce [] .plain)
    else if 0xdc00 ≤ code ∧ code ≤ 0xdfff then .error .loneSurrogate
    else if 0xd800 ≤ code ∧ code ≤ 0xdbff then .ok (.produce [] (.pair code))
    else .ok (.produce (encodeCode code) .plain)

/-- The effect of the fourth digit of the second half of a pair. -/
def closePair (high : Nat) (digits : List UInt8) : Except Cause TextMove :=
  match hexNumber? digits with
  | none => .error .badEscape
  | some low =>
    if 0xdc00 ≤ low ∧ low ≤ 0xdfff then
      .ok (.produce (encodeCode ((high - 0xd800) * 0x400 + (low - 0xdc00) + 0x10000)) .plain)
    else .error .loneSurrogate

/-- One step of the automaton for text. -/
def textStep (strict : Bool) (state : TextState) (octet : UInt8) : Except Cause TextMove :=
  match state with
  | .plain =>
    if octet = 0x22 then .ok .close
    else if octet = 0x5c then .ok (.produce [] .escape)
    else if octet < 0x20 then .error .controlCharacter
    else .ok (.produce [octet] .plain)
  | .escape =>
    if octet = 0x75 then .ok (.produce [] (.unit []))
    else match simpleEscape? octet with
      | some meant => .ok (.produce [meant] .plain)
      | none => .error .badEscape
  | .unit digits =>
    if digits.length = 3 then closeUnit strict (octet :: digits)
    else .ok (.produce [] (.unit (octet :: digits)))
  | .pair high =>
    if octet = 0x5c then .ok (.produce [] (.pairEscape high)) else .error .halfSurrogatePair
  | .pairEscape high =>
    if octet = 0x75 then .ok (.produce [] (.pairUnit high [])) else .error .halfSurrogatePair
  | .pairUnit high digits =>
    if digits.length = 3 then closePair high (octet :: digits)
    else .ok (.produce [] (.pairUnit high (octet :: digits)))

/-- Run the automaton up to the closing quote.  The octets produced so far are given in
reverse. -/
def scanText (strict : Bool) : TextState → List UInt8 → Input → Except Cause (List UInt8 × Input)
  | _, _, [] => .error .endInText
  | state, done, octet :: rest =>
    match textStep strict state octet with
    | .error cause => .error cause
    | .ok .close => .ok (done.reverse, rest)
    | .ok (.produce octets next) => scanText strict next (octets.reverse ++ done) rest

/-- Read text whose opening quote has been read.  Whether its octets are well formed is
only asked once it has closed. -/
def readText (input : Input) : Except Cause (String × Input) := do
  let (octets, rest) ← scanText true .plain [] input
  match Text.ofOctets? octets with
  | some text => .ok (text, rest)
  | none => .error .badUnicode

/-- Skip text whose opening quote has been read. -/
def skipText (input : Input) : Except Cause Input := do
  let (_, rest) ← scanText false .plain [] input
  .ok rest

end Json
end LendingGateway
