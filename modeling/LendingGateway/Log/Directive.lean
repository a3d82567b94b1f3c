import LendingGateway.Log.Event
import LendingGateway.Log.Pattern
import LendingGateway.Text.AsciiCase
import LendingGateway.Text.Blank
import LendingGateway.Text.Utf8

namespace LendingGateway
namespace Log

/-!
# Directives of log filters

A directive says from which level up events are shown.  It may be confined to the targets
that begin with a text, to events that have certain fields, and to what happens inside of
named activities: `target[activity`, then fields between braces, then `]=level`.
-/

/-- A directive.  No least level means that nothing is shown. -/
structure Directive where
  /-- The beginning of the targets that it is about. -/
  target : Option String
  /-- Whether it is confined to a named activity. -/
  named : Bool
  /-- The fields that it asks for, some with a pattern for the value. -/
  fields : List (String × Option String)
  least : Option Level
deriving DecidableEq, Repr

/-! ## Levels -/

/-- The level of a number: the greater, the more is shown. -/
def levelOfNumber? : Nat → Option (Option Level)
  | 0 => some none
  | 1 => some (some .error)
  | 2 => some (some .warn)
  | 3 => some (some .info)
  | 4 => some (some .debug)
  | 5 => some (some .trace)
  | _ => none

/-- The level of a name, in any case. -/
def levelOfName? (text : String) : Option (Option Level) :=
  if Text.sameFold text "off" then some none
  else
    ([.trace, .debug, .info, .warn, .error].find? fun level : Level =>
      Text.sameFold text level.name).map some

/-- The digits of a number, which may have a plus sign. -/
def unsigned (text : List Char) : List Char :=
  match text with
  | '+' :: digits => digits
  | digits => digits

/-- The level that a text names, by its number or its name. -/
def readLevel? (text : String) : Option (Option Level) :=
  let digits := unsigned text.toList
  match if digits.isEmpty then none else Text.digitsValue? 10 digits with
  | some number => levelOfNumber? number
  | none => levelOfName? text

namespace Directive

/-! ## Reading

The characters of a directive are looked at one by one, without the white space around
them, and its parts are found by their places.  The places are counted without the white
space in front, but the parts are cut from the text with it.
-/

/-- Where the reading of a directive stands, with the place where a part begins. -/
inductive Stage where
  | start
  | targetOrLevel (begun : Nat)
  | activity (begun : Nat)
  | field (begun : Nat)
  | afterFields
  | afterBracket
  | level (begun : Nat)
deriving DecidableEq, Repr

/-- What has been read of a directive. -/
structure Draft where
  /-- The whole text of the directive. -/
  octets : List UInt8
  place : Nat := 0
  stage : Stage := .start
  target : Option String := none
  named : Bool := false
  fields : List (String × Option String) := []

/-- The text between two places. -/
def Draft.cut? (draft : Draft) (first last : Nat) : Option String :=
  Text.ofOctets? ((draft.octets.drop first).take (last - first))

/-- The text from a place on. -/
def Draft.cutRest? (draft : Draft) (first : Nat) : Option String :=
  Text.ofOctets? (draft.octets.drop first)

/-- Read a field and the pattern for its value after an equals sign. -/
def readField? (text : String) : Option (String × Option String) :=
  match Text.splitAt '=' text.toList with
  | [] | [[]] => none
  | name :: [] => some (String.ofList name, none)
  | name :: value :: _ =>
    if isPattern (String.ofList value) then
      some (String.ofList name, some (String.ofList value))
    else none

/-- Whether a directive without a bracket in front may begin with a character. -/
def canBegin (c : Char) : Bool :=
  c == '-' || c == ':' || c == '_' || Text.isAlphanumeric c

def Draft.look? (draft : Draft) (c : Char) : Option Draft :=
  let here := draft.place
  match draft.stage with
  | .start =>
    if c = '[' then some { draft with stage := .activity (here + 1) }
    else if canBegin c then some { draft with stage := .targetOrLevel here }
    else none
  | .targetOrLevel begun => do
    if c = '=' then
      some { draft with target := some (← draft.cut? begun here), stage := .level (here + 1) }
    else if c = '[' then
      some { draft with target := some (← draft.cut? begun here), stage := .activity (here + 1) }
    else some draft
  | .activity begun => do
    if c = ']' then some { draft with named := true, stage := .afterBracket }
    else if c = '\x7b' then
      some { draft with named := begun < here, stage := .field (here + 1) }
    else some draft
  | .field begun => do
    if c = '\x7d' then
      let field ← readField? (← draft.cut? begun here)
      some { draft with fields := draft.fields ++ [field], stage := .afterFields }
    else some draft
  | .afterFields => if c = ']' then some { draft with stage := .afterBracket } else none
  | .afterBracket => if c = '=' then some { draft with stage := .level (here + 1) } else none
  | .level _ => some draft

/-- Look at one character and go on to the place after it. -/
def Draft.next? (draft : Draft) (c : Char) : Option Draft :=
  (draft.look? c).map fun next => { next with place := draft.place + c.utf8Size }

/-- The directive that has been read.  When the level is left out everything is shown, and
a text alone is a level if it names one. -/
def Draft.finish? (draft : Draft) : Option Directive :=
  let confined (least : Option Level) : Directive :=
    ⟨draft.target, draft.named, draft.fields, least⟩
  match draft.stage with
  | .targetOrLevel begun => do
    let text ← draft.cutRest? begun
    match readLevel? text with
    | some least => some (confined least)
    | none => some { confined (some .trace) with target := some text }
  | .level begun => do
    let text ← draft.cutRest? begun
    if text = "" then some (confined (some .trace)) else (readLevel? text).map confined
  | .afterBracket => some (confined (some .trace))
  | .start | .activity _ | .field _ | .afterFields => none

def read? (text : List Char) : Option Directive := do
  let draft : Draft := { octets := Text.octets (String.ofList text) }
  (← (Text.trimBy Text.isSpace text).foldlM Draft.next? draft).finish?

/-! ## Deciding -/

/-- Whether a directive is about an event outside of any activity.  The values of fields
count for activities only. -/
def isAbout (directive : Directive) (event : Event) : Bool :=
  !directive.named
    && directive.target.all (·.isPrefixOf event.target)
    && directive.fields.all fun (name, value) => value.isNone && event.fields.contains name

/-- Whether a directive is at least as narrow as another one that is about the same event.
A longer target is narrower, and then more fields. -/
def isAsNarrowAs (directive other : Directive) : Bool :=
  let targetSize (directive : Directive) : Nat :=
    directive.target.elim 0 fun target => target.length + 1
  targetSize other < targetSize directive
    || (targetSize other = targetSize directive
      && other.fields.length ≤ directive.fields.length)

end Directive

end Log
end LendingGateway
