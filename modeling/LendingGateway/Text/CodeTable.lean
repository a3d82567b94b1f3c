import LendingGateway.Text.Digits
import LendingGateway.Text.Split

namespace LendingGateway
namespace Text

/-!
# Tables of characters

A property of characters that no short rule gives is kept as a table.  A table is text:
lines of entries with one space between them and all numbers to base sixteen.  In the
table of a set an entry is a code point or a range, such as `aa` or `41-5a`; `/2` after a
range takes every second code point of it.  In the table of a map, what the code points
become follows after a colon: `41-5a:61` moves a whole range, and `bc:31+2f+34,31+2f+32`
lists, from one code point up, what each becomes.
-/

/-! ## Sets -/

/-- The code points from the first to the last, a stride apart. -/
structure Span where
  first : Nat
  last : Nat
  stride : Nat
deriving DecidableEq, Repr

def Span.contains (span : Span) (code : Nat) : Bool :=
  span.first ≤ code && code ≤ span.last && (code - span.first) % span.stride == 0

def Span.read? (entry : List Char) : Option Span := do
  let (range, stride) ←
    match splitAt '/' entry with
    | [range] => some (range, 1)
    | [range, stride] => (digitsValue? 16 stride).map (range, ·)
    | _ => none
  match ← (splitAt '-' range).mapM (digitsValue? 16) with
  | [code] => some ⟨code, code, stride⟩
  | [first, last] => some ⟨first, last, stride⟩
  | _ => none

def tableEntries (lines : List String) : List (List Char) :=
  lines.flatMap fun line => splitAt ' ' line.toList

def readSet (lines : List String) : List Span :=
  (tableEntries lines).filterMap Span.read?

def isIn (set : List Span) (c : Char) : Bool :=
  set.any (·.contains c.toNat)

/-! ## Maps -/

/-- What the code points of a span become. -/
structure Replacement where
  span : Span
  /-- The texts that the code points become, in their order.  A single code point stands
  for the first one of a range that is moved as a whole. -/
  images : List (List Nat)
deriving DecidableEq, Repr

def Replacement.read? (entry : List Char) : Option Replacement := do
  match splitAt ':' entry with
  | [span, images] =>
    let span ← Span.read? span
    let images ← (splitAt ',' images).mapM fun image =>
      (splitAt '+' image).mapM (digitsValue? 16)
    some ⟨{ span with last := max span.last (span.first + images.length - 1) }, images⟩
  | _ => none

/-- What a code point becomes, if the replacement is about it. -/
def Replacement.image? (replacement : Replacement) (code : Nat) : Option (List Nat) :=
  let { span, images } := replacement
  if span.contains code then
    match images with
    | [[image]] => some [image + (code - span.first)]
    | images => images[code - span.first]?
  else none

def readMap (lines : List String) : List Replacement :=
  (tableEntries lines).filterMap Replacement.read?

/-- What a map makes of a code point, if it names it. -/
def imageOf? (map : List Replacement) (code : Nat) : Option (List Nat) :=
  map.findSome? (·.image? code)

end Text
end LendingGateway
