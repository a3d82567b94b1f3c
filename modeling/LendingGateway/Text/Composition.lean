import LendingGateway.Text.CombiningClass
import LendingGateway.Text.Decomposition

namespace LendingGateway
namespace Text

/-!
# Canonical composition

Texts that only differ in how a letter and its marks are put together are the same text.
`compose` gives the one that stands for all of them: every character is taken apart, the
marks on each character are put in order, and what can be written as one character is
written so.
-/

/-! ## Hangul

A syllable of Hangul is a leading consonant, a vowel, and possibly a trailing consonant.
The syllables are numbered in the order of these parts.
-/

def firstSyllable : Nat := 0xac00

def firstLeading : Nat := 0x1100

def firstVowel : Nat := 0x1161

/-- The code point before the first trailing consonant. -/
def noTrailing : Nat := 0x11a7

/-- The two parts that a syllable is made of: a leading consonant and a vowel, or a
syllable that has no trailing consonant and one. -/
def syllableParts? (code : Nat) : Option (List Nat) :=
  if firstSyllable ≤ code && code < firstSyllable + 19 * 21 * 28 then
    let index := code - firstSyllable
    if index % 28 == 0 then some [firstLeading + index / 588, firstVowel + index / 28 % 21]
    else some [code - index % 28, noTrailing + index % 28]
  else none

def syllable? (first second : Nat) : Option Nat :=
  if firstLeading ≤ first && first < firstLeading + 19
    && firstVowel ≤ second && second < firstVowel + 21
  then some (firstSyllable + (first - firstLeading) * 588 + (second - firstVowel) * 28)
  else if firstSyllable ≤ first && first < firstSyllable + 19 * 21 * 28
    && (first - firstSyllable) % 28 == 0
    && noTrailing < second && second < noTrailing + 28
  then some (first + (second - noTrailing))
  else none

/-! ## Taking apart -/

/-- The parts of a character, which may have parts in turn. -/
def partsOf (code : Nat) : List Nat :=
  if code < 0xc0 then [code]
  else
    let listed := (imageOf? composedChars code).or (imageOf? replacedChars code)
    ((syllableParts? code).or listed).getD [code]

/-- A character taken apart as far as possible.  No character is more than three steps
deep. -/
def decompose (code : Nat) : List Nat :=
  (((partsOf code).flatMap partsOf).flatMap partsOf).flatMap partsOf

/-! ## Order of marks -/

structure Ranked where
  rank : Nat
  code : Nat
deriving DecidableEq, Repr

def Ranked.ofCode (code : Nat) : Ranked :=
  ⟨combiningClass code, code⟩

/-- Put a mark before a text, behind the marks of lower classes that begin it. -/
def placeMark (mark : Ranked) : List Ranked → List Ranked
  | [] => [mark]
  | next :: rest =>
    if 0 < next.rank ∧ next.rank < mark.rank then next :: placeMark mark rest
    else mark :: next :: rest

/-- A text with the marks on each character in the order of their classes. -/
def orderMarks (text : List Ranked) : List Ranked :=
  text.foldr placeMark []

/-- Placing a mark loses nothing. -/
theorem placeMark_perm (mark : Ranked) (text : List Ranked) :
    (placeMark mark text).Perm (mark :: text) := by
  induction text with
  | nil => exact List.Perm.refl _
  | cons next rest step =>
    by_cases lower : 0 < next.rank ∧ next.rank < mark.rank
    · rw [placeMark, if_pos lower]
      exact (step.cons next).trans (List.Perm.swap mark next rest)
    · rw [placeMark, if_neg lower]

/-- Ordering the marks loses nothing. -/
theorem orderMarks_perm (text : List Ranked) : (orderMarks text).Perm text := by
  induction text with
  | nil => exact List.Perm.refl _
  | cons first rest step => exact (placeMark_perm first _).trans (step.cons first)

/-! ## Putting together -/

/-- The pairs that are written as one character. -/
def composingPairs : List ((Nat × Nat) × Nat) :=
  composedChars.flatMap fun { span, images } =>
    images.zipIdx.filterMap fun (image, index) =>
      match image with
      | [first, second] => some ((first, second), span.first + index)
      | _ => none

/-- The character that two others are written as. -/
def pair? (first second : Nat) : Option Nat :=
  (syllable? first second).or (composingPairs.lookup (first, second))

/-- Write a text after a character that marks may join.  `passed` holds the marks between
that do not, the last one first.  A mark joins the character only if every mark between
them is of a lower class. -/
def joinMarks (base : Nat) (passed : List Ranked) : List Ranked → List Nat
  | [] => base :: (passed.reverse.map Ranked.code)
  | next :: rest =>
    let reachable := passed.head?.all (·.rank < next.rank)
    match if reachable then pair? base next.code else none with
    | some joined => joinMarks joined passed rest
    | none =>
      if next.rank = 0 then base :: (passed.reverse.map Ranked.code) ++ joinMarks next.code [] rest
      else joinMarks base (next :: passed) rest

/-- Write an ordered text.  Marks at its beginning have nothing to join. -/
def joinText : List Ranked → List Nat
  | [] => []
  | next :: rest =>
    if next.rank = 0 then joinMarks next.code [] rest else next.code :: joinText rest

/-- The canonical way to write a text. -/
def compose (text : List Nat) : List Nat :=
  if text.all (· < 0xc0) then text
  else joinText (orderMarks ((text.flatMap decompose).map Ranked.ofCode))

end Text
end LendingGateway
