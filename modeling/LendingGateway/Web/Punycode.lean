namespace LendingGateway
namespace Web

/-!
# Host labels outside ASCII

A label of a host name that holds characters outside ASCII is written in ASCII: first
the ASCII characters of the label, then for each other character, in ascending order,
a number that says where it goes.  The numbers are written to a base that varies with
their size, and the encoding is canonical.
-/

namespace Punycode

/-- The digit of a value below thirty-six. -/
def digit (value : Nat) : Char :=
  if value < 26 then Char.ofNat ('a'.toNat + value) else Char.ofNat ('0'.toNat + (value - 26))

def value? (c : Char) : Option Nat :=
  if 'a' ≤ c ∧ c ≤ 'z' then some (c.toNat - 'a'.toNat)
  else if '0' ≤ c ∧ c ≤ '9' then some (c.toNat - '0'.toNat + 26)
  else none

/-- The least digit that does not end a number, at a position and under a bias. -/
def threshold (position bias : Nat) : Nat :=
  if position ≤ bias then 1 else if bias + 26 ≤ position then 26 else position - bias

/-- Divide until a number is small; returns the count of divisions and the rest. -/
def settle : (fuel : Nat) → (delta divisions : Nat) → Nat × Nat
  | 0, delta, divisions => (divisions, delta)
  | fuel + 1, delta, divisions =>
    if 455 < delta then settle fuel (delta / 35) (divisions + 1) else (divisions, delta)

/-- The bias for the next number. -/
def adapt (delta points : Nat) (first : Bool) : Nat :=
  let delta := if first then delta / 700 else delta / 2
  let (divisions, delta) := settle 64 (delta + delta / points) 0
  36 * divisions + 36 * delta / (delta + 38)

/-- The digits of a number. -/
def writeNumber (bias : Nat) : (fuel : Nat) → (position number : Nat) → List Char
  | 0, _, _ => []
  | fuel + 1, position, number =>
    let least := threshold position bias
    if number < least then [digit number]
    else
      digit (least + (number - least) % (36 - least)) ::
        writeNumber bias fuel (position + 36) ((number - least) / (36 - least))

/-- The state of the encoder: distance so far, bias, how many characters are placed, and
the output in reverse. -/
structure Progress where
  delta : Nat
  bias : Nat
  placed : Nat
  output : List Char

/-- Walk over the label once for one character, writing a number at each occurrence. -/
def placeAll (code ascii : Nat) (label : List Nat) (progress : Progress) : Progress :=
  label.foldl
    (fun progress point =>
      if point < code then { progress with delta := progress.delta + 1 }
      else if point = code then
        let digits := writeNumber progress.bias 32 36 progress.delta
        { delta := 0
          bias := adapt progress.delta (progress.placed + 1) (progress.placed == ascii)
          placed := progress.placed + 1
          output := digits.reverse ++ progress.output }
      else progress)
    progress

/-- The ASCII form of a label. -/
def encode (label : List Char) : List Char :=
  let points := label.map Char.toNat
  let ascii := label.filter (·.toNat < 0x80)
  let others := (points.filter (0x80 ≤ ·)).mergeSort.eraseDups
  let start : List Char := if ascii.isEmpty then [] else ascii ++ ['-']
  let final := others.foldl
    (fun (state : Nat × Progress) code =>
      let (next, progress) := state
      let skipped := (code - next) * (progress.placed + 1)
      let progress := placeAll code ascii.length points
        { progress with delta := progress.delta + skipped }
      (code + 1, { progress with delta := progress.delta + 1 }))
    (0x80, ⟨0, 72, ascii.length, start.reverse⟩)
  final.2.output.reverse

/-- Read one number off the front; also returns the rest. -/
def readNumber? (bias : Nat) : (position weight total : Nat) → List Char →
    Option (Nat × List Char)
  | _, _, _, [] => none
  | position, weight, total, c :: rest => do
    let value ← value? c
    let total := total + value * weight
    let least := threshold position bias
    if value < least then some (total, rest)
    else readNumber? bias (position + 36) (weight * (36 - least)) total rest

/-- Put the characters that the numbers stand for into their places.  Numbers that stand
for no character are refused. -/
def insertAll? : (fuel : Nat) → (code bias index : Nat) → List Nat → List Char →
    Option (List Nat)
  | 0, _, _, _, _, _ => none
  | _ + 1, _, _, _, done, [] => some done
  | fuel + 1, code, bias, index, done, digits => do
    let (number, rest) ← readNumber? bias 36 1 0 digits
    let points := done.length + 1
    let target := index + number
    let code := code + target / points
    let place := target % points
    if code < 0xd800 || (0xdfff < code && code < 0x110000) then
      insertAll? fuel code (adapt number points (index == 0)) (place + 1)
        (done.take place ++ code :: done.drop place) rest
    else none

/-- The last hyphen splits a label into its ASCII characters and its numbers. -/
def splitLabel (label : List Char) : List Char × List Char :=
  let backward := label.reverse
  match backward.dropWhile (· != '-') with
  | [] => ([], label)
  | _ :: front => (front.reverse, (backward.takeWhile (· != '-')).reverse)

/-- The label that an ASCII form stands for. -/
def decode? (text : List Char) : Option (List Char) := do
  let (ascii, digits) := splitLabel text
  let points ← insertAll? (digits.length + 1) 0x80 72 0 (ascii.map Char.toNat) digits
  some (points.map Char.ofNat)

end Punycode

end Web
end LendingGateway
