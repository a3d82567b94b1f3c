import LendingGateway.Text.Digits
import LendingGateway.Text.Split

namespace LendingGateway
namespace Web

/-!
# Internet addresses

Addresses of both versions are kept as lists of pieces: four octets for version 4 and
eight groups of sixteen bits for version 6.  A version 6 address may be written with
one gap that stands for one or more groups of zero, and its last two groups may be
written as a version 4 address.
-/

/-- An octet in decimal without leading zeros. -/
def readOctet? (digits : List Char) : Option Nat :=
  if digits.isEmpty || 3 < digits.length || (digits.head? == some '0' && 1 < digits.length) then
    none
  else (Text.digitsValue? 10 digits).filter (· < 256)

def readIpv4? (text : List Char) : Option (List Nat) := do
  let octets ← (Text.splitAt '.' text).mapM readOctet?
  if octets.length = 4 then some octets else none

/-- A group of sixteen bits as one to four hexadecimal digits. -/
def readGroup? (digits : List Char) : Option Nat :=
  if digits.isEmpty || 4 < digits.length then none else Text.digitsValue? 16 digits

/-- Groups between colons.  The last one may be a version 4 address if that is allowed. -/
def readGroups? (dotted : Bool) : List (List Char) → Option (List Nat)
  | [] => some []
  | [last] =>
    match readGroup? last with
    | some group => some [group]
    | none =>
      if dotted then
        match readIpv4? last with
        | some [a, b, c, d] => some [a * 256 + b, c * 256 + d]
        | _ => none
      else none
  | piece :: pieces => do
    let group ← readGroup? piece
    let groups ← readGroups? dotted pieces
    some (group :: groups)

/-- The text before and after the first two colons in a row. -/
def splitGap? : List Char → Option (List Char × List Char)
  | ':' :: ':' :: rest => some ([], rest)
  | c :: rest => (splitGap? rest).map fun (front, back) => (c :: front, back)
  | [] => none

/-- The groups on one side of the gap, of which there may be none. -/
def readSide? (dotted : Bool) (text : List Char) : Option (List Nat) :=
  if text.isEmpty then some [] else readGroups? dotted (Text.splitAt ':' text)

def readIpv6? (text : List Char) : Option (List Nat) :=
  match splitGap? text with
  | none => (readGroups? true (Text.splitAt ':' text)).filter (·.length = 8)
  | some (front, back) => do
    let front ← readSide? false front
    let back ← readSide? true back
    let given := front.length + back.length
    if given ≤ 7 then some (front ++ List.replicate (8 - given) 0 ++ back) else none

/-! ## Writing -/

def hexText (number : Nat) : String :=
  String.ofList (Nat.toDigits 16 number)

def writeIpv4 (octets : List Nat) : String :=
  String.intercalate "." (octets.map toString)

def zeroRun (groups : List Nat) : Nat :=
  (groups.takeWhile (· == 0)).length

/-- Where the first of the longest runs of zero groups begins, and how long it is. -/
def longestZeros (groups : List Nat) : Nat × Nat :=
  (List.range groups.length).foldl
    (fun best start =>
      let length := zeroRun (groups.drop start)
      if best.2 < length then (start, length) else best)
    (0, 0)

def writeGroups (groups : List Nat) : String :=
  String.intercalate ":" (groups.map hexText)

/-- A version 6 address, with the gap in place of the longest run of two or more zero
groups. -/
def writeIpv6 (groups : List Nat) : String :=
  let (start, length) := longestZeros groups
  if length < 2 then writeGroups groups
  else writeGroups (groups.take start) ++ "::" ++ writeGroups (groups.drop (start + length))

end Web
end LendingGateway
