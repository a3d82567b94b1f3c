import LendingGateway.Text.Mark

namespace LendingGateway
namespace Web

open Text

/-!
# Directions in names

Some scripts run from the left and some from the right, and numbers run from the left in
both.  In a name that holds anything from the right, every label has to keep its own order
when the whole is displayed.  The tables are about the characters that a prepared name may
hold; a range may run over others.
-/

/-- How a character takes part in the order of a line. -/
inductive Direction where
  | left
  | right
  | europeanNumber
  | arabicNumber
  /-- The character goes along with the ones around it. -/
  | neutral
  /-- The character goes along with the one before it. -/
  | mark
deriving DecidableEq, Repr

/-- The letters that run from the right. -/
def lettersFromRight : List Span := readSet [
  "5be 5c0 5c3 5c6 5d0-5f4 608 60b 60d 61b-64a 66d-66f 671-6d5 6e5-6e6 6ee-6ef 6fa-710 712-72f",
  "74d-7a5 7b1-7ea 7f4-7f5 7fa 7fe-815 81a 824 828 830-858 85e-88f 8a0-8c9 fbb2-fbc2 fe73",
  "10800-1091b 10920-10a00 10a10-10a35 10a40-10ae4 10aeb-10b35 10b40-10d23 10d40-10d4f",
  "10d6f-10d8f 10e80-10ea9 10ead-10ec7 10f00-10f45 10f51-10f81 10f86-10ff6 1e800-1e8cf",
  "1e922-1e943 1e94b-1ed3d"]

/-- The digits of numbers within Arabic script. -/
def arabicDigits : List Span := readSet [
  "660-669 66b-66c 10d30-10d39 10e60-10e7e"]

/-- The digits above ASCII of numbers as in European scripts. -/
def europeanDigits : List Span := readSet [
  "6f0-6f9 102e1-102fb"]

/-- The signs above ASCII that have no direction. -/
def neutralSigns : List Span := readSet [
  "a1-d7 f7 2b9-2ba 2c2-2cf 2d2-2ed 2ef-2ff 375 3f6 58a-58f 606-607 609-60a 60c 60e-60f 66a 6de",
  "6e9 7f6-7f9 9f2-9f3 9fb af1 bf3-bfa c78-c7e e3f f3a-f3d 1390-1399 1400 169b-169c 17db",
  "17f0-180a 1940-1945 19de-19ff 200c-20c1 2104-214d 218a-2335 237b-2394 2396-26ab 26ad-27ff",
  "2900-2bff 2ce5-2cea 2cf9-2cff 2e00-3004 3008-3020 3030 3037 303d-303f 30a0 30fb 31c0-31e5",
  "4dc0-4dff a490-a4c6 a60d-a60f a673 a67e-a67f a700-a721 a788 a828-a82b a838-a839 a874-a877",
  "ab6a-ab6b fbc3-fdff fe45-fe46 10101 10140-1018c 10190-101a0 1091f 10b39-10b3f 10d6e",
  "10ed0-10ed8 11052-11065 11660-1166c 11fd5-11ff1 16fe2 1cc00-1cef0 1d1e9-1d241 1d245",
  "1d300-1d356 1e2ff 1eef0-1f12f 1f16d-1f16f 1f1ad 1f260-1fbfa"]

/-- The marks that run from the left all the same. -/
def marksFromLeft : List Char :=
  ['\u0cbf', '\u0cc6', Char.ofNat 0x11a07, Char.ofNat 0x11a08, Char.ofNat 0x11c3f]

def directionOf (c : Char) : Direction :=
  if c.toNat < 0x80 then
    if c.isAlpha then .left else if c.isDigit then .europeanNumber else .neutral
  else if isNonspacing c then if marksFromLeft.contains c then .left else .mark
  else if isIn lettersFromRight c then .right
  else if isIn arabicDigits c then .arabicNumber
  else if isIn europeanDigits c then .europeanNumber
  else if isIn neutralSigns c then .neutral
  else .left

/-- Whether a label holds anything that runs from the right. -/
def runsFromRight (label : List Char) : Bool :=
  label.any fun c => directionOf c == .right || directionOf c == .arabicNumber

/-- Whether the last direction and all of them are among the given ones. -/
def endsAndStaysIn (ends stays : List Direction) (directions : List Direction) : Bool :=
  directions.getLast?.all ends.contains && directions.all stays.contains

/-- Whether a label keeps its order.  It begins with a letter; what follows, without the
marks at the end, runs along with this letter and ends in a letter or a number.  From the
right there are two kinds of numbers, of which a label holds one. -/
def keepsOrder (label : List Char) : Bool :=
  match label.map directionOf with
  | [] => true
  | first :: rest =>
    let body := (rest.reverse.dropWhile (· == .mark)).reverse
    match first with
    | .left =>
      endsAndStaysIn [.left, .europeanNumber] [.left, .europeanNumber, .neutral, .mark] body
    | .right =>
      endsAndStaysIn [.right, .europeanNumber, .arabicNumber]
        [.right, .europeanNumber, .arabicNumber, .neutral, .mark] body
      && !(body.contains .europeanNumber && body.contains .arabicNumber)
    | _ => false

/-- Whether the labels of a name keep their order. -/
def directionsFit (labels : List (List Char)) : Bool :=
  !labels.any runsFromRight || labels.all keepsOrder

end Web
end LendingGateway
