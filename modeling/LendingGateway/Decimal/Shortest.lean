namespace LendingGateway
namespace Decimal

/-!
# The shortest decimal that names a real

A yield is kept in binary and written in decimal.  It is written with the fewest
digits that read back as the same number, and among those with the nearest ones.
Everything is computed in natural numbers from the bits of the number, so no rounding
enters.
-/

/-- A finite nonnegative real as an integer times a power of two, together with how
far below it the numbers begin that round to it. -/
structure Binary where
  significand : Nat
  exponent : Int
  /-- Whether the neighbour below is only half as far away as the one above. -/
  narrow : Bool

/-- A decimal number as an integer times a power of ten. -/
structure Scaled where
  digits : Nat
  exponent : Int
deriving DecidableEq, Repr

/-- The magnitude of a finite real, exactly. -/
def Binary.ofBits (bits : UInt64) : Binary :=
  let fraction : Nat := bits.toNat % 0x10000000000000
  let field : Nat := bits.toNat / 0x10000000000000 % 0x800
  if field = 0 then ⟨fraction, -1074, false⟩
  else ⟨fraction + 0x10000000000000, (field : Int) - 1075, decide (fraction = 0 ∧ field > 1)⟩

/-- The rational `numerator * base ^ exponent / denominator` as a fraction. -/
def scale (base : Nat) (exponent : Int) (fraction : Nat × Nat) : Nat × Nat :=
  if exponent < 0 then (fraction.1, fraction.2 * Nat.pow base exponent.natAbs)
  else (fraction.1 * Nat.pow base exponent.toNat, fraction.2)

/-- The power of ten of the leading digit of a positive fraction. -/
def leadingExponent (fraction : Nat × Nat) : Int :=
  let guess : Int := (Nat.toDigits 10 fraction.1).length - (Nat.toDigits 10 fraction.2).length
  let reached := scale 10 (-guess) fraction
  if reached.2 ≤ reached.1 then guess else guess - 1

/-- Whether `candidate` quarter steps of the binary grid round to the number: its
neighbours lie four quarters away, so the interval reaches two quarters to each side, or
one below a power of two, with its ends when the significand is even. -/
def Binary.covers (number : Binary) (candidate : Nat × Nat) : Bool :=
  let centre := 4 * number.significand
  let low := (centre - if number.narrow then 1 else 2) * candidate.2
  let high := (centre + 2) * candidate.2
  if number.significand % 2 = 0 then low ≤ candidate.1 && candidate.1 ≤ high
  else low < candidate.1 && candidate.1 < high

/-- The best decimal with a leading digit at `leading` and the given number of digits, if
one rounds to the number: one of the two neighbours on the decimal grid, the nearer of
them when both do, and the even one when they are equally near. -/
def Binary.atDigits? (number : Binary) (leading : Int) (count : Nat) : Option Scaled :=
  let exponent := leading - count + 1
  let steps := scale 10 (-exponent) (scale 2 number.exponent (number.significand, 1))
  let below := steps.1 / steps.2
  let quarters (digits : Nat) : Nat × Nat :=
    scale 10 exponent (scale 2 (2 - number.exponent) (digits, 1))
  let belowFits := below ≠ 0 ∧ number.covers (quarters below)
  let aboveFits := number.covers (quarters (below + 1))
  let twice := 2 * (steps.1 % steps.2)
  if belowFits then
    if aboveFits ∧ (steps.2 < twice ∨ (steps.2 = twice ∧ below % 2 = 1))
    then some ⟨below + 1, exponent⟩ else some ⟨below, exponent⟩
  else if aboveFits then some ⟨below + 1, exponent⟩ else none

/-- A decimal without zeros at the end of its digits. -/
def Scaled.strip (fuel : Nat) (number : Scaled) : Scaled :=
  match fuel with
  | 0 => number
  | fuel + 1 =>
    if number.digits ≠ 0 ∧ number.digits % 10 = 0
    then Scaled.strip fuel ⟨number.digits / 10, number.exponent + 1⟩ else number

/-- The shortest decimal that rounds to a finite real, sign aside.  Seventeen digits
always suffice. -/
def shortest (bits : UInt64) : Scaled :=
  let number := Binary.ofBits bits
  if number.significand = 0 then ⟨0, 0⟩
  else
    let leading := leadingExponent (scale 2 number.exponent (number.significand, 1))
    let found := (List.range 17).findSome? fun count => number.atDigits? leading (count + 1)
    (found.getD ⟨0, 0⟩).strip 18

end Decimal
end LendingGateway
