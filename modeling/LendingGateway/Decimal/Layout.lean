import LendingGateway.Decimal.Shortest

namespace LendingGateway
namespace Decimal

/-!
# Reals as text

Yields are written with a point as long as their size allows it, and otherwise with a
power of ten whose sign is always shown.
-/

/-- How a decimal is laid out: the leading exponents from `least` up to but not
including `beyond` are written positionally. -/
structure Layout where
  least : Int
  beyond : Int

/-- Yields between `0.00001` and `10^16` are written positionally. -/
def yieldLayout : Layout := ⟨-5, 16⟩

def digitsOf (number : Nat) : List Char :=
  Nat.toDigits 10 number

/-- Positional text of digits whose leading one stands at a power of ten.  A point
always has a digit on both sides. -/
def positional (digits : List Char) (leading : Int) : List Char :=
  if leading < 0 then
    ['0', '.'] ++ List.replicate (leading.natAbs - 1) '0' ++ digits
  else
    let whole := leading.toNat + 1
    if digits.length ≤ whole then
      digits ++ List.replicate (whole - digits.length) '0' ++ ['.', '0']
    else digits.take whole ++ ['.'] ++ digits.drop whole

/-- Text with a power of ten.  A single digit has no point after it. -/
def scientific (digits : List Char) (leading : Int) : List Char :=
  let power := (if leading < 0 then ['-'] else ['+']) ++ digitsOf leading.natAbs
  match digits with
  | [] => []
  | [only] => only :: 'e' :: power
  | first :: others => first :: '.' :: others ++ 'e' :: power

def Layout.write (layout : Layout) (number : Scaled) : List Char :=
  let digits := digitsOf number.digits
  let leading := number.exponent + digits.length - 1
  if layout.least ≤ leading ∧ leading < layout.beyond
  then positional digits leading else scientific digits leading

/-- The text of a finite real: a minus sign if its sign bit is set, also before zero,
and the shortest decimal that reads back. -/
def writeReal (number : Float) : String :=
  let bits := number.toBits
  let negative := bits.toNat / 0x8000000000000000 = 1
  String.ofList ((if negative then ['-'] else []) ++ yieldLayout.write (shortest bits))

end Decimal
end LendingGateway
