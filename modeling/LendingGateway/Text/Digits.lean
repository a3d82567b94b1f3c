namespace LendingGateway
namespace Text

/-!
# Numbers in text

A number is written as digits to a base, most significant first.  Settings and addresses
accept leading zeros and are limited only by the size of the number.
-/

/-- The value of a digit to a base of at most sixteen. -/
def digitValue? (base : Nat) (c : Char) : Option Nat :=
  let value? :=
    if '0' ≤ c ∧ c ≤ '9' then some (c.toNat - '0'.toNat)
    else if 'a' ≤ c ∧ c ≤ 'f' then some (c.toNat - 'a'.toNat + 10)
    else if 'A' ≤ c ∧ c ≤ 'F' then some (c.toNat - 'A'.toNat + 10)
    else none
  value?.filter (· < base)

/-- The number that some digits stand for, most significant first. -/
def digitsValue? (base : Nat) (digits : List Char) : Option Nat :=
  digits.foldlM (fun total c => (digitValue? base c).map (total * base + ·)) 0

/-- A number in decimal, below a bound. -/
def readBounded? (bound : Nat) (digits : List Char) : Option Nat :=
  if digits.isEmpty then none else (digitsValue? 10 digits).filter (· < bound)

end Text
end LendingGateway
