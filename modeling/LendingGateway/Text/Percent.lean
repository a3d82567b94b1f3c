namespace LendingGateway
namespace Text

/-!
# Percent-encoding

A path segment may carry any octet as a percent sign and two hexadecimal digits.
Decoding leaves a percent sign alone that two such digits do not follow.
-/

/-- The value of a hexadecimal digit in either case. -/
def hexValue? (octet : UInt8) : Option UInt8 :=
  if 0x30 ≤ octet ∧ octet ≤ 0x39 then some (octet - 0x30)
  else if 0x41 ≤ octet ∧ octet ≤ 0x46 then some (octet - 0x37)
  else if 0x61 ≤ octet ∧ octet ≤ 0x66 then some (octet - 0x57)
  else none

/-- The hexadecimal digit, in capitals, of a value below sixteen. -/
def hexCapital (value : UInt8) : UInt8 :=
  if value < 10 then value + 0x30 else value + 0x37

/-- One octet written as a percent sign and two digits. -/
def percentTriple (octet : UInt8) : List UInt8 :=
  [0x25, hexCapital (octet / 16), hexCapital (octet % 16)]

/-- The octets that a percent-encoded text stands for. -/
def percentDecode : List UInt8 → List UInt8
  | 0x25 :: high :: low :: rest =>
    match hexValue? high, hexValue? low with
    | some upper, some lower => (upper * 16 + lower) :: percentDecode rest
    | _, _ => 0x25 :: percentDecode (high :: low :: rest)
  | octet :: rest => octet :: percentDecode rest
  | [] => []

def percentEncode (bytes : List UInt8) : List UInt8 :=
  bytes.flatMap percentTriple

end Text
end LendingGateway
