import LendingGateway.Json.Lexer

namespace LendingGateway
namespace Json

/-!
# Numbers

A number is first read as a literal, the digits that stand in the document, and then
given a value.  A literal without fraction and exponent denotes an integer as long as
it fits the machine's words; every other literal denotes a real.  The value of a real is
computed from at most as many leading digits as fit a word, scaled by a power of ten.
-/

/-- The digits of a number as written. -/
structure Literal where
  negative : Bool
  whole : List Nat
  fraction : Option (List Nat)
  /-- The exponent, with its sign first. -/
  exponent : Option (Bool × List Nat)
deriving DecidableEq, Repr

/-- The value of a number.  Integers lie between `-2^63` and `2^64 - 1`. -/
inductive Numeral where
  | integer (value : Int)
  | real (value : Float)

def isDigit (octet : UInt8) : Bool :=
  0x30 ≤ octet && octet ≤ 0x39

def takeDigits (input : Input) : List Nat × Input :=
  ((input.takeWhile isDigit).map fun octet => octet.toNat - 0x30, input.dropWhile isDigit)

/-- Read the digits before any point: a zero alone, or digits that do not begin with
one.  The argument `ended` is the cause to give when the input ends where a digit is
due. -/
def lexWhole (ended : Cause) (input : Input) : Except Cause (List Nat × Input) :=
  match input with
  | [] => .error ended
  | octet :: rest =>
    if octet = 0x30 then
      if (rest.head?.map isDigit).getD false then .error .badNumber else .ok ([0], rest)
    else if isDigit octet then .ok (takeDigits input)
    else .error .badNumber

/-- Read digits of which there has to be one. -/
def lexDigits (ended : Cause) (input : Input) : Except Cause (List Nat × Input) :=
  match input with
  | [] => .error ended
  | octet :: _ => if isDigit octet then .ok (takeDigits input) else .error .badNumber

/-- Read a fraction if a point stands here. -/
def lexFraction (ended : Cause) (input : Input) : Except Cause (Option (List Nat) × Input) :=
  match input with
  | 0x2e :: rest => do
    let (digits, rest) ← lexDigits ended rest
    .ok (some digits, rest)
  | _ => .ok (none, input)

/-- Read an exponent if its letter stands here. -/
def lexExponent (ended : Cause) (input : Input) : Except Cause (Option (Bool × List Nat) × Input) :=
  match input with
  | octet :: rest =>
    if octet = 0x65 ∨ octet = 0x45 then do
      let (negative, rest) := match rest with
        | 0x2b :: rest => (false, rest)
        | 0x2d :: rest => (true, rest)
        | _ => (false, rest)
      let (digits, rest) ← lexDigits ended rest
      .ok (some (negative, digits), rest)
    else .ok (none, input)
  | [] => .ok (none, input)

/-- Read a literal at a minus sign or a digit. -/
def lexLiteral (ended : Cause) (input : Input) : Except Cause (Literal × Input) := do
  let (negative, rest) := match input with
    | 0x2d :: rest => (true, rest)
    | _ => (false, input)
  let (whole, rest) ← lexWhole ended rest
  let (fraction, rest) ← lexFraction ended rest
  let (exponent, rest) ← lexExponent ended rest
  .ok (⟨negative, whole, fraction, exponent⟩, rest)

/-- Take digits into a significand for as long as it fits sixty-four bits, and give back
the digits left out. -/
def absorb : Nat → List Nat → Nat × List Nat
  | significand, [] => (significand, [])
  | significand, digit :: digits =>
    if significand * 10 + digit < UInt64.size then absorb (significand * 10 + digit) digits
    else (significand, digit :: digits)

def digitsValue (digits : List Nat) : Nat :=
  digits.foldl (fun number digit => number * 10 + digit) 0

/-- The real nearest to a power of ten. -/
def tenTo (power : Nat) : Float :=
  Float.ofScientific 1 false power

/-- A real divided by a power of ten, in steps of `10^308` until it vanishes or the
power is small enough to divide by at once. -/
def scaleDown (real : Float) (power : Nat) : Float :=
  if power ≤ 308 then real / tenTo power
  else if real == 0.0 then real
  else scaleDown (real / tenTo 308) (power - 308)
termination_by power

/-- A significand times a power of ten.  It fails when the result is too large. -/
def scaleReal (significand : Nat) (power : Int) : Except Cause Float :=
  let real := significand.toUInt64.toFloat
  if power < 0 then .ok (scaleDown real power.natAbs)
  else if power ≤ 308 then
    let scaled := real * tenTo power.toNat
    if scaled.isInf then .error .numberOutOfRange else .ok scaled
  else if real == 0.0 then .ok real
  else .error .numberOutOfRange

/-- The magnitude of a literal that denotes a real, from its significand and the power
of ten that the position of its point gives.  Exponents beyond thirty-two bits decide
the result alone. -/
def Literal.magnitude (literal : Literal) (significand : Nat) (power : Int) :
    Except Cause Float :=
  match literal.exponent with
  | none => scaleReal significand power
  | some (negative, digits) =>
    let size := digitsValue digits
    if size < 0x80000000 then
      scaleReal significand (if negative then power - size else power + size)
    else if significand = 0 ∨ negative then .ok 0.0
    else .error .numberOutOfRange

/-- The value of a literal.  Minus zero and integers beyond the machine's words are
reals. -/
def Literal.value (literal : Literal) : Except Cause Numeral :=
  let (significand, beyond) := absorb 0 literal.whole
  if literal.fraction.isNone ∧ literal.exponent.isNone ∧ beyond = []
      ∧ (literal.negative = false ∨ (0 < significand ∧ Int64.minValue.toInt ≤ -significand)) then
    .ok (.integer (if literal.negative then -(significand : Int) else significand))
  else do
    let digits := literal.fraction.getD []
    let (significand, unread) := absorb significand digits
    let power : Int := (beyond.length : Int) - (digits.length - unread.length : Nat)
    let magnitude ← literal.magnitude significand power
    .ok (.real (if literal.negative then -magnitude else magnitude))

/-- Read a number at a minus sign or a digit. -/
def readNumeral (input : Input) : Except Cause (Numeral × Input) := do
  let (literal, rest) ← lexLiteral .endInValue input
  let value ← literal.value
  .ok (value, rest)

/-- Skip a number at a minus sign or a digit.  Its value is not asked for, so it may be
of any size. -/
def skipNumeral (input : Input) : Except Cause Input := do
  let (_, rest) ← lexLiteral .badNumber input
  .ok rest

def Numeral.found : Numeral → Found
  | .integer value => .integer value
  | .real value => .real value

/-- The real that a number denotes, rounded if it is an integer. -/
def Numeral.toReal : Numeral → Float
  | .integer value =>
    let magnitude := value.natAbs.toUInt64.toFloat
    if value < 0 then -magnitude else magnitude
  | .real value => value

def Numeral.toInt64 : Numeral → Except Cause Int64
  | .integer value =>
    if Int64.minValue.toInt ≤ value ∧ value ≤ Int64.maxValue.toInt then .ok (Int64.ofInt value)
    else .error (.integerOutOfRange value .int64)
  | .real value => .error (.wrongType (.real value) .int64)

def Numeral.toUInt64 : Numeral → Except Cause UInt64
  | .integer value =>
    if 0 ≤ value ∧ value < UInt64.size then .ok (UInt64.ofNat value.toNat)
    else .error (.integerOutOfRange value .nat64)
  | .real value => .error (.wrongType (.real value) .nat64)

end Json
end LendingGateway
