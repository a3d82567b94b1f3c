import LendingGateway.Json.Tree
import LendingGateway.Proofs.Json.NumberFronts

namespace LendingGateway
namespace Json

/-!
# Numbers that are written

An integer of a machine word and a finite real are written with digits that fit a machine word.
Positional text moves the point within the digits and the zeros around them, and text with a
power of ten shows the digits as they are, so its value is that of the shortest decimal.
-/

/-! ## Digits as octets -/

theorem flatMap_digits {digits : List Char} (decimal : ∀ c ∈ digits, c.isDigit = true) :
    digits.flatMap String.utf8EncodeChar = digitOctets digits := by
  rw [← Text.octets_ofList, octets_digits decimal]

theorem digitsOf_digitOctets {digits : List Char} (decimal : ∀ c ∈ digits, c.isDigit = true) :
    digitsOf (digitOctets digits) = digitValues digits := by
  rw [digitsOf, digitOctets, List.map_map, digitValues]
  apply List.map_congr_left
  intro c member
  have bounds := isDigit_bounds (decimal c member)
  rw [Function.comp_apply, UInt8.toNat_ofNat', Nat.mod_eq_of_lt (by omega)]

theorem isDigit_of_mem_digitOctets {digits : List Char}
    (decimal : ∀ c ∈ digits, c.isDigit = true) :
    ∀ octet ∈ digitOctets digits, isDigit octet = true := by
  intro octet member
  rcases List.mem_map.mp member with ⟨c, held, rfl⟩
  exact isDigit_toUInt8 (decimal c held)

theorem isDigits_digitOctets {digits : List Char} (decimal : ∀ c ∈ digits, c.isDigit = true)
    (nonempty : digits ≠ []) : IsDigits (digitOctets digits) :=
  ⟨fun impossible => nonempty (List.map_eq_nil_iff.mp impossible),
    isDigit_of_mem_digitOctets decimal⟩

theorem isWhole_digitOctets {first : Char} {others : List Char}
    (decimal : ∀ c ∈ first :: others, c.isDigit = true) (nonzero : first ≠ '0') :
    IsWhole (digitOctets (first :: others)) := by
  refine .digits ?_ (isDigit_of_mem_digitOctets decimal)
  intro same
  have bounds := isDigit_bounds (decimal first List.mem_cons_self)
  have code := congrArg UInt8.toNat same
  rw [UInt8.toNat_ofNat', Nat.mod_eq_of_lt (by omega)] at code
  exact nonzero (Char.toNat_inj.mp code)

/-! ## Values of digits -/

theorem digitsValue_toDigits (number : Nat) :
    digitsValue (digitValues (Nat.toDigits 10 number)) = number := by
  rw [digitsValue, foldl_digitValues, Nat.ofDigitChars_ten_toDigits]

theorem digitsValue_zeros (count : Nat) (digits : List Char) :
    digitsValue (digitValues (List.replicate count '0' ++ digits)) =
      digitsValue (digitValues digits) := by
  induction count with
  | zero => rfl
  | succ count inductionHypothesis => exact inductionHypothesis

theorem digitsValue_lt {digits : List Char} (decimal : ∀ c ∈ digits, c.isDigit = true) :
    digitsValue (digitValues digits) < 10 ^ digits.length := by
  have bounded : ∀ start, (digitValues digits).foldl (fun number digit => number * 10 + digit)
      start < (start + 1) * 10 ^ digits.length := by
    induction digits with
    | nil => exact fun start => Nat.lt_of_lt_of_eq start.lt_succ_self (Nat.mul_one _).symm
    | cons c digits inductionHypothesis =>
      intro start
      rw [List.forall_mem_cons] at decimal
      have bounds := isDigit_bounds decimal.1
      have later := inductionHypothesis decimal.2 (start * 10 + (c.toNat - 0x30))
      have more : (start * 10 + (c.toNat - 0x30) + 1) * 10 ^ digits.length ≤
          ((start + 1) * 10) * 10 ^ digits.length := Nat.mul_le_mul_right _ (by omega)
      rw [List.length_cons, Nat.pow_succ', ← Nat.mul_assoc]
      exact Nat.lt_of_lt_of_le later more
  have whole := bounded 0
  rwa [Nat.zero_add, Nat.one_mul] at whole

/-! ## Positional text -/

/-- A number without a sign that is moderate under any sign. -/
def IsModerate (octets : Input) : Prop :=
  ∃ whole fraction exponent, octets = whole ++ (fraction ++ exponent) ∧
    ∀ minus, minus = [] ∨ minus = [0x2d] → Moderate minus whole fraction exponent

/-- Digits around a point are moderate if they fit a machine word. -/
theorem isModerate_point {whole digits : List Char} (first : IsWhole (digitOctets whole))
    (decimalWhole : ∀ c ∈ whole, c.isDigit = true) (decimal : ∀ c ∈ digits, c.isDigit = true)
    (nonempty : digits ≠ []) (few : digitsValue (digitValues (whole ++ digits)) < UInt64.size) :
    IsModerate ((whole ++ '.' :: digits).flatMap String.utf8EncodeChar) := by
  have point : String.utf8EncodeChar '.' = [0x2e] := rfl
  have fits : digitsValue (digitsOf (digitOctets whole) ++
      (fractionOf (0x2e :: digitOctets digits)).getD []) < UInt64.size := by
    rw [fractionOf, Option.getD_some, digitsOf_digitOctets decimalWhole,
      digitsOf_digitOctets decimal, digitValues, digitValues, ← List.map_append]
    exact few
  refine ⟨digitOctets whole, 0x2e :: digitOctets digits, [], ?_, fun minus sign =>
    .plain sign first (.point (isDigits_digitOctets decimal nonempty)) fits⟩
  rw [List.flatMap_append, List.flatMap_cons, flatMap_digits decimalWhole, flatMap_digits decimal,
    point, List.append_nil]
  rfl

theorem lt_size_of_length {digits : List Char} (decimal : ∀ c ∈ digits, c.isDigit = true)
    (few : digits.length ≤ 17) : digitsValue (digitValues digits) < UInt64.size :=
  Nat.lt_trans (Nat.lt_of_lt_of_le (digitsValue_lt decimal)
    (Nat.pow_le_pow_right (by decide) few)) (by decide)

theorem zeros_decimal (count : Nat) : ∀ c ∈ List.replicate count '0', c.isDigit = true :=
  fun _ member => (List.mem_replicate.mp member).2 ▸ rfl

/-- The first digit of a number and the power of ten it stands for.  Only the number zero has a
zero there, and stands at the ones. -/
inductive Leads : List Char → Int → Prop where
  | zero : Leads ['0'] 0
  | digits {first : Char} {others : List Char} {leading : Int} (nonzero : first ≠ '0') :
      Leads (first :: others) leading

theorem Leads.ne_nil {digits : List Char} {leading : Int} (leads : Leads digits leading) :
    digits ≠ [] := by
  cases leads <;> exact List.cons_ne_nil _ _

section Positional

variable {digits : List Char} {leading : Int} (decimal : ∀ c ∈ digits, c.isDigit = true)
  (leads : Leads digits leading)

include decimal leads

/-- The point stands before all of the digits. -/
theorem isModerate_before (few : digits.length ≤ 17) (count : Nat) :
    IsModerate ((['0', '.'] ++ List.replicate count '0' ++ digits).flatMap
      String.utf8EncodeChar) := by
  have whole : IsWhole (digitOctets ['0']) := .zero
  change IsModerate ((['0'] ++ '.' :: (List.replicate count '0' ++ digits)).flatMap
    String.utf8EncodeChar)
  refine isModerate_point whole (zeros_decimal 1)
    (List.forall_mem_append.mpr ⟨zeros_decimal count, decimal⟩)
    (fun impossible => leads.ne_nil (List.append_eq_nil_iff.mp impossible).2) ?_
  have front := digitsValue_zeros (count + 1) digits
  rw [List.replicate_succ] at front
  exact front.trans_lt (lt_size_of_length decimal few)

/-- The point stands behind all of the digits. -/
theorem isModerate_behind (small : leading < 16) (short : digits.length ≤ leading.toNat + 1) :
    IsModerate ((digits ++ List.replicate (leading.toNat + 1 - digits.length) '0' ++
      ['.', '0']).flatMap String.utf8EncodeChar) := by
  have all := List.forall_mem_append.mpr
    ⟨decimal, zeros_decimal (leading.toNat + 1 - digits.length)⟩
  have whole : IsWhole (digitOctets (digits ++
      List.replicate (leading.toNat + 1 - digits.length) '0')) := by
    cases leads with
    | zero => exact .zero
    | digits nonzero => exact isWhole_digitOctets all nonzero
  have last : ∀ c ∈ ['0'], c.isDigit = true := zeros_decimal 1
  refine isModerate_point whole all last (List.cons_ne_nil _ _)
    (lt_size_of_length (List.forall_mem_append.mpr ⟨all, last⟩) ?_)
  simp only [List.length_append, List.length_replicate, List.length_singleton]
  omega

/-- The point stands within the digits. -/
theorem isModerate_within (few : digits.length ≤ 17)
    (long : ¬ digits.length ≤ leading.toNat + 1) :
    IsModerate ((digits.take (leading.toNat + 1) ++ ['.'] ++
      digits.drop (leading.toNat + 1)).flatMap String.utf8EncodeChar) := by
  have front : ∀ c ∈ digits.take (leading.toNat + 1), c.isDigit = true :=
    fun c member => decimal c (List.mem_of_mem_take member)
  have whole : IsWhole (digitOctets (digits.take (leading.toNat + 1))) := by
    cases leads with
    | zero => exact absurd (Nat.le_refl 1) long
    | digits nonzero => exact isWhole_digitOctets front nonzero
  rw [List.append_assoc]
  change IsModerate ((digits.take (leading.toNat + 1) ++
    '.' :: digits.drop (leading.toNat + 1)).flatMap String.utf8EncodeChar)
  refine isModerate_point whole front (fun c member => decimal c (List.mem_of_mem_drop member))
    (fun impossible => long (List.drop_eq_nil_iff.mp impossible)) ?_
  rw [List.take_append_drop]
  exact lt_size_of_length decimal few

theorem isModerate_positional (few : digits.length ≤ 17) (small : leading < 16) :
    IsModerate ((Decimal.positional digits leading).flatMap String.utf8EncodeChar) := by
  unfold Decimal.positional
  dsimp only
  split
  · exact isModerate_before decimal leads few _
  split
  · rename_i short
    exact isModerate_behind decimal leads small short
  · rename_i long
    exact isModerate_within decimal leads few long

end Positional

/-! ## Text with a power of ten -/

/-- The sign of a power of ten, which is always shown. -/
def signOctets (leading : Int) : Input :=
  if leading < 0 then [0x2d] else [0x2b]

/-- A power of ten as it is written. -/
def powerOctets (leading : Int) : Input :=
  0x65 :: (signOctets leading ++ digitOctets (Nat.toDigits 10 leading.natAbs))

theorem flatMap_power (leading : Int) :
    ('e' :: ((if leading < 0 then ['-'] else ['+']) ++
      Decimal.digitsOf leading.natAbs)).flatMap String.utf8EncodeChar = powerOctets leading := by
  have letter : String.utf8EncodeChar 'e' = [0x65] := rfl
  have sign : (if leading < 0 then ['-'] else ['+']).flatMap String.utf8EncodeChar =
      signOctets leading := by
    unfold signOctets
    split <;> rfl
  rw [List.flatMap_cons, List.flatMap_append, letter, sign, Decimal.digitsOf,
    flatMap_digits (digits_decimal _)]
  rfl

theorem signOctets_cases (leading : Int) :
    signOctets leading = [] ∨ signOctets leading = [0x2b] ∨ signOctets leading = [0x2d] := by
  unfold signOctets
  split
  · exact Or.inr (Or.inr rfl)
  · exact Or.inr (Or.inl rfl)

theorem isDigits_toDigits (number : Nat) : IsDigits (digitOctets (Nat.toDigits 10 number)) :=
  isDigits_digitOctets (digits_decimal number) Nat.toDigits_ne_nil

theorem isExponent_powerOctets (leading : Int) : IsExponent (powerOctets leading) :=
  .letter (Or.inl rfl) (signOctets_cases leading) (isDigits_toDigits _)

theorem exponentOf_powerOctets (leading : Int) :
    exponentOf (powerOctets leading) =
      some (decide (leading < 0), digitValues (Nat.toDigits 10 leading.natAbs)) := by
  rw [powerOctets, exponentOf_letter (signOctets_cases leading) (isDigits_toDigits _),
    digitsOf_digitOctets (digits_decimal _)]
  unfold signOctets
  split <;> rename_i negative
  · rw [decide_eq_true negative]
    rfl
  · rw [decide_eq_false negative]
    rfl

/-- A positive power of ten is the one that was written. -/
theorem digitsValue_powerOctets {leading : Int} {digits : List Nat}
    (shown : exponentOf (powerOctets leading) = some (false, digits)) :
    ¬ leading < 0 ∧ digitsValue digits = leading.natAbs := by
  rw [exponentOf_powerOctets] at shown
  rcases Prod.mk.inj (Option.some.inj shown) with ⟨positive, written⟩
  rw [← written, digitsValue_toDigits]
  exact ⟨decide_eq_false_iff_not.mp positive, rfl⟩

/-- Digits at a power of ten have a magnitude if they can be scaled by it. -/
theorem exists_magnitude_power {minus whole fraction : Input} {significand : Nat} {leading : Int}
    (few : significand < UInt64.size) (small : leading < 400)
    (scaled : ∃ real, scaleReal significand
      (leading - ((fractionOf fraction).getD []).length) = .ok real) :
    ∃ real, (literalOf minus whole fraction (powerOctets leading)).magnitude significand
      (-(((fractionOf fraction).getD []).length : Int)) = .ok real := by
  by_cases negative : leading < 0
  · -- Nothing is too small to be read.
    refine exists_magnitude few (by omega) fun digits shown => ?_
    exact absurd negative (digitsValue_powerOctets shown).1
  have position : -(((fractionOf fraction).getD []).length : Int) + leading.natAbs =
      leading - ((fractionOf fraction).getD []).length := by
    omega
  unfold literalOf Literal.magnitude
  dsimp only
  rw [exponentOf_powerOctets, decide_eq_false negative]
  dsimp only
  rw [digitsValue_toDigits, if_pos (by omega), if_neg Bool.false_ne_true, position]
  exact scaled

/-- A digit and a fraction, scaled by a power of ten. -/
theorem isModerate_power {first : Char} {others : List Char} {fraction : Input} {leading : Int}
    (decimal : ∀ c ∈ first :: others, c.isDigit = true) (nonzero : first ≠ '0')
    (few : (first :: others).length ≤ 17) (second : IsFraction fraction)
    (same : (fractionOf fraction).getD [] = digitValues others) (small : leading < 400)
    (scaled : ∃ real, scaleReal (digitsValue (digitValues (first :: others)))
      (leading - others.length) = .ok real) :
    IsModerate (digitOctets [first] ++ (fraction ++ powerOctets leading)) := by
  have single : ∀ c ∈ [first], c.isDigit = true := fun c member =>
    decimal c (List.mem_singleton.mp member ▸ List.mem_cons_self)
  have digits : digitValues (first :: others) =
      digitsOf (digitOctets [first]) ++ (fractionOf fraction).getD [] := by
    rw [same, digitsOf_digitOctets single]
    rfl
  have length : others.length = ((fractionOf fraction).getD []).length := by
    rw [same, digitValues, List.length_map]
  have fits := lt_size_of_length decimal few
  rw [digits] at fits scaled
  rw [length] at scaled
  refine ⟨digitOctets [first], fraction, powerOctets leading, rfl, fun minus sign => ?_⟩
  have power : ∀ values, exponentOf (powerOctets leading) = some (false, values) →
      digitsValue values < 400 := by
    intro values shown
    rcases digitsValue_powerOctets shown with ⟨positive, written⟩
    omega
  exact ⟨sign, isWhole_digitOctets single nonzero, second, isExponent_powerOctets leading, fits,
    power, exists_value fits (exists_magnitude_power fits small scaled)⟩

theorem isModerate_scientific {first : Char} {others : List Char} {leading : Int}
    (decimal : ∀ c ∈ first :: others, c.isDigit = true) (nonzero : first ≠ '0')
    (few : (first :: others).length ≤ 17) (small : leading < 400)
    (scaled : ∃ real, scaleReal (digitsValue (digitValues (first :: others)))
      (leading - others.length) = .ok real) :
    IsModerate ((Decimal.scientific (first :: others) leading).flatMap String.utf8EncodeChar) := by
  have single : ∀ c ∈ [first], c.isDigit = true := fun c member =>
    decimal c (List.mem_singleton.mp member ▸ List.mem_cons_self)
  cases others with
  | nil =>
    have moderate := isModerate_power decimal nonzero few .none rfl small scaled
    rw [← flatMap_power, ← flatMap_digits single, List.nil_append, ← List.flatMap_append]
      at moderate
    exact moderate
  | cons second others =>
    have point : String.utf8EncodeChar '.' = [0x2e] := rfl
    have behind : ∀ c ∈ second :: others, c.isDigit = true :=
      fun c member => decimal c (List.mem_cons_of_mem first member)
    have fraction : (0x2e :: digitOctets (second :: others) : Input) =
        ('.' :: second :: others).flatMap String.utf8EncodeChar := by
      rw [List.flatMap_cons, point, flatMap_digits behind]
      rfl
    have same : (fractionOf (0x2e :: digitOctets (second :: others))).getD [] =
        digitValues (second :: others) := digitsOf_digitOctets behind
    have moderate := isModerate_power decimal nonzero few
      (.point (isDigits_digitOctets behind (List.cons_ne_nil _ _))) same small scaled
    rw [← flatMap_power, ← flatMap_digits single, fraction, ← List.flatMap_append,
      ← List.flatMap_append] at moderate
    exact moderate

/-! ## Whole numbers and reals -/

/-- A number with its parts, none of which is too long or too large. -/
def IsModerateText (octets : Input) : Prop :=
  ∃ minus whole fraction exponent, octets = minus ++ (whole ++ (fraction ++ exponent)) ∧
    Moderate minus whole fraction exponent

theorem IsModerate.signed {octets minus : Input} (moderate : IsModerate octets)
    (sign : minus = [] ∨ minus = [0x2d]) : IsModerateText (minus ++ octets) := by
  rcases moderate with ⟨whole, fraction, exponent, rfl, each⟩
  exact ⟨minus, whole, fraction, exponent, rfl, each minus sign⟩

theorem isModerate_shortest {real : Float} (finite : real.isFinite = true) :
    IsModerate ((Decimal.yieldLayout.write (Decimal.shortest real.toBits)).flatMap
      String.utf8EncodeChar) := by
  have scaled := Decimal.exists_scaleReal_shortest finite
  have power := Decimal.shortest_exponent_le finite
  have near := Decimal.shortest_near real.toBits
  revert scaled power near
  generalize Decimal.shortest real.toBits = number
  intro scaled power near
  have decimal := digits_decimal number.digits
  unfold Decimal.Layout.write
  dsimp only
  rcases near with rfl | ⟨positive, bound, _⟩
  · exact isModerate_positional decimal .zero (by decide) (by decide)
  have few : (Nat.toDigits 10 number.digits).length ≤ 17 :=
    (Nat.length_toDigits_le_iff (by decide) (by decide)).mpr bound
  have value := digitsValue_toDigits number.digits
  rcases toDigits_head positive with ⟨first, others, digits, nonzero⟩
  rw [Decimal.digitsOf]
  rw [digits] at decimal few value ⊢
  split
  · rename_i range
    exact isModerate_positional decimal (.digits nonzero) few range.2
  · have behind : number.exponent + (first :: others).length - 1 - others.length =
        number.exponent := by
      rw [List.length_cons]
      omega
    refine isModerate_scientific decimal nonzero few (by omega) ?_
    rw [value, behind]
    exact scaled

theorem isModerateText_writeReal {real : Float} (finite : real.isFinite = true) :
    IsModerateText (Text.octets (Decimal.writeReal real)) := by
  have minus : String.utf8EncodeChar '-' = [0x2d] := rfl
  unfold Decimal.writeReal
  dsimp only
  rw [Text.octets_ofList, List.flatMap_append]
  apply (isModerate_shortest finite).signed
  split
  · exact Or.inr (by rw [List.flatMap_cons, minus, List.flatMap_nil, List.append_nil])
  · exact Or.inl rfl

theorem isModerate_toDigits {number : Nat} (fits : number < UInt64.size) :
    IsModerate (digitOctets (Nat.toDigits 10 number)) := by
  have decimal := digits_decimal number
  have few : digitsValue (digitsOf (digitOctets (Nat.toDigits 10 number)) ++
      (fractionOf []).getD []) < UInt64.size := by
    rw [fractionOf, Option.getD_none, List.append_nil, digitsOf_digitOctets decimal,
      digitsValue_toDigits]
    exact fits
  have whole : IsWhole (digitOctets (Nat.toDigits 10 number)) := by
    rcases Nat.eq_zero_or_pos number with rfl | positive
    · exact .zero
    · rcases toDigits_head positive with ⟨first, others, same, nonzero⟩
      rw [same] at decimal ⊢
      exact isWhole_digitOctets decimal nonzero
  refine ⟨digitOctets (Nat.toDigits 10 number), [], [], ?_, fun minus sign =>
    .plain sign whole .none few⟩
  rw [List.append_nil, List.append_nil]

theorem isModerateText_integer {value : Int} (least : Int64.minValue.toInt ≤ value)
    (most : value < UInt64.size) :
    IsModerateText (Text.octets (renderNumeral (.integer value))) := by
  have bottom : Int64.minValue.toInt = -9223372036854775808 := rfl
  have size : UInt64.size = 18446744073709551616 := rfl
  rw [renderNumeral, Int.toString_eq_repr, Int.repr_eq_if]
  split
  · rw [octets_repr]
    exact (isModerate_toDigits (by omega)).signed (Or.inl rfl)
  · have minus : Text.octets "-" = [0x2d] := rfl
    rw [Text.octets_append, minus, octets_repr]
    exact (isModerate_toDigits (by omega)).signed (Or.inr rfl)

/-- A number is read from its text. -/
theorem IsModerateText.read {octets : Input} (moderate : IsModerateText octets) :
    ∃ value, readNumeral octets = .ok (value, []) := by
  rcases moderate with ⟨minus, whole, fraction, exponent, rfl, moderate⟩
  rcases moderate.valued with ⟨value, meant⟩
  exact ⟨value, readNumeral_of_parts moderate.sign moderate.first moderate.second moderate.third
    meant⟩

theorem IsModerateText.front {octets front : Input} (moderate : IsModerateText octets)
    (within : front <+: octets) : EndsInNumber front := by
  rcases moderate with ⟨minus, whole, fraction, exponent, rfl, moderate⟩
  exact moderate.front within

end Json
end LendingGateway
