import Mathlib
import LendingGateway.Json.Numeral

namespace LendingGateway
namespace Decimal

open Float.Model Float.Model.UnpackedFloat

/-!
# Products of rounded reals

The reader of numbers multiplies the digits of a literal by a power of ten.  Both factors are
rounded first, and so is their product.  Rounding adds at most half a unit of the last place,
so a product of decimals that stays a few units below the greatest real is a real itself.
-/

/-! ## Rounding -/

/-- What an extended mantissa says of a number without its last binary digits: the digits left,
and that the first of those lost is one only if they are half a unit or more. -/
structure Keeps (number lost : Nat) (extended : ExtendedMantissa) : Prop where
  digits : extended.mantissa = number / 2 ^ lost
  half : extended.roundBit = true → (2 * extended.mantissa + 1) * 2 ^ lost ≤ 2 * number

theorem Keeps.below {number lost : Nat} {extended : ExtendedMantissa}
    (keeps : Keeps number lost extended) : extended.mantissa * 2 ^ lost ≤ number := by
  rw [keeps.digits]
  exact Nat.div_mul_le_self number (2 ^ lost)

theorem keeps_repeat (number lost : Nat) :
    Keeps number lost (lost.repeat ExtendedMantissa.shiftRightOne ⟨number, false, false⟩) := by
  induction lost with
  | zero => exact ⟨(Nat.div_one number).symm, nofun⟩
  | succ lost inductionHypothesis =>
    have below := inductionHypothesis.below
    rcases inductionHypothesis with ⟨digits, _⟩
    rw [Nat.repeat]
    revert below digits
    generalize lost.repeat ExtendedMantissa.shiftRightOne ⟨number, false, false⟩ = before
    intro below digits
    constructor
    · rw [ExtendedMantissa.shiftRightOne, digits, Nat.div_div_eq_div_mul, Nat.pow_succ]
    · intro odd
      have last : 2 * (before.mantissa / 2) + 1 = before.mantissa := by
        have bit := of_decide_eq_true (by simpa [ExtendedMantissa.shiftRightOne] using odd)
        omega
      rw [ExtendedMantissa.shiftRightOne, last, Nat.pow_succ, ← Nat.mul_assoc]
      omega

/-- Rounding to the nearest adds at most half a unit. -/
theorem Keeps.rounded {number lost : Nat} {extended : ExtendedMantissa}
    (keeps : Keeps number lost extended) :
    number / 2 ^ lost ≤ extended.roundedMantissa ∧
      2 * (extended.roundedMantissa * 2 ^ lost) ≤ 2 * number + 2 ^ lost := by
  have below := keeps.below
  rcases keeps with ⟨digits, half⟩
  rcases extended with ⟨mantissa, roundBit, stickyBit⟩
  have even := Nat.mod_lt mantissa Nat.two_pos
  dsimp only at below digits half
  rw [← digits]
  cases roundBit with
  | false =>
    have same : (ExtendedMantissa.mk mantissa false stickyBit).roundedMantissa = mantissa := by
      cases stickyBit <;> rfl
    have unit := Nat.zero_le (2 ^ lost)
    rw [same]
    exact ⟨Nat.le_refl mantissa, by omega⟩
  | true =>
    have next : mantissa ≤ (ExtendedMantissa.mk mantissa true stickyBit).roundedMantissa ∧
        (ExtendedMantissa.mk mantissa true stickyBit).roundedMantissa ≤ mantissa + 1 := by
      cases stickyBit
      · exact ⟨Nat.le_add_right _ _, Nat.add_le_add_left (Nat.le_of_lt_succ even) mantissa⟩
      · exact ⟨Nat.le_succ mantissa, Nat.le_refl _⟩
    have enough := half rfl
    have bound := Nat.mul_le_mul_right (2 ^ lost) next.2
    rw [Nat.add_mul, Nat.one_mul] at bound
    rw [Nat.add_mul, Nat.one_mul, Nat.mul_assoc] at enough
    exact ⟨next.1, by omega⟩

/-- The binary digits that a number loses when it is rounded at some exponent. -/
def lostDigits (number : Nat) (exponent : Int) : Nat :=
  (Format.binary64.targetExponent (totalExponent number exponent) - exponent).toNat

theorem shiftToTargetExponent_eq (number : Nat) (exponent : Int) :
    shiftToTargetExponent Format.binary64 number exponent .exact =
      ((lostDigits number exponent).repeat ExtendedMantissa.shiftRightOne ⟨number, false, false⟩,
        exponent + lostDigits number exponent) :=
  rfl

theorem lostDigits_of_normal {number : Nat} {exponent : Int}
    (normal : -1074 ≤ exponent) : lostDigits number exponent = number.log2 - 52 := by
  simp only [lostDigits, totalExponent, Format.targetExponent, Format.mantissaBits,
    Format.minExponent]
  norm_num
  omega

/-- Shifted to the place of its leading digit, a long number keeps fifty-three digits. -/
theorem leading_digits {number : Nat} (long : 2 ^ 52 ≤ number) :
    2 ^ 52 ≤ number / 2 ^ (number.log2 - 52) ∧ number / 2 ^ (number.log2 - 52) < 2 ^ 53 := by
  have nonzero : number ≠ 0 := by omega
  have enough : 52 ≤ number.log2 := (Nat.le_log2 nonzero).mpr long
  constructor
  · rw [Nat.le_div_iff_mul_le (Nat.two_pow_pos _), ← Nat.pow_add, Nat.add_sub_cancel' enough]
    exact Nat.log2_self_le nonzero
  · rw [Nat.div_lt_iff_lt_mul (Nat.two_pow_pos _), ← Nat.pow_add]
    have whole : 53 + (number.log2 - 52) = number.log2 + 1 := by omega
    rw [whole]
    exact Nat.lt_log2_self

/-- A number of fifty-three binary digits or more is rounded to fifty-three of them. -/
theorem exists_roundWithAccuracy {number : Nat} {exponent : Int}
    (long : 2 ^ 52 ≤ number) (normal : -1074 ≤ exponent) :
    ∃ (mantissa shift : Nat) (positive : 0 < mantissa),
      roundWithAccuracy Format.binary64 .positive number exponent .exact =
        .finite .positive mantissa (exponent + shift) positive ∧
      2 ^ 52 ≤ mantissa ∧ mantissa < 2 ^ 53 ∧
      2 * (mantissa * 2 ^ shift) ≤ 2 * number + 2 ^ (number.log2 - 52) := by
  have keeps := keeps_repeat number (number.log2 - 52)
  rcases keeps.rounded with ⟨least, most⟩
  have longer := Nat.le_trans (leading_digits long).1 least
  rw [roundWithAccuracy, shiftToTargetExponent_eq, lostDigits_of_normal normal]
  dsimp only
  revert least most longer
  generalize ExtendedMantissa.roundedMantissa _ = rounded
  intro least most longer
  -- Rounding up may have added a digit in front, which is shifted out again.
  have again := keeps_repeat rounded (rounded.log2 - 52)
  rcases leading_digits longer with ⟨low, high⟩
  rw [← again.digits] at low high
  have below := Nat.mul_le_mul_right (2 ^ (number.log2 - 52)) again.below
  rw [shiftToTargetExponent_eq, lostDigits_of_normal (by omega)]
  dsimp only
  revert low high below
  generalize ExtendedMantissa.mantissa _ = mantissa
  intro low high below
  have positive : 0 < mantissa := by omega
  refine ⟨mantissa, (number.log2 - 52) + (rounded.log2 - 52), positive, ?_, low, high, ?_⟩
  · rw [dif_neg (Nat.ne_of_gt positive), Int.natCast_add, Int.add_assoc]
  · have whole : mantissa * 2 ^ ((number.log2 - 52) + (rounded.log2 - 52)) =
        mantissa * 2 ^ (rounded.log2 - 52) * 2 ^ (number.log2 - 52) := by
      rw [Nat.add_comm, Nat.pow_add, Nat.mul_assoc]
    rw [whole]
    omega

/-! ## Packing -/

/-- The packed form drops the first digit, which is always a one. -/
theorem toNat_restored {mantissa : Nat} (low : 2 ^ 52 ≤ mantissa) (high : mantissa < 2 ^ 53) :
    (1#1 ++ BitVec.ofNat 52 mantissa).toNat = mantissa := by
  rw [BitVec.toNat_append, BitVec.toNat_ofNat, Nat.shiftLeft_eq]
  change 1 * 2 ^ 52 ||| mantissa % 2 ^ 52 = mantissa
  rw [Nat.one_mul, Nat.or_comm, Nat.or_two_pow_eq_add_of_lt (Nat.mod_lt _ (Nat.two_pow_pos 52))]
  omega

/-- Fifty-three digits at an exponent in range are what their packed form holds. -/
theorem unpack_pack {mantissa : Nat} {exponent : Int} (positive : 0 < mantissa)
    (low : 2 ^ 52 ≤ mantissa) (high : mantissa < 2 ^ 53) (least : -1074 ≤ exponent)
    (most : exponent ≤ 971) :
    (Float.Model.pack (.finite .positive mantissa exponent positive)).unpack =
      .finite .positive mantissa exponent positive := by
  have length : mantissa.log2 = 52 := (Nat.log2_eq_iff (by omega)).mpr ⟨low, high⟩
  have biased : (exponent + Format.binary64.exponentBias + (52 : Nat)).toNat =
      (exponent + 1075).toNat := by
    change (exponent + 1023 + 52).toNat = _
    omega
  have finite : ¬ 2 ^ Format.binary64.exponentBits ≤ (exponent + 1075).toNat + 1 := by
    change ¬ 2048 ≤ _
    omega
  have field : (BitVec.ofNat 11 (exponent + 1075).toNat).toNat = (exponent + 1075).toNat :=
    (BitVec.toNat_ofNat _ 11).trans (Nat.mod_eq_of_lt (by omega))
  have notLast : BitVec.ofNat 11 (exponent + 1075).toNat ≠ -1#11 := by
    intro impossible
    have code := congrArg BitVec.toNat impossible
    rw [field] at code
    change _ = 2047 at code
    omega
  have notFirst : BitVec.ofNat 11 (exponent + 1075).toNat ≠ 0#11 := by
    intro impossible
    have code := congrArg BitVec.toNat impossible
    rw [field] at code
    change _ = 0 at code
    omega
  have restored : ((exponent + 1075).toNat : Int) - (Format.binary64.exponentBias + (52 : Nat)) =
      exponent := by
    change ((exponent + 1075).toNat : Int) - (1023 + 52) = _
    omega
  change UnpackedFloat.unpack Format.binary64
    (UnpackedFloat.pack Format.binary64 (.finite .positive mantissa exponent positive)) = _
  simp only [UnpackedFloat.pack, biased, if_neg finite, length]
  rw [if_pos (show 52 + 1 = Format.binary64.mantissaBits from rfl)]
  simp only [UnpackedFloat.unpack, unpackExponent_packComponents, unpackMantissa_packComponents,
    unpackSign_packComponents]
  simp only [field, toNat_restored low high, restored, if_neg notLast, if_neg notFirst]
  rfl

/-! ## Numbers and products -/

/-- Rounding a number that is no greater than the greatest real yields a real, and adds at most
one part in `2^53`. -/
theorem exists_unpack_rounded {number place offset : Nat} (long : 2 ^ 52 ≤ number)
    (near : offset ≤ 1000) (bounded : number * 2 ^ place ≤ (2 ^ 53 - 1) * 2 ^ (971 + offset)) :
    ∃ (mantissa shift : Nat) (positive : 0 < mantissa),
      (Float.Model.pack (roundWithAccuracy Format.binary64 .positive number
        ((place : Int) - offset) .exact)).unpack =
          .finite .positive mantissa (((place + shift : Nat) : Int) - offset) positive ∧
      2 ^ 52 ≤ mantissa ∧
      2 ^ 53 * (mantissa * 2 ^ (place + shift)) ≤ (2 ^ 53 + 1) * (number * 2 ^ place) := by
  have normal : -1074 ≤ (place : Int) - offset := by omega
  rcases exists_roundWithAccuracy long normal with
    ⟨mantissa, shift, positive, rounded, low, high, most⟩
  have unit : 2 ^ (number.log2 - 52) * 2 ^ 52 ≤ number := by
    have nonzero : number ≠ 0 := by omega
    have enough : 52 ≤ number.log2 := (Nat.le_log2 nonzero).mpr long
    rw [← Nat.pow_add, Nat.sub_add_cancel enough]
    exact Nat.log2_self_le nonzero
  have error : 2 ^ 53 * (mantissa * 2 ^ (place + shift)) ≤ (2 ^ 53 + 1) * (number * 2 ^ place) := by
    have scaled : 2 ^ 53 * (mantissa * 2 ^ shift) ≤ (2 ^ 53 + 1) * number := by omega
    have placed := Nat.mul_le_mul_right (2 ^ place) scaled
    rw [Nat.mul_assoc, Nat.mul_assoc, Nat.mul_assoc, ← Nat.pow_add, Nat.add_comm shift] at placed
    exact placed
  have finite : place + shift ≤ 971 + offset := by
    by_contra beyond
    have power : 2 ^ (971 + offset + 1) ≤ 2 ^ (place + shift) :=
      Nat.pow_le_pow_right Nat.two_pos (by omega)
    have large := Nat.mul_le_mul low power
    have unitary := Nat.two_pow_pos (971 + offset)
    rw [Nat.pow_succ] at large
    omega
  refine ⟨mantissa, shift, positive, ?_, low, error⟩
  have same : ((place : Int) - offset) + shift = ((place + shift : Nat) : Int) - offset := by omega
  rw [rounded, unpack_pack positive low high (by omega) (by omega), same]

/-- Whether a real is positive and exceeds a number by at most one part in `2^53`.  Both are
compared in units of `2^-64`. -/
def nearlyAtMost (real : Float) (number : Nat) : Bool :=
  match real.toModel.unpack with
  | .finite .positive mantissa exponent _ =>
    decide (2 ^ 52 ≤ mantissa ∧ -64 ≤ exponent ∧
      2 ^ 53 * (mantissa * 2 ^ (exponent + 64).toNat) ≤ (2 ^ 53 + 1) * (number * 2 ^ 64))
  | _ => false

theorem nearlyAtMost_iff {real : Float} {number : Nat} :
    nearlyAtMost real number = true ↔
      ∃ (mantissa place : Nat) (positive : 0 < mantissa),
        real.toModel.unpack = .finite .positive mantissa ((place : Int) - (64 : Nat)) positive ∧
        2 ^ 52 ≤ mantissa ∧
        2 ^ 53 * (mantissa * 2 ^ place) ≤ (2 ^ 53 + 1) * (number * 2 ^ 64) := by
  unfold nearlyAtMost
  constructor
  · intro checked
    split at checked
    · rename_i mantissa exponent positive unpacked
      rcases of_decide_eq_true checked with ⟨low, least, most⟩
      refine ⟨mantissa, (exponent + 64).toNat, positive, ?_, low, most⟩
      have same : exponent = ((exponent + 64).toNat : Int) - (64 : Nat) := by omega
      rw [unpacked, ← same]
    · cases checked
  · rintro ⟨mantissa, place, positive, unpacked, low, most⟩
    have same : (((place : Int) - (64 : Nat)) + 64).toNat = place := by omega
    rw [unpacked]
    dsimp only
    rw [same]
    exact decide_eq_true ⟨low, by omega, most⟩

/-- A number that was rounded exceeds it by at most one part in `2^53`. -/
theorem nearlyAtMost_of_rounded {real : Float} {digits place number : Nat}
    (model : real.toModel = Float.Model.pack (roundWithAccuracy Format.binary64 .positive digits
      ((place : Int) - (64 : Nat)) .exact))
    (long : 2 ^ 52 ≤ digits) (whole : digits * 2 ^ place = number * 2 ^ 64)
    (bounded : number ≤ 10 ^ 308) : nearlyAtMost real number = true := by
  have inRange : digits * 2 ^ place ≤ (2 ^ 53 - 1) * 2 ^ (971 + 64) := by
    rw [whole]
    exact Nat.le_trans (Nat.mul_le_mul_right _ bounded) (by decide +kernel)
  rcases exists_unpack_rounded long (by decide : 64 ≤ 1000) inRange with
    ⟨mantissa, shift, positive, unpacked, low, most⟩
  rw [whole] at most
  exact nearlyAtMost_iff.mpr ⟨mantissa, _, positive, (congrArg _ model).trans unpacked, low, most⟩

theorem nearlyAtMost_toFloat {number : UInt64} (positive : 0 < number.toNat) :
    nearlyAtMost number.toFloat number.toNat = true := by
  have small := number.toNat_lt
  have short : number.toNat.log2 < 64 := (Nat.log2_lt (Nat.ne_of_gt positive)).mpr small
  have order : compare (number.toNat : Int) 0 = .gt := Int.compare_eq_gt.mpr (by omega)
  have shift : (0 - Format.binary64.targetExponent (totalExponent number.toNat 0)).toNat =
      52 - number.toNat.log2 := by
    simp only [totalExponent, Format.targetExponent, Format.mantissaBits, Format.minExponent]
    norm_num
    omega
  have place : (0 : Int) - ((52 - number.toNat.log2 : Nat) : Int) =
      ((64 - (52 - number.toNat.log2) : Nat) : Int) - (64 : Nat) := by omega
  have model : number.toFloat.toModel = Float.Model.pack (roundWithAccuracy Format.binary64
      .positive (number.toNat * 2 ^ (52 - number.toNat.log2))
      (((64 - (52 - number.toNat.log2) : Nat) : Int) - (64 : Nat)) .exact) := by
    change Float.Model.pack (UnpackedFloat.normalize Format.binary64 (number.toNat : Int) 0
      .positive) = _
    rw [UnpackedFloat.normalize, order]
    dsimp only
    rw [Int.toNat_natCast, UnpackedFloat.round, decreaseExponent]
    dsimp only
    rw [shift, Nat.shiftLeft_eq, place]
  have long : 2 ^ 52 ≤ number.toNat * 2 ^ (52 - number.toNat.log2) := by
    have digits := Nat.mul_le_mul_right (2 ^ (52 - number.toNat.log2))
      (Nat.log2_self_le (Nat.ne_of_gt positive))
    rw [← Nat.pow_add] at digits
    exact Nat.le_trans (Nat.pow_le_pow_right Nat.two_pos (by omega)) digits
  have whole : number.toNat * 2 ^ (52 - number.toNat.log2) *
      2 ^ (64 - (52 - number.toNat.log2)) = number.toNat * 2 ^ 64 := by
    rw [Nat.mul_assoc, ← Nat.pow_add, Nat.add_sub_cancel' (by omega)]
  exact nearlyAtMost_of_rounded model long whole
    (Nat.le_trans (Nat.le_of_lt small) (by decide +kernel))

theorem nearlyAtMost_tenTo {power : Nat} (small : power ≤ 308) :
    nearlyAtMost (Json.tenTo power) (10 ^ power) = true := by
  by_cases exact : power ≤ 22
  · -- These powers are kept in a table.
    have each : ∀ power : Fin 23, nearlyAtMost (Json.tenTo power) (10 ^ power.val) = true := by
      decide +kernel
    exact each ⟨power, Nat.lt_succ_of_le exact⟩
  have model : (Json.tenTo power).toModel = Float.Model.pack (roundWithAccuracy Format.binary64
      .positive (2 ^ 53 * 10 ^ power) (((11 : Nat) : Int) - (64 : Nat)) .exact) := by
    have slow : Json.tenTo power = .ofModel (Float.Model.ofScientific 1 (Int.ofNat power)) :=
      dif_neg (fun fast => exact fast.2)
    rw [slow]
    change Float.Model.pack (UnpackedFloat.ofScientific Format.binary64 1 (power : Int)) = _
    rw [UnpackedFloat.ofScientific, dif_neg (by decide), if_neg (by norm_num; omega),
      if_neg (by norm_num; omega), if_pos (by omega)]
    rfl
  have long : 2 ^ 52 ≤ 2 ^ 53 * 10 ^ power := by
    have nonzero : 0 < 10 ^ power := Nat.pow_pos (by decide)
    omega
  have whole : 2 ^ 53 * 10 ^ power * 2 ^ 11 = 10 ^ power * 2 ^ 64 := by
    rw [Nat.mul_comm (2 ^ 53), Nat.mul_assoc, ← Nat.pow_add]
  apply nearlyAtMost_of_rounded model long whole
  apply Nat.pow_le_pow_right
  · decide
  · exact small

/-- The product of two rounded numbers is finite if that of the numbers themselves stays below
the greatest real by two units of its last place. -/
theorem isInf_mul {real other : Float} {number factor : Nat}
    (first : nearlyAtMost real number = true) (second : nearlyAtMost other factor = true)
    (bounded : number * factor ≤ (2 ^ 53 - 3) * 2 ^ 971) : (real * other).isInf = false := by
  rcases nearlyAtMost_iff.mp first with ⟨mantissa, place, positive, unpacked, low, most⟩
  rcases nearlyAtMost_iff.mp second with ⟨mantissa', place', positive', unpacked', low', most'⟩
  have long : 2 ^ 52 ≤ mantissa * mantissa' := by
    have large := Nat.mul_le_mul low low'
    omega
  have product : mantissa * mantissa' * 2 ^ (place + place') ≤ (2 ^ 53 - 1) * 2 ^ (971 + 128) := by
    have both := Nat.mul_le_mul most most'
    have regrouped : 2 ^ 53 * (mantissa * 2 ^ place) * (2 ^ 53 * (mantissa' * 2 ^ place')) =
        2 ^ 106 * (mantissa * mantissa' * 2 ^ (place + place')) := by
      rw [Nat.pow_add]
      ring
    have scaled : (2 ^ 53 + 1) * (number * 2 ^ 64) * ((2 ^ 53 + 1) * (factor * 2 ^ 64)) =
        (2 ^ 53 + 1) ^ 2 * 2 ^ 128 * (number * factor) := by ring
    rw [regrouped, scaled] at both
    omega
  rcases exists_unpack_rounded long (by decide : 128 ≤ 1000) product with
    ⟨rounded, shift, rest, packed, _⟩
  have exponents : (((place + place' : Nat) : Int) - (128 : Nat)) =
      ((place : Int) - (64 : Nat)) + ((place' : Int) - (64 : Nat)) := by omega
  have model : (real * other).toModel = Float.Model.pack (roundWithAccuracy Format.binary64
      .positive (mantissa * mantissa') (((place + place' : Nat) : Int) - (128 : Nat)) .exact) := by
    change Float.Model.pack (UnpackedFloat.mul Format.binary64 real.toModel.unpack
      other.toModel.unpack) = _
    rw [unpacked, unpacked', exponents]
    rfl
  change UnpackedFloat.isInf (real * other).toModel.unpack = false
  rw [model, packed]
  rfl

/-! ## Scaling digits -/

theorem isInf_zero_mul {real : Float} {number : Nat} (finite : nearlyAtMost real number = true) :
    ((0 : UInt64).toFloat * real).isInf = false := by
  rcases nearlyAtMost_iff.mp finite with ⟨mantissa, place, positive, unpacked, _⟩
  have zero : (0 : UInt64).toFloat.toModel.unpack = .zero .positive := rfl
  change UnpackedFloat.isInf (Float.Model.pack (UnpackedFloat.mul Format.binary64
    (0 : UInt64).toFloat.toModel.unpack real.toModel.unpack)).unpack = false
  rw [zero, unpacked, UnpackedFloat.mul]
  decide +kernel

/-- Digits at a power of ten have a real if their value stays a little below the greatest
one. -/
theorem exists_scaleReal {significand power : Nat} (fits : significand < UInt64.size)
    (small : power ≤ 308) (bounded : significand * 10 ^ power ≤ (2 ^ 53 - 3) * 2 ^ 971) :
    ∃ real, Json.scaleReal significand power = .ok real := by
  have finite : (significand.toUInt64.toFloat * Json.tenTo power).isInf = false := by
    have same : significand.toUInt64.toNat = significand :=
      UInt64.toNat_ofNat_of_lt fits
    rcases Nat.eq_zero_or_pos significand with rfl | positive
    · exact isInf_zero_mul (nearlyAtMost_tenTo small)
    · rw [← same] at positive bounded
      exact isInf_mul (nearlyAtMost_toFloat positive) (nearlyAtMost_tenTo small) bounded
  refine ⟨significand.toUInt64.toFloat * Json.tenTo power, ?_⟩
  rw [Json.scaleReal, if_neg (by omega), if_pos (by omega), Int.toNat_natCast]
  exact if_neg (Bool.eq_false_iff.mp finite)

end Decimal
end LendingGateway
