import LendingGateway.Proofs.Decimal.Rounding

namespace LendingGateway
namespace Decimal

open Float.Model

/-!
# How large the shortest decimal is

The shortest decimal has at most seventeen digits and rounds to the real it names, so it lies no
further above it than half a unit of its last binary place.  Hence reading it back never
overflows.  Only next to the greatest real is there no room for the rounding errors of the
reader, and there the decimals are looked at one by one.
-/

/-! ## Values -/

/-- The number that a fraction stands for. -/
def ratio (fraction : Nat × Nat) : Rat :=
  fraction.1 / fraction.2

def Scaled.value (number : Scaled) : Rat :=
  number.digits * (10 : Rat) ^ number.exponent

def Binary.value (number : Binary) : Rat :=
  number.significand * (2 : Rat) ^ number.exponent

theorem ratio_scale {base : Nat} (positive : 0 < base) (exponent : Int) (fraction : Nat × Nat) :
    ratio (scale base exponent fraction) = ratio fraction * (base : Rat) ^ exponent := by
  have nonzero : (base : Rat) ≠ 0 := Nat.cast_ne_zero.mpr (Nat.ne_of_gt positive)
  unfold scale ratio
  split
  · rename_i negative
    have same : -(exponent.natAbs : Int) = exponent := by omega
    have power : (base : Rat) ^ exponent = ((base : Rat) ^ exponent.natAbs)⁻¹ := by
      rw [← zpow_natCast, ← zpow_neg, same]
    rw [power, Nat.pow_eq, Nat.cast_mul, Nat.cast_pow, div_mul_eq_div_div, ← div_eq_mul_inv]
  · rename_i nonnegative
    have same : (exponent.toNat : Int) = exponent := by omega
    have power : (base : Rat) ^ exponent = (base : Rat) ^ exponent.toNat := by
      rw [← zpow_natCast, same]
    rw [power, Nat.pow_eq, Nat.cast_mul, Nat.cast_pow, mul_div_right_comm]

theorem scale_positive {base : Nat} (positive : 0 < base) (exponent : Int) {fraction : Nat × Nat}
    (denominator : 0 < fraction.2) : 0 < (scale base exponent fraction).2 := by
  unfold scale
  split
  · exact Nat.mul_pos denominator (Nat.pow_pos positive)
  · exact denominator

/-! ## The leading digit -/

theorem lt_ten_pow_length (number : Nat) : number < 10 ^ (Nat.toDigits 10 number).length :=
  (Nat.length_toDigits_le_iff (by decide) Nat.length_toDigits_pos).mp (Nat.le_refl _)

theorem ten_pow_length_le {number : Nat} (positive : 0 < number) :
    10 ^ (Nat.toDigits 10 number).length ≤ 10 * number := by
  by_cases short : (Nat.toDigits 10 number).length ≤ 1
  · exact Nat.le_trans (Nat.pow_le_pow_right (by decide) short) (by omega)
  · have least : 10 ^ ((Nat.toDigits 10 number).length - 1) ≤ number := by
      by_contra less
      have fewer := (Nat.length_toDigits_le_iff (by decide) (by omega)).mpr (Nat.lt_of_not_le less)
      omega
    have whole : (Nat.toDigits 10 number).length - 1 + 1 = (Nat.toDigits 10 number).length := by
      omega
    rw [← whole, Nat.pow_succ]
    omega

/-- No number has a digit above its leading one. -/
theorem ratio_lt_leadingExponent {fraction : Nat × Nat} (denominator : 0 < fraction.2) :
    ratio fraction < (10 : Rat) ^ (leadingExponent fraction + 1) := by
  have ten : (10 : Rat) ≠ 0 := by norm_num
  have below : (0 : Rat) < fraction.2 := Nat.cast_pos.mpr denominator
  unfold leadingExponent
  dsimp only
  generalize guessed :
    ((Nat.toDigits 10 fraction.1).length : Int) - (Nat.toDigits 10 fraction.2).length = guess
  split
  · -- The numbers of digits alone say this much.
    have most : (fraction.1 : Rat) < (10 : Rat) ^ (Nat.toDigits 10 fraction.1).length := by
      exact_mod_cast lt_ten_pow_length fraction.1
    have least : (10 : Rat) ^ (Nat.toDigits 10 fraction.2).length ≤ 10 * fraction.2 := by
      exact_mod_cast ten_pow_length_le denominator
    have power : (10 : Rat) ^ (guess + 1) * (10 : Rat) ^ (Nat.toDigits 10 fraction.2).length =
        10 * (10 : Rat) ^ (Nat.toDigits 10 fraction.1).length := by
      rw [← zpow_natCast, ← zpow_natCast, ← zpow_add₀ ten, ← zpow_one_add₀ ten]
      congr 1
      omega
    have positive : (0 : Rat) < (10 : Rat) ^ (guess + 1) := by positivity
    rw [ratio, div_lt_iff₀ below]
    nlinarith
  · rename_i short
    have denominated : 0 < (scale 10 (-guess) fraction).2 :=
      scale_positive (by decide) (-guess) denominator
    have small : ratio (scale 10 (-guess) fraction) < 1 := by
      rw [ratio, div_lt_one (Nat.cast_pos.mpr denominated)]
      exact_mod_cast Nat.lt_of_not_le short
    rw [ratio_scale (by decide), zpow_neg, ← div_eq_mul_inv] at small
    rw [Int.sub_add_cancel]
    exact (div_lt_one (by positivity)).mp small

/-! ## The nearest decimals -/

/-- A decimal that names a real: it has few digits and lies no further above the real than half
a unit of its last binary place. -/
structure Binary.NamedBy (number : Binary) (decimal : Scaled) : Prop where
  positive : 0 < decimal.digits
  short : decimal.digits ≤ 10 ^ 17
  near : decimal.value ≤ (number.significand + 1 / 2) * (2 : Rat) ^ number.exponent

/-- A decimal that rounds to a real is at most half a unit above it. -/
theorem Binary.near_of_covers {number : Binary} {digits : Nat} {exponent : Int}
    (covers :
      number.covers (scale 10 exponent (scale 2 (2 - number.exponent) (digits, 1))) = true) :
    (Scaled.mk digits exponent).value ≤
      (number.significand + 1 / 2) * (2 : Rat) ^ number.exponent := by
  have denominator : 0 < (scale 10 exponent (scale 2 (2 - number.exponent) (digits, 1))).2 :=
    scale_positive (by decide) _ (scale_positive (by decide) _ Nat.one_pos)
  have quarters : ratio (scale 10 exponent (scale 2 (2 - number.exponent) (digits, 1))) ≤
      4 * number.significand + 2 := by
    rw [ratio, div_le_iff₀ (Nat.cast_pos.mpr denominator)]
    unfold Binary.covers at covers
    dsimp only at covers
    split at covers
    · rw [Bool.and_eq_true, decide_eq_true_eq, decide_eq_true_eq] at covers
      exact_mod_cast covers.2
    · rw [Bool.and_eq_true, decide_eq_true_eq, decide_eq_true_eq] at covers
      exact_mod_cast Nat.le_of_lt covers.2
  have unit : (0 : Rat) < (2 : Rat) ^ number.exponent := by positivity
  have counted : ratio (scale 10 exponent (scale 2 (2 - number.exponent) (digits, 1))) =
      4 * (Scaled.mk digits exponent).value / (2 : Rat) ^ number.exponent := by
    rw [ratio_scale (by decide), ratio_scale (by decide), Nat.cast_ofNat, Nat.cast_ofNat,
      zpow_sub₀ (by norm_num), ratio, Scaled.value]
    norm_num
    ring
  rw [counted, div_le_iff₀ unit] at quarters
  linarith

/-- On the grid of its first digits a number has no more of them. -/
theorem Binary.steps_lt {number : Binary} {leading : Int} (count : Nat)
    (leads : number.value < (10 : Rat) ^ (leading + 1)) :
    (scale 10 (-(leading - count + 1)) (scale 2 number.exponent (number.significand, 1))).1 /
      (scale 10 (-(leading - count + 1)) (scale 2 number.exponent (number.significand, 1))).2 <
        10 ^ count := by
  have denominator : 0 < (scale 10 (-(leading - count + 1))
      (scale 2 number.exponent (number.significand, 1))).2 :=
    scale_positive (by decide) _ (scale_positive (by decide) _ Nat.one_pos)
  have grid : ratio (scale 10 (-(leading - count + 1))
      (scale 2 number.exponent (number.significand, 1))) =
        number.value * (10 : Rat) ^ (-(leading - count + 1)) := by
    rw [ratio_scale (by decide), ratio_scale (by decide), ratio, Nat.cast_one, div_one]
    rfl
  have unit : (0 : Rat) < (10 : Rat) ^ (-(leading - count + 1)) := by positivity
  have power : (10 : Rat) ^ (leading + 1) * (10 : Rat) ^ (-(leading - count + 1)) =
      (10 : Rat) ^ count := by
    rw [← zpow_add₀ (by norm_num), ← zpow_natCast]
    congr 1
    omega
  have bounded := mul_lt_mul_of_pos_right leads unit
  rw [← grid, power, ratio, div_lt_iff₀ (Nat.cast_pos.mpr denominator)] at bounded
  rw [Nat.div_lt_iff_lt_mul denominator]
  exact_mod_cast bounded

theorem Binary.namedBy_of_atDigits {number : Binary} {leading : Int} {count : Nat}
    {decimal : Scaled} (few : count ≤ 17) (leads : number.value < (10 : Rat) ^ (leading + 1))
    (found : number.atDigits? leading count = some decimal) : number.NamedBy decimal := by
  have below := number.steps_lt count leads
  have most : 10 ^ count ≤ 10 ^ 17 := Nat.pow_le_pow_right (by decide) few
  unfold Binary.atDigits? at found
  dsimp only at found
  revert found below
  generalize (scale 10 _ (scale 2 number.exponent (number.significand, 1))).1 / _ = digits
  intro found below
  have short := Nat.le_trans (Nat.succ_le_of_lt below) most
  split at found
  · rename_i fits
    split at found
    · rename_i above
      cases found
      exact ⟨Nat.succ_pos _, short, Binary.near_of_covers above.1⟩
    · cases found
      exact ⟨Nat.pos_of_ne_zero fits.1, Nat.le_of_succ_le short, Binary.near_of_covers fits.2⟩
  · split at found
    · rename_i above
      cases found
      exact ⟨Nat.succ_pos _, short, Binary.near_of_covers above⟩
    · cases found

/-! ## Zeros at the end -/

/-- Taking the zeros off changes neither the number nor that it has digits. -/
theorem Scaled.strip_keeps (fuel : Nat) (number : Scaled) (positive : 0 < number.digits) :
    0 < (number.strip fuel).digits ∧ (number.strip fuel).digits ≤ number.digits ∧
      (number.strip fuel).value = number.value := by
  induction fuel generalizing number with
  | zero => exact ⟨positive, Nat.le_refl _, rfl⟩
  | succ fuel inductionHypothesis =>
    rw [Scaled.strip]
    split
    · rename_i zero
      rcases inductionHypothesis ⟨number.digits / 10, number.exponent + 1⟩
        (by dsimp only; omega) with ⟨still, fewer, same⟩
      refine ⟨still, Nat.le_trans fewer (Nat.div_le_self _ _), same.trans ?_⟩
      have tens : (10 : Rat) * (number.digits / 10 : Nat) = number.digits := by
        exact_mod_cast (by omega : 10 * (number.digits / 10) = number.digits)
      rw [Scaled.value, Scaled.value, zpow_add_one₀ (by norm_num), ← tens]
      ring
    · exact ⟨positive, Nat.le_refl _, rfl⟩

/-- Seventeen digits are left of a number that has one more. -/
theorem Scaled.strip_short {fuel : Nat} {number : Scaled} (positive : 0 < number.digits)
    (short : number.digits ≤ 10 ^ 17) : (number.strip (fuel + 1)).digits < 10 ^ 17 := by
  rw [Scaled.strip]
  split
  · have fewer := (Scaled.strip_keeps fuel ⟨number.digits / 10, number.exponent + 1⟩
      (by dsimp only; omega)).2.1
    dsimp only at fewer
    omega
  · omega

/-! ## The shortest decimal -/

/-- What the search for the fewest digits finds names the real. -/
theorem Binary.namedBy_of_search {number : Binary} {decimal : Scaled}
    (found : (List.range 17).findSome? (fun count => number.atDigits?
      (leadingExponent (scale 2 number.exponent (number.significand, 1))) (count + 1)) =
        some decimal) : number.NamedBy decimal := by
  rcases List.exists_of_findSome?_eq_some found with ⟨count, member, found⟩
  have denominator : 0 < (scale 2 number.exponent (number.significand, 1)).2 :=
    scale_positive Nat.two_pos _ Nat.one_pos
  have leads := ratio_lt_leadingExponent denominator
  rw [ratio_scale Nat.two_pos, ratio, Nat.cast_one, div_one] at leads
  exact Binary.namedBy_of_atDigits (Nat.succ_le_of_lt (List.mem_range.mp member)) leads found

/-- The shortest decimal of a real is zero, or it is near the real and has at most seventeen
digits. -/
theorem shortest_near (bits : UInt64) :
    shortest bits = ⟨0, 0⟩ ∨
      (0 < (shortest bits).digits ∧ (shortest bits).digits < 10 ^ 17 ∧
        (shortest bits).value ≤ ((Binary.ofBits bits).significand + 1 / 2) *
          (2 : Rat) ^ (Binary.ofBits bits).exponent) := by
  unfold shortest
  dsimp only
  generalize Binary.ofBits bits = number
  split
  · exact Or.inl rfl
  cases found : (List.range 17).findSome? (fun count => number.atDigits?
      (leadingExponent (scale 2 number.exponent (number.significand, 1))) (count + 1)) with
  | none => exact Or.inl rfl
  | some decimal =>
    rcases Binary.namedBy_of_search found with ⟨positive, short, near⟩
    rcases Scaled.strip_keeps 18 decimal positive with ⟨still, _, same⟩
    exact Or.inr ⟨still, Scaled.strip_short positive short, same.le.trans near⟩

/-! ## Finite reals -/

/-- A real is finite if it is neither infinite nor undefined. -/
theorem isFinite_iff {real : Float} :
    real.isFinite = true ↔ (real.isNaN || real.isInf) = false := by
  unfold Float.isFinite Float.isNaN Float.isInf Float.Model.isFinite Float.Model.isNaN
    Float.Model.isInf
  cases real.toModel.unpack <;>
    simp [UnpackedFloat.isFinite, UnpackedFloat.isNaN, UnpackedFloat.isInf]

/-- The exponent field of a finite real is not all ones. -/
theorem field_of_isFinite {real : Float} (finite : real.isFinite = true) :
    real.toBits.toNat / 0x10000000000000 % 0x800 < 0x7ff := by
  by_contra last
  have ones :
      @UnpackedFloat.unpackExponent Format.binary64 real.toModel.toBits.toBitVec = -1#11 := by
    apply BitVec.eq_of_toNat_eq
    change (real.toBits.toBitVec.extractLsb' 52 11).toNat = 0x7ff
    rw [BitVec.extractLsb'_toNat, UInt64.toNat_toBitVec, Nat.shiftRight_eq_div_pow]
    omega
  unfold Float.isFinite Float.Model.isFinite Float.Model.unpack UnpackedFloat.unpack at finite
  dsimp only at finite
  rw [if_pos ones] at finite
  split at finite <;> cases finite

/-- A finite real is written with at most fifty-three binary digits. -/
theorem ofBits_bounds {bits : UInt64} (finite : bits.toNat / 0x10000000000000 % 0x800 < 0x7ff) :
    (Binary.ofBits bits).significand < 2 ^ 53 ∧ (Binary.ofBits bits).exponent ≤ 971 := by
  unfold Binary.ofBits
  dsimp only
  split
  · exact ⟨by dsimp only; omega, by dsimp only; omega⟩
  · exact ⟨by dsimp only; omega, by dsimp only; omega⟩

/-- The bits of the three greatest reals, sign aside. -/
theorem greatest_of_ofBits {bits : UInt64}
    (large : (2 ^ 53 - 4 : Nat) < (Binary.ofBits bits).significand)
    (last : (Binary.ofBits bits).exponent = 971) :
    ∃ (sign : Fin 2) (below : Fin 3),
      bits = UInt64.ofNat (sign * 0x8000000000000000 + 0x7fefffffffffffff - below) := by
  have size := bits.toNat_lt
  unfold Binary.ofBits at large last
  dsimp only at large last
  split at large
  · dsimp only at large
    omega
  rename_i normal
  rw [if_neg normal] at last
  dsimp only at large last
  refine ⟨⟨bits.toNat / 0x8000000000000000, by omega⟩,
    ⟨0x7fefffffffffffff - bits.toNat % 0x8000000000000000, by omega⟩, ?_⟩
  apply UInt64.toNat_inj.mp
  rw [UInt64.toNat_ofNat']
  dsimp only
  omega

/-- Below the three greatest reals half a unit more leaves room for two units. -/
theorem near_bounded {significand : Nat} {exponent : Int} (significant : significand < 2 ^ 53)
    (exponential : exponent ≤ 971)
    (below : ¬ ((2 ^ 53 - 4 : Nat) < significand ∧ exponent = 971)) :
    ((significand : Rat) + 1 / 2) * (2 : Rat) ^ exponent ≤
      ((2 ^ 53 - 3 : Nat) : Rat) * (2 : Rat) ^ (971 : Nat) := by
  have unit : (0 : Rat) < (2 : Rat) ^ (970 : Nat) := by positivity
  have doubled : (2 : Rat) ^ (971 : Nat) = (2 : Rat) ^ (970 : Nat) * 2 := pow_succ 2 970
  rw [doubled]
  push_cast
  by_cases last : exponent = 971
  · have less : (significand : Rat) ≤ ((2 ^ 53 - 4 : Nat) : Rat) :=
      Nat.cast_le.mpr (Nat.le_of_not_lt fun large => below ⟨large, last⟩)
    have power : (2 : Rat) ^ exponent = (2 : Rat) ^ (970 : Nat) * 2 := by
      rw [last, ← doubled]
      rfl
    push_cast at less
    rw [power]
    exact mul_le_mul_of_nonneg_right (by linarith) (by positivity)
  · have less : (significand : Rat) + 1 ≤ 2 ^ 53 := by exact_mod_cast significant
    have power : (2 : Rat) ^ exponent ≤ (2 : Rat) ^ (970 : Nat) := by
      rw [← zpow_natCast]
      exact zpow_le_zpow_right₀ (by norm_num) (by omega)
    have product : ((significand : Rat) + 1 / 2) * (2 : Rat) ^ exponent ≤
        2 ^ 53 * (2 : Rat) ^ (970 : Nat) :=
      mul_le_mul (by linarith) power (by positivity) (by positivity)
    revert unit product
    generalize (2 : Rat) ^ (970 : Nat) = unit
    intro positive product
    linarith

theorem exists_scaleReal_of_value_le {decimal : Scaled} (short : decimal.digits < 10 ^ 17)
    (small : decimal.exponent ≤ 308)
    (bounded : decimal.value ≤ ((2 ^ 53 - 3 : Nat) : Rat) * (2 : Rat) ^ (971 : Nat)) :
    ∃ read, Json.scaleReal decimal.digits decimal.exponent = .ok read := by
  by_cases negative : decimal.exponent < 0
  · exact ⟨_, if_pos negative⟩
  obtain ⟨power, same⟩ : ∃ power : Nat, decimal.exponent = power :=
    ⟨decimal.exponent.toNat, by omega⟩
  have product : decimal.digits * 10 ^ power ≤ (2 ^ 53 - 3) * 2 ^ 971 := by
    rw [Scaled.value, same, zpow_natCast] at bounded
    exact_mod_cast bounded
  rw [same]
  exact exists_scaleReal (Nat.lt_trans short (by decide)) (by omega) product

/-- The power of ten of a finite real is no greater than that of the greatest one. -/
theorem shortest_exponent_le {real : Float} (finite : real.isFinite = true) :
    (shortest real.toBits).exponent ≤ 308 := by
  rcases ofBits_bounds (field_of_isFinite finite) with ⟨significant, exponential⟩
  rcases shortest_near real.toBits with zero | ⟨positive, _, near⟩
  · rw [zero]
    decide
  by_contra large
  have least : (10 : Rat) ^ (309 : Int) ≤ (shortest real.toBits).value := by
    have digits : (1 : Rat) ≤ (shortest real.toBits).digits := by exact_mod_cast positive
    have power := zpow_le_zpow_right₀ (by norm_num : (1 : Rat) ≤ 10)
      (by omega : (309 : Int) ≤ (shortest real.toBits).exponent)
    exact power.trans (le_mul_of_one_le_left (by positivity) digits)
  have most : (((Binary.ofBits real.toBits).significand : Rat) + 1 / 2) *
      (2 : Rat) ^ (Binary.ofBits real.toBits).exponent ≤ 2 ^ 53 * (2 : Rat) ^ (971 : Int) := by
    have less : ((Binary.ofBits real.toBits).significand : Rat) + 1 ≤ 2 ^ 53 := by
      exact_mod_cast significant
    exact mul_le_mul (by linarith) (zpow_le_zpow_right₀ (by norm_num) exponential)
      (by positivity) (by positivity)
  have room : (2 : Rat) ^ 53 * (2 : Rat) ^ (971 : Int) < (10 : Rat) ^ (309 : Int) := by
    have whole : 2 ^ 53 * 2 ^ 971 < 10 ^ 309 := by decide +kernel
    exact_mod_cast whole
  exact absurd room (not_lt_of_ge (least.trans (near.trans most)))

/-- Next to the greatest real the rounding errors of the reader might exceed the room that is
left, so these decimals are looked at one by one. -/
theorem isOk_scaleReal_greatest : ∀ (sign : Fin 2) (below : Fin 3),
    (Json.scaleReal
      (shortest (UInt64.ofNat (sign * 0x8000000000000000 + 0x7fefffffffffffff - below))).digits
      (shortest (UInt64.ofNat (sign * 0x8000000000000000 + 0x7fefffffffffffff - below))).exponent
      ).isOk = true := by
  decide +kernel

/-- The digits of the shortest decimal of a finite real can be scaled by its power of ten. -/
theorem exists_scaleReal_shortest {real : Float} (finite : real.isFinite = true) :
    ∃ read, Json.scaleReal (shortest real.toBits).digits (shortest real.toBits).exponent =
      .ok read := by
  rcases ofBits_bounds (field_of_isFinite finite) with ⟨significant, exponential⟩
  by_cases top : (2 ^ 53 - 4 : Nat) < (Binary.ofBits real.toBits).significand ∧
      (Binary.ofBits real.toBits).exponent = 971
  · rcases greatest_of_ofBits top.1 top.2 with ⟨sign, below, same⟩
    have scaled := isOk_scaleReal_greatest sign below
    rw [← same] at scaled
    cases read : Json.scaleReal (shortest real.toBits).digits (shortest real.toBits).exponent with
    | error cause =>
      rw [read] at scaled
      cases scaled
    | ok real => exact ⟨real, rfl⟩
  rcases shortest_near real.toBits with zero | ⟨_, short, near⟩
  · rw [zero]
    exact exists_scaleReal (by decide) (by decide) (Nat.zero_le _)
  · exact exists_scaleReal_of_value_le short (shortest_exponent_le finite)
      (near.trans (near_bounded significant exponential top))

end Decimal
end LendingGateway
