import LendingGateway.Proofs.Decimal.Shortest
import LendingGateway.Proofs.Json.Fronts
import LendingGateway.Proofs.Json.Numbers
import LendingGateway.Proofs.Json.Tokens

namespace LendingGateway
namespace Json

open Traversal

/-!
# Numbers that were cut off

A number does not say where it ends, so the front of one may be read as another number.  That
one has fewer digits, or an exponent with fewer digits, and is never too large: the reader
either runs out of input or reads a number.
-/

/-! ## Fewer digits -/

theorem digitsValue_append (digits others : List Nat) :
    digitsValue digits * 10 ^ others.length ≤ digitsValue (digits ++ others) := by
  unfold digitsValue
  rw [List.foldl_append]
  exact le_foldl_digits others _

theorem digitsValue_le_append (digits others : List Nat) :
    digitsValue digits ≤ digitsValue (digits ++ others) :=
  Nat.le_trans (Nat.le_mul_of_pos_right _ (Nat.pow_pos (by decide)))
    (digitsValue_append digits others)

/-- Without its last digits a number is no more than a tenth of itself. -/
theorem digitsValue_tenth (digits : List Nat) {others : List Nat} (nonempty : others ≠ []) :
    10 * digitsValue digits ≤ digitsValue (digits ++ others) := by
  have longer : 10 ^ 1 ≤ 10 ^ others.length :=
    Nat.pow_le_pow_right (by decide) (List.length_pos_iff.mpr nonempty)
  have scaled := Nat.mul_le_mul_left (digitsValue digits) longer
  have bound := digitsValue_append digits others
  omega

theorem digitsOf_append (octets others : Input) :
    digitsOf (octets ++ others) = digitsOf octets ++ digitsOf others :=
  List.map_append

/-! ## Values -/

theorem exists_scaleReal_small {significand : Nat} {power : Int}
    (few : significand < UInt64.size) (small : power ≤ 40) :
    ∃ real, scaleReal significand power = .ok real := by
  by_cases negative : power < 0
  · exact ⟨_, if_pos negative⟩
  obtain ⟨exponent, rfl⟩ : ∃ exponent : Nat, power = exponent := ⟨power.toNat, by omega⟩
  have bounded : significand * 10 ^ exponent ≤ UInt64.size * 10 ^ 40 :=
    Nat.mul_le_mul (Nat.le_of_lt few) (Nat.pow_le_pow_right (by decide) (by omega))
  exact Decimal.exists_scaleReal few (by omega) (Nat.le_trans bounded (by decide +kernel))

/-- A literal with a small exponent has a magnitude if its digits fit a machine word. -/
theorem exists_magnitude {literal : Literal} {significand : Nat} {power : Int}
    (few : significand < UInt64.size) (low : power ≤ 0)
    (small : ∀ digits, literal.exponent = some (false, digits) → digitsValue digits ≤ 40) :
    ∃ real, literal.magnitude significand power = .ok real := by
  unfold Literal.magnitude
  cases exponent : literal.exponent with
  | none => exact exists_scaleReal_small few (by omega)
  | some signed =>
    rcases signed with ⟨negative, digits⟩
    dsimp only
    cases negative with
    | true =>
      split
      · exact exists_scaleReal_small few (by rw [if_pos rfl]; omega)
      · exact ⟨_, if_pos (Or.inr rfl)⟩
    | false =>
      have bound := small digits exponent
      rw [if_pos (by omega)]
      exact exists_scaleReal_small few (by rw [if_neg Bool.false_ne_true]; omega)

/-- A literal has a value if its digits fit a machine word and it has a magnitude. -/
theorem exists_value {literal : Literal}
    (few : digitsValue (literal.whole ++ literal.fraction.getD []) < UInt64.size)
    (scaled : ∃ real, literal.magnitude
      (digitsValue (literal.whole ++ literal.fraction.getD []))
        (-((literal.fraction.getD []).length : Int)) = .ok real) :
    ∃ value, literal.value = .ok value := by
  have whole : absorb 0 literal.whole = (digitsValue literal.whole, []) :=
    absorb_of_lt (Nat.lt_of_le_of_lt (digitsValue_le_append _ _) few)
  have fraction : absorb (digitsValue literal.whole) (literal.fraction.getD []) =
      (digitsValue (literal.whole ++ literal.fraction.getD []), []) := by
    unfold digitsValue at few ⊢
    rw [List.foldl_append] at few ⊢
    exact absorb_of_lt few
  rcases scaled with ⟨real, scaled⟩
  unfold Literal.value
  rw [whole]
  dsimp only
  rw [fraction]
  split
  · exact ⟨_, rfl⟩
  · have power : ((([] : List Nat).length : Nat) : Int) -
        (((literal.fraction.getD []).length - ([] : List Nat).length : Nat) : Int) =
          -((literal.fraction.getD []).length : Int) := by
      rw [List.length_nil, Nat.sub_zero, Int.natCast_zero, Int.zero_sub]
    dsimp only
    rw [power, scaled]
    exact ⟨_, rfl⟩

/-- Any literal of a few digits with a small exponent has a value. -/
theorem exists_value_small {literal : Literal}
    (few : digitsValue (literal.whole ++ literal.fraction.getD []) < UInt64.size)
    (small : ∀ digits, literal.exponent = some (false, digits) → digitsValue digits ≤ 40) :
    ∃ value, literal.value = .ok value :=
  exists_value few (exists_magnitude few (by omega) small)

theorem exponentOf_nil_ne (digits : List Nat) : exponentOf [] ≠ some (false, digits) :=
  Option.some_ne_none _ ∘ Eq.symm

/-- A number of a few digits without an exponent has a value. -/
theorem exists_value_plain {minus whole fraction : Input}
    (few : digitsValue (digitsOf whole ++ (fractionOf fraction).getD []) < UInt64.size) :
    ∃ value, (literalOf minus whole fraction []).value = .ok value :=
  exists_value_small few fun digits written => absurd written (exponentOf_nil_ne digits)

/-! ## Numbers in their parts -/

theorem readNumeral_of_parts {minus whole fraction exponent : Input}
    (sign : minus = [] ∨ minus = [0x2d]) (first : IsWhole whole) (second : IsFraction fraction)
    (third : IsExponent exponent) {value : Numeral}
    (meant : (literalOf minus whole fraction exponent).value = .ok value) :
    readNumeral (minus ++ (whole ++ (fraction ++ exponent))) = .ok (value, []) := by
  have lexed := lexLiteral_of_parts sign first second third .endInValue stops_nil
  rw [List.append_nil] at lexed
  exact bind_eq_ok_iff.mpr ⟨_, lexed, bind_eq_ok_iff.mpr ⟨value, meant, rfl⟩⟩

/-- Behind the point a digit is due. -/
theorem readNumeral_at_point {minus whole : Input} (sign : minus = [] ∨ minus = [0x2d])
    (first : IsWhole whole) :
    readNumeral (minus ++ (whole ++ [0x2e])) = .error .endInValue := by
  have split : minus ++ (whole ++ [0x2e]) = (minus ++ whole) ++ [0x2e] := by
    rw [List.append_assoc]
  rw [readNumeral, lexLiteral_eq, split, minusOf_whole sign first,
    lexWhole_of_isWhole _ first (endsDigits_cons rfl [])]
  rfl

/-- Behind the letter of an exponent, and behind its sign, a digit is due. -/
theorem readNumeral_at_letter {minus whole fraction sign : Input} {mark : UInt8}
    (minusFormed : minus = [] ∨ minus = [0x2d]) (first : IsWhole whole)
    (second : IsFraction fraction) (marks : mark = 0x65 ∨ mark = 0x45)
    (signs : sign = [] ∨ sign = [0x2b] ∨ sign = [0x2d]) :
    readNumeral (minus ++ (whole ++ (fraction ++ mark :: sign))) = .error .endInValue := by
  have split : minus ++ (whole ++ (fraction ++ mark :: sign)) =
      (minus ++ whole) ++ (fraction ++ mark :: sign) := by
    rw [List.append_assoc]
  have other : isDigit mark = false ∧ (mark :: sign).head? ≠ some 0x2e := by
    rcases marks with rfl | rfl
    · exact ⟨rfl, by simp⟩
    · exact ⟨rfl, by simp⟩
  have ends := endsDigits_cons other.1 sign
  have nothing : (signOf sign).2 = [] := by
    rcases signs with rfl | rfl | rfl <;> rfl
  rw [readNumeral, lexLiteral_eq, split, minusOf_whole minusFormed first,
    lexWhole_of_isWhole _ first (second.endsDigits ends)]
  change (lexFraction .endInValue (fraction ++ mark :: sign) >>= _) >>= _ = _
  rw [lexFraction_of_isFraction _ second ends other.2]
  change (lexExponent .endInValue (mark :: sign) >>= _) >>= _ = _
  rw [lexExponent_letter _ marks, nothing]
  rfl

theorem IsDigits.front {front missing : Input} (digits : IsDigits (front ++ missing))
    (nonempty : front ≠ []) : IsDigits front :=
  ⟨nonempty, fun octet member => digits.2 octet (List.mem_append_left missing member)⟩

theorem IsWhole.front {front missing : Input} (whole : IsWhole (front ++ missing))
    (nonempty : front ≠ []) : IsWhole front := by
  rcases List.exists_cons_of_ne_nil nonempty with ⟨first, others, rfl⟩
  generalize split : (first :: others) ++ missing = text at whole
  cases whole with
  | zero =>
    rcases List.cons.inj split with ⟨rfl, behind⟩
    rcases List.append_eq_nil_iff.mp behind with ⟨rfl, _⟩
    exact .zero
  | digits positive each =>
    rcases List.cons.inj split with ⟨rfl, rfl⟩
    exact .digits positive fun octet member => each octet (List.mem_append_left missing member)

/-- An exponent that lost its last digits is a tenth of what it was at most. -/
theorem exponentOf_front {mark : UInt8} {sign front missing : Input}
    (signs : sign = [] ∨ sign = [0x2b] ∨ sign = [0x2d]) (formed : IsDigits (front ++ missing))
    (some : front ≠ []) (nonempty : missing ≠ [])
    (small : ∀ digits, exponentOf (mark :: (sign ++ (front ++ missing))) = .some (false, digits) →
      digitsValue digits < 400) :
    ∀ digits, exponentOf (mark :: (sign ++ front)) = .some (false, digits) →
      digitsValue digits ≤ 40 := by
  intro digits same
  rw [exponentOf_letter signs (formed.front some)] at same
  rcases Prod.mk.inj (Option.some.inj same) with ⟨positive, rfl⟩
  have bound := small (digitsOf (front ++ missing))
    (by rw [exponentOf_letter signs formed, positive])
  rw [digitsOf_append] at bound
  have lacking : digitsOf missing ≠ [] := fun none => nonempty (List.map_eq_nil_iff.mp none)
  have tenth := digitsValue_tenth (digitsOf front) lacking
  omega

/-- A number whose digits fit a machine word, with an exponent of at most two digits or so, and
with a value. -/
structure Moderate (minus whole fraction exponent : Input) : Prop where
  sign : minus = [] ∨ minus = [0x2d]
  first : IsWhole whole
  second : IsFraction fraction
  third : IsExponent exponent
  few : digitsValue (digitsOf whole ++ (fractionOf fraction).getD []) < UInt64.size
  small : ∀ digits, exponentOf exponent = some (false, digits) → digitsValue digits < 400
  valued : ∃ value, (literalOf minus whole fraction exponent).value = .ok value

/-- The reader runs out of input, or it reads a number up to the end. -/
def EndsInNumber (input : Input) : Prop :=
  readNumeral input = .error .endInValue ∨ ∃ value, readNumeral input = .ok (value, [])

namespace Moderate

variable {minus whole fraction exponent : Input}

/-- A number without an exponent. -/
theorem plain (sign : minus = [] ∨ minus = [0x2d]) (first : IsWhole whole)
    (second : IsFraction fraction)
    (few : digitsValue (digitsOf whole ++ (fractionOf fraction).getD []) < UInt64.size) :
    Moderate minus whole fraction [] where
  sign := sign
  first := first
  second := second
  third := .none
  few := few
  small digits written := absurd written (exponentOf_nil_ne digits)
  valued := exists_value_plain few

/-- A number that ends before its point. -/
theorem front_whole (moderate : Moderate minus whole fraction exponent) {front missing : Input}
    (split : whole = front ++ missing) : EndsInNumber (minus ++ front) := by
  have first := moderate.first
  have few := moderate.few
  subst split
  by_cases nothing : front = []
  · subst nothing
    rcases moderate.sign with rfl | rfl
    · exact Or.inl rfl
    · exact Or.inl rfl
  rw [digitsOf_append, List.append_assoc] at few
  have fewer : digitsValue (digitsOf front ++ (fractionOf []).getD []) < UInt64.size := by
    rw [fractionOf, Option.getD_none, List.append_nil]
    exact Nat.lt_of_le_of_lt (digitsValue_le_append _ _) few
  rcases exists_value_plain fewer with ⟨value, meant⟩
  have read := readNumeral_of_parts moderate.sign (first.front nothing) .none .none meant
  rw [List.append_nil, List.append_nil] at read
  exact Or.inr ⟨value, read⟩

/-- A number that ends at its point or within its fraction. -/
theorem front_fraction (moderate : Moderate minus whole fraction exponent)
    {front missing : Input} (split : fraction = front ++ missing) :
    EndsInNumber (minus ++ (whole ++ front)) := by
  have few := moderate.few
  cases front with
  | nil =>
    rw [List.append_nil]
    exact moderate.front_whole (List.append_nil whole).symm
  | cons point digits =>
    have second := moderate.second
    rw [split] at second few
    cases second with
    | point formed =>
      by_cases nothing : digits = []
      · subst nothing
        exact Or.inl (readNumeral_at_point moderate.sign moderate.first)
      rw [List.cons_append, fractionOf, Option.getD_some, digitsOf_append, ← List.append_assoc]
        at few
      have fewer : digitsValue (digitsOf whole ++ (fractionOf (0x2e :: digits)).getD []) <
          UInt64.size :=
        Nat.lt_of_le_of_lt (digitsValue_le_append _ _) few
      rcases exists_value_plain fewer with ⟨value, meant⟩
      have read := readNumeral_of_parts moderate.sign moderate.first
        (.point (formed.front nothing)) .none meant
      rw [List.append_nil] at read
      exact Or.inr ⟨value, read⟩

/-- A number that ends within its exponent. -/
theorem front_exponent (moderate : Moderate minus whole fraction exponent)
    {front missing : Input} (nonempty : missing ≠ []) (split : exponent = front ++ missing) :
    EndsInNumber (minus ++ (whole ++ (fraction ++ front))) := by
  have small := moderate.small
  cases front with
  | nil =>
    rw [List.append_nil]
    exact moderate.front_fraction (List.append_nil fraction).symm
  | cons mark power =>
    have third := moderate.third
    rw [split, List.cons_append] at third small
    generalize behind : power ++ missing = signed at third small
    cases third with
    | @letter _ sign digits marks signs formed =>
      have due : ∀ {signed : Input}, signed = [] ∨ signed = [0x2b] ∨ signed = [0x2d] →
          readNumeral (minus ++ (whole ++ (fraction ++ mark :: signed))) = .error .endInValue :=
        readNumeral_at_letter moderate.sign moderate.first moderate.second marks
      rcases front_cases ⟨missing, behind⟩ with ⟨lacking, some, same⟩ | ⟨front, rfl, _⟩
      · have nothing : power = [] := by
          rcases signs with rfl | rfl | rfl
          · exact (List.append_eq_nil_iff.mp same.symm).1
          all_goals
            rcases List.append_eq_singleton_iff.mp same.symm with ⟨none, _⟩ | ⟨_, none⟩
            · exact none
            · exact absurd none some
        rw [nothing]
        exact Or.inl (due (Or.inl rfl))
      by_cases nothing : front = []
      · rw [nothing, List.append_nil]
        exact Or.inl (due signs)
      rw [List.append_assoc] at behind
      obtain rfl : front ++ missing = digits := List.append_cancel_left behind
      have shorter := exponentOf_front signs formed nothing nonempty small
      have literal : ∃ value,
          (literalOf minus whole fraction (mark :: (sign ++ front))).value = .ok value :=
        exists_value_small moderate.few shorter
      rcases literal with ⟨value, meant⟩
      exact Or.inr ⟨value, readNumeral_of_parts moderate.sign moderate.first moderate.second
        (.letter marks signs (formed.front nothing)) meant⟩

/-- On every front of a number the reader runs out of input or reads a number. -/
theorem front (moderate : Moderate minus whole fraction exponent) {front : Input}
    (within : front <+: minus ++ (whole ++ (fraction ++ exponent))) : EndsInNumber front := by
  rcases front_cases within with ⟨missing, nonempty, split⟩ | ⟨unsigned, rfl, beyond⟩
  · have nothing : front = [] := by
      rcases moderate.sign with rfl | rfl
      · exact (List.append_eq_nil_iff.mp split.symm).1
      · rcases List.append_eq_singleton_iff.mp split.symm with ⟨none, _⟩ | ⟨_, none⟩
        · exact none
        · exact absurd none nonempty
    subst nothing
    exact Or.inl rfl
  rcases front_cases beyond with ⟨missing, _, split⟩ | ⟨behind, rfl, further⟩
  · exact moderate.front_whole split
  rcases front_cases further with ⟨missing, _, split⟩ | ⟨last, rfl, rest⟩
  · exact moderate.front_fraction split
  by_cases all : last = exponent
  · rcases moderate.valued with ⟨value, meant⟩
    rw [all]
    exact Or.inr ⟨value, readNumeral_of_parts moderate.sign moderate.first moderate.second
      moderate.third meant⟩
  · rcases exists_missing rest all with ⟨missing, nonempty, split⟩
    exact moderate.front_exponent nonempty split

end Moderate

end Json
end LendingGateway
