import Mathlib.Algebra.Group.Nat.Defs
import LendingGateway.Proofs.Json.Reading
import LendingGateway.Proofs.Text.Octets

namespace LendingGateway
namespace Json

open Traversal

/-!
# Numbers as they are written

An integer within the machine's words is read as itself.  Of a real nothing is known but
what its literal says: if that denotes the number at all, it is read as a real, because the
literal of a real always has a point or an exponent and so is never taken for an integer.
-/

/-! ## Digits -/

theorem isDigit_bounds {c : Char} (digit : c.isDigit = true) : 0x30 ≤ c.toNat ∧ c.toNat ≤ 0x39 := by
  rw [Char.isDigit, Bool.and_eq_true, decide_eq_true_eq, decide_eq_true_eq] at digit
  exact digit

theorem isDigit_toUInt8 {c : Char} (digit : c.isDigit = true) :
    isDigit c.toNat.toUInt8 = true := by
  rcases isDigit_bounds digit with ⟨least, greatest⟩
  rw [isDigit, Bool.and_eq_true, decide_eq_true_eq, decide_eq_true_eq, UInt8.le_iff_toNat_le,
    UInt8.le_iff_toNat_le, UInt8.toNat_ofNat', Nat.mod_eq_of_lt (by omega)]
  exact ⟨least, greatest⟩

/-- The octets of some digits. -/
def digitOctets (digits : List Char) : List UInt8 :=
  digits.map fun c => c.toNat.toUInt8

/-- The values of some digits. -/
def digitValues (digits : List Char) : List Nat :=
  digits.map fun c => c.toNat - 0x30

theorem octets_digits {digits : List Char} (decimal : ∀ c ∈ digits, c.isDigit = true) :
    Text.octets (String.ofList digits) = digitOctets digits := by
  rw [Text.octets_ofList]
  induction digits with
  | nil => rfl
  | cons c digits inductionHypothesis =>
    rw [List.forall_mem_cons] at decimal
    have ascii : c.toNat < 0x80 := by
      have bounds := isDigit_bounds decimal.1
      omega
    rw [List.flatMap_cons, Text.utf8EncodeChar_of_lt ascii, inductionHypothesis decimal.2]
    rfl

theorem takeDigits_digitOctets {digits : List Char} (decimal : ∀ c ∈ digits, c.isDigit = true) :
    takeDigits (digitOctets digits) = (digitValues digits, []) := by
  induction digits with
  | nil => rfl
  | cons c digits inductionHypothesis =>
    rw [List.forall_mem_cons] at decimal
    have bounds := isDigit_bounds decimal.1
    have code : c.toNat.toUInt8.toNat = c.toNat := by
      rw [UInt8.toNat_ofNat', Nat.mod_eq_of_lt (by omega)]
    rw [digitOctets, List.map_cons, takeDigits_cons (isDigit_toUInt8 decimal.1), ← digitOctets,
      inductionHypothesis decimal.2, code]
    rfl

/-! ## Integers -/

theorem digits_decimal (number : Nat) : ∀ c ∈ Nat.toDigits 10 number, c.isDigit = true :=
  fun _ member => Nat.isDigit_of_mem_toDigits (by decide) (by decide) member

/-- No positive number is written with a leading zero. -/
theorem toDigits_head {number : Nat} (positive : 0 < number) :
    ∃ first others, Nat.toDigits 10 number = first :: others ∧ first ≠ '0' := by
  induction number using Nat.strongRecOn with
  | ind number inductionHypothesis =>
    by_cases small : number < 10
    · refine ⟨number.digitChar, [], Nat.toDigits_of_lt_base small, ?_⟩
      have each : ∀ digit : Fin 10, 0 < digit.val → digit.val.digitChar ≠ '0' := by decide
      exact each ⟨number, small⟩ positive
    · rcases inductionHypothesis (number / 10) (by omega) (by omega) with
        ⟨first, others, front, nonzero⟩
      rw [Nat.toDigits_of_base_le (by decide) (by omega), front]
      exact ⟨first, _, rfl, nonzero⟩

theorem lexWhole_toDigits (ended : Cause) (number : Nat) :
    lexWhole ended (digitOctets (Nat.toDigits 10 number)) =
      .ok (digitValues (Nat.toDigits 10 number), []) := by
  rcases Nat.eq_zero_or_pos number with zero | positive
  · subst zero
    rfl
  · rcases toDigits_head positive with ⟨first, others, digits, nonzero⟩
    have decimal := digits_decimal number
    rw [digits] at decimal ⊢
    have bounds := isDigit_bounds (decimal first List.mem_cons_self)
    have different : first.toNat.toUInt8 ≠ 0x30 := by
      intro same
      have code := congrArg UInt8.toNat same
      rw [UInt8.toNat_ofNat', Nat.mod_eq_of_lt (by omega)] at code
      exact nonzero (Char.toNat_inj.mp code)
    rw [← takeDigits_digitOctets decimal]
    exact lexWhole_of_digit ended different (isDigit_toUInt8 (decimal first List.mem_cons_self)) _

theorem le_foldl_digits (digits : List Nat) (start : Nat) :
    start * 10 ^ digits.length ≤
      digits.foldl (fun number digit => number * 10 + digit) start := by
  induction digits generalizing start with
  | nil =>
    rw [List.length_nil, Nat.pow_zero, Nat.mul_one]
    exact Nat.le_refl start
  | cons digit digits inductionHypothesis =>
    rw [List.foldl_cons, List.length_cons, Nat.pow_succ', ← Nat.mul_assoc]
    exact Nat.le_trans (Nat.mul_le_mul_right _ (Nat.le_add_right _ digit))
      (inductionHypothesis _)

theorem start_le_foldl_digits (digits : List Nat) (start : Nat) :
    start ≤ digits.foldl (fun number digit => number * 10 + digit) start :=
  Nat.le_trans (Nat.le_mul_of_pos_right _ (Nat.pow_pos (by decide))) (le_foldl_digits digits start)

/-- Digits are all taken into a significand as long as the number they write fits. -/
theorem absorb_of_lt {digits : List Nat} {significand : Nat}
    (fits : digits.foldl (fun number digit => number * 10 + digit) significand < UInt64.size) :
    absorb significand digits =
      (digits.foldl (fun number digit => number * 10 + digit) significand, []) := by
  induction digits generalizing significand with
  | nil => rfl
  | cons digit digits inductionHypothesis =>
    rw [List.foldl_cons] at fits ⊢
    have small := Nat.lt_of_le_of_lt (start_le_foldl_digits digits _) fits
    rw [absorb, if_pos small, inductionHypothesis fits]

/-- If no digit is left out, the significand is the number that they write. -/
theorem foldl_of_absorb {digits : List Nat} {significand taken : Nat}
    (all : absorb significand digits = (taken, [])) :
    digits.foldl (fun number digit => number * 10 + digit) significand = taken := by
  induction digits generalizing significand with
  | nil =>
    cases all
    rfl
  | cons digit digits inductionHypothesis =>
    rw [absorb] at all
    split at all
    · exact inductionHypothesis all
    · cases all

theorem absorb_lt {digits : List Nat} {significand : Nat} (small : significand < UInt64.size) :
    (absorb significand digits).1 < UInt64.size := by
  induction digits generalizing significand with
  | nil => exact small
  | cons digit digits inductionHypothesis =>
    rw [absorb]
    split
    · rename_i fits
      exact inductionHypothesis fits
    · exact small

theorem foldl_digitValues (digits : List Char) (start : Nat) :
    (digitValues digits).foldl (fun number digit => number * 10 + digit) start =
      Nat.ofDigitChars 10 digits start := by
  induction digits generalizing start with
  | nil => rfl
  | cons c digits inductionHypothesis =>
    rw [digitValues, List.map_cons, List.foldl_cons, ← digitValues, inductionHypothesis,
      Nat.ofDigitChars_cons, Nat.mul_comm]
    rfl

theorem absorb_toDigits {number : Nat} (fits : number < UInt64.size) :
    absorb 0 (digitValues (Nat.toDigits 10 number)) = (number, []) := by
  have written : (digitValues (Nat.toDigits 10 number)).foldl
      (fun number digit => number * 10 + digit) 0 = number := by
    rw [foldl_digitValues, Nat.ofDigitChars_ten_toDigits]
  rw [absorb_of_lt (by rw [written]; exact fits), written]

theorem minusOf_digitOctets {digits : List Char} (decimal : ∀ c ∈ digits, c.isDigit = true) :
    minusOf (digitOctets digits) = (false, digitOctets digits) := by
  rcases minusOf_cases (digitOctets digits) with ⟨rest, written, _⟩ | read
  · cases digits with
    | nil => cases written
    | cons c digits =>
      have digit := isDigit_toUInt8 (decimal c List.mem_cons_self)
      have first : c.toNat.toUInt8 = 0x2d := (List.cons.inj written).1
      rw [first] at digit
      cases digit
  · exact read

theorem lexLiteral_toDigits (ended : Cause) (number : Nat) :
    lexLiteral ended (digitOctets (Nat.toDigits 10 number)) =
      .ok (⟨false, digitValues (Nat.toDigits 10 number), none, none⟩, []) := by
  apply lexLiteral_eq_ok_iff.mpr
  rw [minusOf_digitOctets (digits_decimal number)]
  exact ⟨_, none, [], [], lexWhole_toDigits ended number, rfl, rfl, rfl⟩

theorem lexLiteral_minus_toDigits (ended : Cause) (number : Nat) :
    lexLiteral ended (0x2d :: digitOctets (Nat.toDigits 10 number)) =
      .ok (⟨true, digitValues (Nat.toDigits 10 number), none, none⟩, []) := by
  apply lexLiteral_eq_ok_iff.mpr
  exact ⟨_, none, [], [], lexWhole_toDigits ended number, rfl, rfl, rfl⟩

theorem value_integer {negative : Bool} {number : Nat} (fits : number < UInt64.size)
    (signed : negative = false ∨ (0 < number ∧ Int64.minValue.toInt ≤ -number)) :
    Literal.value ⟨negative, digitValues (Nat.toDigits 10 number), none, none⟩ =
      .ok (.integer (if negative then -(number : Int) else number)) := by
  unfold Literal.value
  rw [absorb_toDigits fits]
  exact if_pos ⟨rfl, rfl, rfl, signed⟩

theorem octets_repr (number : Nat) :
    Text.octets number.repr = digitOctets (Nat.toDigits 10 number) := by
  rw [Nat.repr_eq_ofList_toDigits, octets_digits (digits_decimal number)]

/-- An integer that a machine word holds, signed or not, is read as it was written. -/
theorem readNumeral_integer {value : Int} (least : Int64.minValue.toInt ≤ value)
    (most : value < UInt64.size) :
    readNumeral (Text.octets (renderNumeral (.integer value))) = .ok (.integer value, []) := by
  have bottom : Int64.minValue.toInt = -9223372036854775808 := rfl
  have size : UInt64.size = 18446744073709551616 := rfl
  apply bind_eq_ok_iff.mpr
  rw [renderNumeral, Int.toString_eq_repr, Int.repr_eq_if]
  by_cases nonnegative : 0 ≤ value
  · rw [if_pos nonnegative, octets_repr]
    refine ⟨_, lexLiteral_toDigits .endInValue value.toNat, ?_⟩
    apply bind_eq_ok_iff.mpr
    refine ⟨_, value_integer (by omega) (Or.inl rfl), ?_⟩
    rw [if_neg Bool.false_ne_true, Int.toNat_of_nonneg nonnegative]
  · have minus : Text.octets "-" = [0x2d] := rfl
    rw [if_neg nonnegative, Text.octets_append, minus, octets_repr]
    refine ⟨_, lexLiteral_minus_toDigits .endInValue (-value).toNat, ?_⟩
    apply bind_eq_ok_iff.mpr
    refine ⟨_, value_integer (by omega) (Or.inr (by omega)), ?_⟩
    rw [if_pos rfl, Int.toNat_of_nonneg (by omega), Int.neg_neg]

theorem toInt64_integer (number : Int64) :
    (Numeral.integer number.toInt).toInt64 = .ok number := by
  unfold Numeral.toInt64
  dsimp only
  rw [if_pos ⟨number.minValue_le_toInt, number.toInt_le⟩, Int64.ofInt_toInt]

theorem toUInt64_integer (number : UInt64) :
    (Numeral.integer number.toNat).toUInt64 = .ok number := by
  unfold Numeral.toUInt64
  dsimp only
  rw [if_pos ⟨Int.natCast_nonneg _, Int.ofNat_lt.mpr number.toNat_lt_size⟩,
    Int.toNat_natCast, UInt64.ofNat_toNat]

/-- An integer that is read fits a machine word. -/
theorem bounds_of_value {literal : Literal} {value : Int}
    (meant : literal.value = .ok (.integer value)) :
    Int64.minValue.toInt ≤ value ∧ value < UInt64.size := by
  have size : UInt64.size = 18446744073709551616 := rfl
  have bottom : Int64.minValue.toInt = -9223372036854775808 := rfl
  have small : (absorb 0 literal.whole).1 < UInt64.size := absorb_lt (by decide)
  unfold Literal.value at meant
  dsimp only at meant
  split at meant
  · rename_i plain
    rcases plain with ⟨_, _, _, unsigned | ⟨_, least⟩⟩
    · rw [unsigned, if_neg Bool.false_ne_true] at meant
      cases meant
      omega
    · cases meant
      split <;> omega
  · rcases bind_eq_ok_iff.mp meant with ⟨magnitude, _, impossible⟩
    cases impossible

/-! ## Reals -/

/-- The printed literal of a real reads back as the same number. -/
def ReadsBack (real : Float) : Prop :=
  Shape.real.parse (Text.octets (renderNumeral (.real real))) = .ok real

instance (real : Float) : Decidable (ReadsBack real) :=
  decidable_of_iff
    ((Shape.real.parse (Text.octets (renderNumeral (.real real)))).toOption = some real) (by
      unfold ReadsBack
      cases Shape.real.parse (Text.octets (renderNumeral (.real real))) with
      | error fault => exact ⟨nofun, nofun⟩
      | ok number =>
        exact ⟨fun same => congrArg Except.ok (Option.some.inj same),
          fun same => congrArg some (Except.ok.inj same)⟩)

/-- The characters of the literal of a real. -/
def InReal (c : Char) : Prop :=
  c.isDigit = true ∨ c = '-' ∨ c = '+' ∨ c = '.' ∨ c = 'e'

/-- A literal that cannot be one of an integer. -/
def RealLiteral (literal : List Char) : Prop :=
  (∀ c ∈ literal, InReal c) ∧ ('.' ∈ literal ∨ 'e' ∈ literal)

theorem realLiteral_positional {digits : List Char} (decimal : ∀ c ∈ digits, c.isDigit = true)
    (leading : Int) : RealLiteral (Decimal.positional digits leading) := by
  have point : InReal '.' := Or.inr (Or.inr (Or.inr (Or.inl rfl)))
  have zero : InReal '0' := Or.inl rfl
  unfold Decimal.positional
  dsimp only
  split
  · refine ⟨?_, Or.inl (by simp)⟩
    intro c member
    simp only [List.mem_append, List.mem_cons, List.not_mem_nil, or_false, List.mem_replicate]
      at member
    rcases member with ((rfl | rfl) | ⟨_, rfl⟩) | digit
    · exact zero
    · exact point
    · exact zero
    · exact Or.inl (decimal c digit)
  · split
    · refine ⟨?_, Or.inl (by simp)⟩
      intro c member
      simp only [List.mem_append, List.mem_cons, List.not_mem_nil, or_false, List.mem_replicate]
        at member
      rcases member with (digit | ⟨_, rfl⟩) | rfl | rfl
      · exact Or.inl (decimal c digit)
      · exact zero
      · exact point
      · exact zero
    · refine ⟨?_, Or.inl (by simp)⟩
      intro c member
      simp only [List.mem_append, List.mem_cons, List.not_mem_nil, or_false] at member
      rcases member with (digit | rfl) | digit
      · exact Or.inl (decimal c (List.mem_of_mem_take digit))
      · exact point
      · exact Or.inl (decimal c (List.mem_of_mem_drop digit))

theorem realLiteral_scientific {digits : List Char} (decimal : ∀ c ∈ digits, c.isDigit = true)
    (written : digits ≠ []) (leading : Int) : RealLiteral (Decimal.scientific digits leading) := by
  have letter : InReal 'e' := Or.inr (Or.inr (Or.inr (Or.inr rfl)))
  have power : ∀ c ∈ (if leading < 0 then ['-'] else ['+']) ++ Decimal.digitsOf leading.natAbs,
      InReal c := by
    intro c member
    rcases List.mem_append.mp member with sign | digit
    · split at sign
      · exact Or.inr (Or.inl (List.mem_singleton.mp sign))
      · exact Or.inr (Or.inr (Or.inl (List.mem_singleton.mp sign)))
    · exact Or.inl (digits_decimal _ c digit)
  unfold Decimal.scientific
  dsimp only
  split
  · exact absurd rfl written
  · rename_i only
    refine ⟨?_, Or.inr (by simp)⟩
    intro c member
    rcases List.mem_cons.mp member with rfl | member
    · exact Or.inl (decimal c List.mem_cons_self)
    · rcases List.mem_cons.mp member with rfl | exponent
      · exact letter
      · exact power c exponent
  · rename_i first others _
    refine ⟨?_, Or.inl (by simp)⟩
    intro c member
    rcases List.mem_append.mp member with front | member
    · rcases List.mem_cons.mp front with rfl | member
      · exact Or.inl (decimal c List.mem_cons_self)
      · rcases List.mem_cons.mp member with rfl | other
        · exact Or.inr (Or.inr (Or.inr (Or.inl rfl)))
        · exact Or.inl (decimal c (List.mem_cons_of_mem first other))
    · rcases List.mem_cons.mp member with rfl | exponent
      · exact letter
      · exact power c exponent

theorem realLiteral_writeReal (real : Float) : RealLiteral (Decimal.writeReal real).toList := by
  have written : ∀ layout number, RealLiteral (Decimal.Layout.write layout number) := by
    intro layout number
    have decimal := digits_decimal number.digits
    unfold Decimal.Layout.write
    dsimp only
    split
    · exact realLiteral_positional decimal _
    · exact realLiteral_scientific decimal Nat.toDigits_ne_nil _
  rcases written Decimal.yieldLayout (Decimal.shortest real.toBits) with ⟨characters, mark⟩
  rw [Decimal.writeReal, String.toList_ofList]
  refine ⟨?_, mark.imp (List.mem_append_right _) (List.mem_append_right _)⟩
  intro c member
  rcases List.mem_append.mp member with sign | literal
  · split at sign
    · exact Or.inr (Or.inl (List.mem_singleton.mp sign))
    · cases sign
  · exact characters c literal

/-- What the octets of such a literal are not: gaps; and one of them is neither a minus sign
nor a digit. -/
theorem octets_realLiteral {literal : List Char} (real : RealLiteral literal) :
    (∀ octet ∈ Text.octets (String.ofList literal), isGap octet = false) ∧
      ∃ octet ∈ Text.octets (String.ofList literal), octet ≠ 0x2d ∧ isDigit octet = false := by
  rcases real with ⟨characters, mark⟩
  rw [Text.octets_ofList]
  constructor
  · intro octet member
    rcases List.mem_flatMap.mp member with ⟨c, held, encoded⟩
    rcases characters c held with digit | rfl | rfl | rfl | rfl
    · have bounds := isDigit_bounds digit
      rw [Text.utf8EncodeChar_of_lt (by omega), List.mem_singleton] at encoded
      subst encoded
      simp only [isGap, Bool.or_eq_false_iff, beq_eq_false_iff_ne, ne_eq, ← UInt8.toNat_inj,
        UInt8.toNat_ofNat', UInt8.reduceToNat]
      omega
    all_goals
      rcases List.mem_singleton.mp encoded with rfl
      rfl
  · rcases mark with point | letter
    · exact ⟨0x2e, List.mem_flatMap.mpr ⟨'.', point, List.mem_singleton.mpr rfl⟩, by decide, rfl⟩
    · exact ⟨0x65, List.mem_flatMap.mpr ⟨'e', letter, List.mem_singleton.mpr rfl⟩, by decide, rfl⟩

theorem skipGap_of_all {input : Input} (solid : ∀ octet ∈ input, isGap octet = false) :
    skipGap input = input := by
  cases input with
  | nil => rfl
  | cons octet others =>
    have first := Bool.eq_false_iff.mp (solid octet List.mem_cons_self)
    rw [skipGap, List.dropWhile_cons, if_neg first]

/-- A literal with a fraction or an exponent denotes no integer. -/
theorem value_real {literal : Literal} {number : Numeral}
    (marked : ¬ (literal.fraction = none ∧ literal.exponent = none))
    (meant : literal.value = .ok number) : ∃ real, number = .real real := by
  unfold Literal.value at meant
  dsimp only at meant
  rw [if_neg fun plain => marked
    ⟨Option.isNone_iff_eq_none.mp plain.1, Option.isNone_iff_eq_none.mp plain.2.1⟩] at meant
  rcases bind_eq_ok_iff.mp meant with ⟨magnitude, _, done⟩
  cases done
  exact ⟨_, rfl⟩

theorem octets_writeReal (real : Float) :
    (∀ octet ∈ Text.octets (Decimal.writeReal real), isGap octet = false) ∧
      ∃ octet ∈ Text.octets (Decimal.writeReal real), octet ≠ 0x2d ∧ isDigit octet = false := by
  have marked := octets_realLiteral (realLiteral_writeReal real)
  rwa [String.ofList_toList] at marked

/-- The literal of a real is read as a real, if at all. -/
theorem real_of_readNumeral {real : Float} {number : Numeral}
    (read : readNumeral (Text.octets (Decimal.writeReal real)) = .ok (number, [])) :
    ∃ value, number = .real value := by
  rcases bind_eq_ok_iff.mp read with ⟨⟨literal, after⟩, literalRead, valued⟩
  rcases bind_eq_ok_iff.mp valued with ⟨denoted, meant, done⟩
  cases done
  -- An integer is written without the octet at hand, so the literal is not that of one.
  have marked : ¬ (literal.fraction = none ∧ literal.exponent = none) := by
    rintro ⟨noFraction, noExponent⟩
    rcases (octets_writeReal real).2 with ⟨octet, member, notMinus, notDigit⟩
    rcases lexLiteral_plain literalRead noFraction noExponent with ⟨front, split, plain⟩
    rw [List.append_nil] at split
    rcases plain octet (split ▸ member) with minus | digit
    · exact notMinus minus
    · exact Bool.false_ne_true (notDigit.symm.trans digit)
  exact value_real marked meant

/-- A real whose literal reads back is read from it as a real, and wholly. -/
theorem readNumeral_real {real : Float} (readsBack : ReadsBack real) :
    readNumeral (Text.octets (renderNumeral (.real real))) = .ok (.real real, []) := by
  rcases bind_eq_ok_iff.mp readsBack with ⟨⟨value, rest⟩, read, done⟩
  dsimp only at done
  split at done
  case isFalse => cases done
  rename_i ended
  cases done
  rcases readNumber_eq_ok_iff.mp (here_eq_ok_iff.mp read) with
    ⟨_, _, number, starts, _, lexed, meant⟩
  rw [← starts] at lexed
  cases meant
  unfold renderNumeral at lexed ⊢
  dsimp only at lexed ⊢
  split at lexed
  · cases lexed
  rename_i finite
  rw [if_neg finite]
  have solid := (octets_writeReal number.toReal).1
  rw [skipGap_of_all solid] at lexed
  have nothing : rest = [] := by
    rcases bind_eq_ok_iff.mp lexed with ⟨⟨literal, after⟩, literalRead, valued⟩
    rcases bind_eq_ok_iff.mp valued with ⟨denoted, _, done⟩
    cases done
    have solidRest : ∀ octet ∈ rest, isGap octet = false := fun octet held =>
      solid octet ((lexLiteral_suffix literalRead).subset held)
    rw [skipGap_of_all solidRest] at ended
    exact List.isEmpty_iff.mp ended
  subst nothing
  rcases real_of_readNumeral lexed with ⟨same, rfl⟩
  exact lexed

end Json
end LendingGateway
