import Mathlib.Algebra.Group.Int.Defs
import LendingGateway.Proofs.Json.Meaning
import LendingGateway.Proofs.Json.Numbers

namespace LendingGateway
namespace Json

open Traversal

/-!
# Numbers that write integers

What integer a number writes is said here by its digits alone, however many there are.  A
machine word takes exactly the integers of its range from numbers, and each as it is
written: digits beyond a word are noticed before they are lost, and no other number is taken
for an integer.
-/

/-! ## The integer of a number -/

/-- A number writes an integer if it has neither fraction nor exponent and is not a minus
sign before a zero. -/
inductive Number.Writes (number : Number) : Int → Prop where
  | unsigned {whole : Input} (first : IsWhole whole) (spelt : number.octets = whole) :
      Number.Writes number (digitsValue (digitsOf whole))
  | negative {whole : Input} (first : IsWhole whole) (nonzero : whole ≠ [0x30])
      (spelt : number.octets = 0x2d :: whole) :
      Number.Writes number (-(digitsValue (digitsOf whole) : Int))

/-- What a number denotes for the readers. -/
def Number.numeral (number : Number) : Except Cause Numeral :=
  (readNumeral number.octets).map Prod.fst

theorem Number.numeral_of_parts {number : Number} {minus whole fraction exponent : Input}
    (sign : minus = [] ∨ minus = [0x2d]) (first : IsWhole whole) (second : IsFraction fraction)
    (third : IsExponent exponent)
    (spelt : number.octets = minus ++ (whole ++ (fraction ++ exponent))) :
    number.numeral = (literalOf minus whole fraction exponent).value := by
  have lexed := lexLiteral_of_parts sign first second third .endInValue stops_nil
  rw [List.append_nil] at lexed
  rw [Number.numeral, spelt, readNumeral, lexed]
  change Except.map Prod.fst (_ >>= fun value => .ok (value, [])) = _
  cases (literalOf minus whole fraction exponent).value <;> rfl

/-- Wherever a number ends, it is read as what it denotes. -/
theorem readNumeral_number (number : Number) {rest : Input} (stops : Stops rest) :
    readNumeral (number.octets ++ rest) =
      number.numeral >>= fun numeral => .ok (numeral, rest) := by
  generalize spelt : number.octets = octets
  have formed := number.formed
  rw [spelt] at formed
  cases formed with
  | parts sign first second third =>
    rw [Number.numeral_of_parts sign first second third spelt, readNumeral,
      lexLiteral_of_parts sign first second third .endInValue stops]
    rfl

theorem IsWhole.ne_minus {whole rest : Input} (first : IsWhole whole) : whole ≠ 0x2d :: rest := by
  rintro rfl
  cases first with
  | digits _ each => cases each _ List.mem_cons_self

/-- No number writes two integers. -/
theorem Number.Writes.unique {number : Number} {integer other : Int}
    (writes : number.Writes integer) (again : number.Writes other) : integer = other := by
  cases writes with
  | unsigned first spelt =>
    cases again with
    | unsigned _ same =>
      rw [← spelt, ← same]
    | negative _ _ same => exact absurd (spelt.symm.trans same) first.ne_minus
  | negative _ _ spelt =>
    cases again with
    | unsigned first same => exact absurd (same.symm.trans spelt) first.ne_minus
    | negative _ _ same =>
      rw [(List.cons.inj (spelt.symm.trans same)).2]

/-- Digits alone, as a number. -/
def Number.ofWhole {whole : Input} (first : IsWhole whole) : Number :=
  ⟨[] ++ (whole ++ ([] ++ [])), .parts (Or.inl rfl) first .none .none⟩

theorem Number.ofWhole_writes {whole : Input} (first : IsWhole whole) :
    (Number.ofWhole first).Writes (digitsValue (digitsOf whole)) := by
  refine .unsigned first ?_
  change [] ++ (whole ++ ([] ++ [])) = whole
  rw [List.append_nil, List.append_nil, List.nil_append]

/-! ## Literals that denote integers -/

theorem digitsValue_pos {whole : Input} (first : IsWhole whole) (nonzero : whole ≠ [0x30]) :
    0 < digitsValue (digitsOf whole) := by
  cases first with
  | zero => exact absurd rfl nonzero
  | @digits octet others positive each =>
    have code : octet.toNat ≠ 0x30 := fun same => positive (UInt8.toNat_inj.mp same)
    have digit := each octet List.mem_cons_self
    have low : 0x30 ≤ octet.toNat := by
      rw [isDigit, Bool.and_eq_true, decide_eq_true_eq] at digit
      exact digit.1
    have grows := start_le_foldl_digits (digitsOf others) (0 * 10 + (octet.toNat - 0x30))
    change 0 < (digitsOf others).foldl _ (0 * 10 + (octet.toNat - 0x30))
    omega

theorem absorb_all_iff {digits : List Nat} :
    (absorb 0 digits).2 = [] ↔ digitsValue digits < UInt64.size := by
  constructor
  · intro all
    have small : (absorb 0 digits).1 < UInt64.size := absorb_lt (by decide)
    rw [digitsValue, foldl_of_absorb (Prod.ext rfl all)]
    exact small
  · intro fits
    rw [absorb_of_lt fits]

/-- A literal denotes an integer if it has digits only, as many as fit a machine word, and
the minus sign leaves a negative word. -/
theorem Literal.value_eq_integer_iff {literal : Literal} {value : Int} :
    literal.value = .ok (.integer value) ↔
      literal.fraction = none ∧ literal.exponent = none ∧
        digitsValue literal.whole < UInt64.size ∧
        (literal.negative = false ∨ (0 < digitsValue literal.whole ∧
          Int64.minValue.toInt ≤ -(digitsValue literal.whole : Int))) ∧
        value = if literal.negative then -(digitsValue literal.whole : Int)
          else digitsValue literal.whole := by
  unfold Literal.value
  dsimp only
  rw [← absorb_all_iff]
  constructor
  · intro meant
    split at meant
    · rename_i plain
      rcases plain with ⟨noFraction, noExponent, all, signed⟩
      have taken : digitsValue literal.whole = (absorb 0 literal.whole).1 :=
        foldl_of_absorb (Prod.ext rfl all)
      cases meant
      rw [taken]
      exact ⟨Option.isNone_iff_eq_none.mp noFraction, Option.isNone_iff_eq_none.mp noExponent,
        all, signed, rfl⟩
    · rcases bind_eq_ok_iff.mp meant with ⟨magnitude, _, impossible⟩
      cases impossible
  · rintro ⟨noFraction, noExponent, all, signed, rfl⟩
    have taken : digitsValue literal.whole = (absorb 0 literal.whole).1 :=
      foldl_of_absorb (Prod.ext rfl all)
    rw [taken] at signed ⊢
    exact if_pos ⟨Option.isNone_iff_eq_none.mpr noFraction,
      Option.isNone_iff_eq_none.mpr noExponent, all, signed⟩

theorem fractionOf_eq_none_iff {fraction : Input} : fractionOf fraction = none ↔ fraction = [] := by
  cases fraction with
  | nil => exact ⟨fun _ => rfl, fun _ => rfl⟩
  | cons => exact ⟨fun impossible => (nomatch impossible), fun impossible => (nomatch impossible)⟩

theorem exponentOf_eq_none_iff {exponent : Input} :
    exponentOf exponent = none ↔ exponent = [] := by
  cases exponent with
  | nil => exact ⟨fun _ => rfl, fun _ => rfl⟩
  | cons => exact ⟨fun impossible => (nomatch impossible), fun impossible => (nomatch impossible)⟩

/-- A number denotes the integer that it writes, if a machine word holds it, signed or not. -/
theorem Number.numeral_eq_integer_iff {number : Number} {value : Int} :
    number.numeral = .ok (.integer value) ↔
      number.Writes value ∧ Int64.minValue.toInt ≤ value ∧ value < UInt64.size := by
  have bottom : Int64.minValue.toInt = -9223372036854775808 := rfl
  have size : UInt64.size = 18446744073709551616 := rfl
  constructor
  · intro denotes
    generalize spelt : number.octets = octets
    have formed := number.formed
    rw [spelt] at formed
    cases formed with
    | @parts minus whole fraction exponent sign first second third =>
      rw [Number.numeral_of_parts sign first second third spelt] at denotes
      rcases Literal.value_eq_integer_iff.mp denotes with
        ⟨noFraction, noExponent, fits, signed, same⟩
      have bounds := bounds_of_value denotes
      obtain rfl := fractionOf_eq_none_iff.mp noFraction
      obtain rfl := exponentOf_eq_none_iff.mp noExponent
      rw [List.append_nil, List.append_nil] at spelt
      refine ⟨?_, bounds⟩
      rcases sign with rfl | rfl
      · rw [same]
        exact .unsigned first spelt
      · rcases signed with impossible | ⟨positive, _⟩
        · cases impossible
        · have nonzero : whole ≠ [0x30] := by
            rintro rfl
            cases positive
          rw [same]
          exact .negative first nonzero spelt
  · rintro ⟨writes, least, most⟩
    cases writes with
    | @unsigned whole first spelt =>
      have parts : number.octets = [] ++ (whole ++ ([] ++ [])) := by
        rw [spelt, List.append_nil, List.append_nil, List.nil_append]
      rw [Number.numeral_of_parts (Or.inl rfl) first .none .none parts]
      exact Literal.value_eq_integer_iff.mpr
        ⟨rfl, rfl, Int.ofNat_lt.mp most, Or.inl rfl, rfl⟩
    | @negative whole first nonzero spelt =>
      have parts : number.octets = [0x2d] ++ (whole ++ ([] ++ [])) := by
        rw [spelt, List.append_nil, List.append_nil]
        rfl
      rw [Number.numeral_of_parts (Or.inr rfl) first .none .none parts]
      have positive := digitsValue_pos first nonzero
      have fits : digitsValue (digitsOf whole) < UInt64.size := by omega
      exact Literal.value_eq_integer_iff.mpr ⟨rfl, rfl, fits, Or.inr ⟨positive, least⟩, rfl⟩

/-! ## Numbers that are refused -/

/-- A result fails at most by being too large. -/
def FailsByRange {α : Type} (result : Except Cause α) : Prop :=
  ∀ cause, result = .error cause → cause = .numberOutOfRange

theorem FailsByRange.ok {α : Type} (value : α) : FailsByRange (.ok value) :=
  fun _ impossible => nomatch impossible

theorem FailsByRange.outOfRange {α : Type} :
    FailsByRange (.error .numberOutOfRange : Except Cause α) := by
  intro cause failed
  cases failed
  rfl

theorem failsByRange_scaleReal (significand : Nat) (power : Int) :
    FailsByRange (scaleReal significand power) := by
  unfold scaleReal
  dsimp only
  split
  · exact .ok _
  · split
    · split
      · exact .outOfRange
      · exact .ok _
    · split
      · exact .ok _
      · exact .outOfRange

theorem Literal.failsByRange_value (literal : Literal) : FailsByRange literal.value := by
  have magnitude : ∀ significand power, FailsByRange (literal.magnitude significand power) := by
    intro significand power
    unfold Literal.magnitude
    split
    · exact failsByRange_scaleReal significand power
    · dsimp only
      split
      · exact failsByRange_scaleReal significand _
      · split
        · exact .ok _
        · exact .outOfRange
  unfold Literal.value
  dsimp only
  split
  · exact .ok _
  · intro cause failed
    cases scaled : literal.magnitude _ _ with
    | ok real =>
      rw [scaled] at failed
      cases failed
    | error other =>
      rw [scaled] at failed
      cases failed
      exact magnitude _ _ _ scaled

/-- A number that denotes nothing is out of the range of reals. -/
theorem Number.numeral_error {number : Number} {cause : Cause}
    (failed : number.numeral = .error cause) : cause = .numberOutOfRange := by
  generalize spelt : number.octets = octets
  have formed := number.formed
  rw [spelt] at formed
  cases formed with
  | parts sign first second third =>
    rw [Number.numeral_of_parts sign first second third spelt] at failed
    exact Literal.failsByRange_value _ cause failed

/-! ## Machine integers -/

/-- A kind of machine integers: the shape of its documents, how it is taken from what a
number denotes, and the range of its values. -/
structure IntegerKind where
  shape : Shape
  wanted : Wanted
  convert : Numeral → Except Cause shape.Value
  toInt : shape.Value → Int
  least : Int
  most : Int
  read_eq : ∀ depth input, shape.read depth input = here (readNumber wanted convert input)
  ofTree_number : ∀ numeral, shape.ofTree (.number numeral) = convert numeral
  convert_eq_ok_iff : ∀ {numeral value},
    convert numeral = .ok value ↔ numeral = .integer (toInt value)
  mismatch : ∀ {numeral cause}, convert numeral = .error cause → cause.category = .mismatch
  range_iff : ∀ {integer}, (∃ value, toInt value = integer) ↔ least ≤ integer ∧ integer ≤ most
  denoted : Int64.minValue.toInt ≤ least ∧ most < UInt64.size

/-- Signed integers of sixty-four bits. -/
@[reducible]
def IntegerKind.int64 : IntegerKind where
  shape := .int64
  wanted := .int64
  convert := Numeral.toInt64
  toInt := Int64.toInt
  least := -2 ^ 63
  most := 2 ^ 63 - 1
  read_eq _ _ := rfl
  ofTree_number _ := rfl
  convert_eq_ok_iff := by
    intro numeral value
    constructor
    · intro converted
      cases numeral with
      | real => cases converted
      | integer integer =>
        unfold Numeral.toInt64 at converted
        dsimp only at converted
        split at converted
        · rename_i bounds
          cases converted
          rw [Int64.toInt_ofInt_of_le bounds.1 (Int.lt_of_le_of_lt bounds.2 (by decide))]
        · cases converted
    · rintro rfl
      exact toInt64_integer value
  mismatch := by
    intro numeral cause failed
    cases numeral with
    | real =>
      cases failed
      rfl
    | integer integer =>
      unfold Numeral.toInt64 at failed
      dsimp only at failed
      split at failed
      · cases failed
      · cases failed
        rfl
  range_iff := by
    intro integer
    constructor
    · rintro ⟨value, rfl⟩
      exact ⟨value.le_toInt, Int.le_sub_one_of_lt value.toInt_lt⟩
    · rintro ⟨least, most⟩
      exact ⟨.ofInt integer, Int64.toInt_ofInt_of_le least (by omega)⟩
  denoted := by decide

/-- Natural numbers of sixty-four bits. -/
@[reducible]
def IntegerKind.nat64 : IntegerKind where
  shape := .nat64
  wanted := .nat64
  convert := Numeral.toUInt64
  toInt value := value.toNat
  least := 0
  most := 2 ^ 64 - 1
  read_eq _ _ := rfl
  ofTree_number _ := rfl
  convert_eq_ok_iff := by
    intro numeral value
    constructor
    · intro converted
      cases numeral with
      | real => cases converted
      | integer integer =>
        unfold Numeral.toUInt64 at converted
        dsimp only at converted
        split at converted
        · rename_i bounds
          have small : integer.toNat < UInt64.size := by omega
          cases converted
          rw [UInt64.toNat_ofNat_of_lt' small, Int.toNat_of_nonneg bounds.1]
        · cases converted
    · rintro rfl
      exact toUInt64_integer value
  mismatch := by
    intro numeral cause failed
    cases numeral with
    | real =>
      cases failed
      rfl
    | integer integer =>
      unfold Numeral.toUInt64 at failed
      dsimp only at failed
      split at failed
      · cases failed
      · cases failed
        rfl
  range_iff := by
    intro integer
    constructor
    · rintro ⟨value, rfl⟩
      have small := value.toNat_lt
      omega
    · rintro ⟨least, most⟩
      have small : integer.toNat < UInt64.size := by
        have size : UInt64.size = 18446744073709551616 := rfl
        omega
      refine ⟨.ofNat integer.toNat, ?_⟩
      rw [UInt64.toNat_ofNat_of_lt' small, Int.toNat_of_nonneg least]
  denoted := by decide

/-- What becomes of a number where an integer of the kind is wanted. -/
def IntegerKind.outcome (kind : IntegerKind) (number : Number) : Except Cause kind.shape.Value :=
  number.numeral >>= kind.convert

/-- A number is taken for the integer that it writes, and for no other. -/
theorem IntegerKind.outcome_eq_ok_iff (kind : IntegerKind) {number : Number}
    {value : kind.shape.Value} :
    kind.outcome number = .ok value ↔ number.Writes (kind.toInt value) := by
  have bounds := kind.range_iff.mp ⟨value, rfl⟩
  have denoted := kind.denoted
  rw [IntegerKind.outcome, bind_eq_ok_iff]
  constructor
  · rintro ⟨numeral, denotes, converted⟩
    rw [kind.convert_eq_ok_iff.mp converted] at denotes
    exact (Number.numeral_eq_integer_iff.mp denotes).1
  · intro writes
    refine ⟨_, Number.numeral_eq_integer_iff.mpr ⟨writes, ?_, ?_⟩, kind.convert_eq_ok_iff.mpr rfl⟩
    · exact Int.le_trans denoted.1 bounds.1
    · exact Int.lt_of_le_of_lt bounds.2 denoted.2

theorem IntegerKind.exists_outcome_iff (kind : IntegerKind) {number : Number} :
    (∃ value, kind.outcome number = .ok value) ↔
      ∃ integer, number.Writes integer ∧ kind.least ≤ integer ∧ integer ≤ kind.most := by
  constructor
  · rintro ⟨value, taken⟩
    exact ⟨_, kind.outcome_eq_ok_iff.mp taken, kind.range_iff.mp ⟨value, rfl⟩⟩
  · rintro ⟨integer, writes, bounds⟩
    rcases kind.range_iff.mpr bounds with ⟨value, rfl⟩
    exact ⟨value, kind.outcome_eq_ok_iff.mpr writes⟩

/-- A number that is refused is of the wrong type, or out of a range. -/
theorem IntegerKind.outcome_error (kind : IntegerKind) {number : Number} {cause : Cause}
    (refused : kind.outcome number = .error cause) :
    cause.category = .mismatch ∨ cause = .numberOutOfRange := by
  unfold IntegerKind.outcome at refused
  cases denoted : number.numeral with
  | ok numeral =>
    rw [denoted] at refused
    exact Or.inl (kind.mismatch refused)
  | error other =>
    rw [denoted] at refused
    cases refused
    exact Or.inr (Number.numeral_error denoted)

end Json
end LendingGateway
