import LendingGateway.Json.Numeral
import LendingGateway.Proofs.Traversal

namespace LendingGateway
namespace Json

open Traversal

/-!
# Where a literal ends

No octet that may follow a value in a document continues a number.  So a literal that is
read to the end of some input is read in the same way when the document goes on after it.
Each part of a literal is either not there or read for as long as its digits go.
-/

/-! ## Where a number ends -/

/-- What may follow a value in a document: nothing, a comma, or a closing mark. -/
def Delimited (rest : Input) : Prop :=
  ∀ octet, rest.head? = some octet → octet = 0x2c ∨ octet = 0x5d ∨ octet = 0x7d

theorem delimited_nil : Delimited [] := by
  intro octet impossible
  cases impossible

theorem delimited_cons {octet : UInt8} (delimiter : octet = 0x2c ∨ octet = 0x5d ∨ octet = 0x7d)
    (rest : Input) : Delimited (octet :: rest) := by
  intro other same
  cases same
  exact delimiter

theorem takeDigits_of_delimited {rest : Input} (delimited : Delimited rest) :
    takeDigits rest = ([], rest) := by
  cases rest with
  | nil => rfl
  | cons octet others =>
    rcases delimited octet rfl with rfl | rfl | rfl <;> rfl

theorem takeDigits_cons {octet : UInt8} (digit : isDigit octet = true) (rest : Input) :
    takeDigits (octet :: rest) =
      ((octet.toNat - 0x30) :: (takeDigits rest).1, (takeDigits rest).2) := by
  unfold takeDigits
  rw [List.takeWhile_cons, if_pos digit, List.dropWhile_cons, if_pos digit, List.map_cons]

theorem takeDigits_append {rest : Input} (delimited : Delimited rest) (input : Input) :
    takeDigits (input ++ rest) = ((takeDigits input).1, (takeDigits input).2 ++ rest) := by
  induction input with
  | nil => exact takeDigits_of_delimited delimited
  | cons octet others inductionHypothesis =>
    by_cases digit : isDigit octet = true
    · rw [List.cons_append, takeDigits_cons digit, takeDigits_cons digit, inductionHypothesis]
    · unfold takeDigits
      rw [List.cons_append, List.takeWhile_cons, if_neg digit, List.dropWhile_cons, if_neg digit,
        List.takeWhile_cons, if_neg digit, List.dropWhile_cons, if_neg digit]
      rfl

theorem takeDigits_suffix (input : Input) : (takeDigits input).2 <:+ input :=
  List.dropWhile_suffix isDigit

/-! ## The parts of a literal -/

theorem lexDigits_of_digit (ended : Cause) {octet : UInt8} (digit : isDigit octet = true)
    (others : Input) : lexDigits ended (octet :: others) = .ok (takeDigits (octet :: others)) :=
  if_pos digit

theorem lexDigits_cases {ended : Cause} {input : Input} {result : List Nat × Input}
    (lexed : lexDigits ended input = .ok result) :
    ∃ octet others, input = octet :: others ∧ isDigit octet = true ∧ result = takeDigits input := by
  unfold lexDigits at lexed
  split at lexed
  · cases lexed
  · rename_i octet others
    split at lexed
    · rename_i digit
      exact ⟨octet, others, rfl, digit, (Except.ok.inj lexed).symm⟩
    · cases lexed

theorem lexDigits_append {ended : Cause} {input after rest : Input} {digits : List Nat}
    (delimited : Delimited rest) (lexed : lexDigits ended input = .ok (digits, after)) :
    lexDigits ended (input ++ rest) = .ok (digits, after ++ rest) := by
  rcases lexDigits_cases lexed with ⟨octet, others, rfl, digit, taken⟩
  rw [List.cons_append, lexDigits_of_digit ended digit, ← List.cons_append,
    takeDigits_append delimited, ← taken]

theorem lexDigits_suffix {ended : Cause} {input after : Input} {digits : List Nat}
    (lexed : lexDigits ended input = .ok (digits, after)) : after <:+ input := by
  rcases lexDigits_cases lexed with ⟨_, _, _, _, taken⟩
  have last : after = (takeDigits input).2 := congrArg Prod.snd taken
  exact last ▸ takeDigits_suffix input

theorem lexWhole_zero (ended : Cause) {others : Input}
    (alone : (others.head?.map isDigit).getD false = false) :
    lexWhole ended (0x30 :: others) = .ok ([0], others) :=
  if_neg (Bool.eq_false_iff.mp alone)

theorem lexWhole_of_digit (ended : Cause) {octet : UInt8} (positive : octet ≠ 0x30)
    (digit : isDigit octet = true) (others : Input) :
    lexWhole ended (octet :: others) = .ok (takeDigits (octet :: others)) :=
  (if_neg positive).trans (if_pos digit)

/-- The digits before a point are a zero alone, or they do not begin with one. -/
theorem lexWhole_cases {ended : Cause} {input : Input} {result : List Nat × Input}
    (lexed : lexWhole ended input = .ok result) :
    (∃ others, input = 0x30 :: others ∧ (others.head?.map isDigit).getD false = false ∧
      result = ([0], others)) ∨
    (∃ octet others, input = octet :: others ∧ octet ≠ 0x30 ∧ isDigit octet = true ∧
      result = takeDigits input) := by
  unfold lexWhole at lexed
  split at lexed
  · cases lexed
  · rename_i octet others
    split at lexed
    · rename_i zero
      subst zero
      split at lexed
      · cases lexed
      · rename_i alone
        exact Or.inl ⟨others, rfl, Bool.eq_false_iff.mpr alone, (Except.ok.inj lexed).symm⟩
    · rename_i positive
      split at lexed
      · rename_i digit
        exact Or.inr ⟨octet, others, rfl, positive, digit, (Except.ok.inj lexed).symm⟩
      · cases lexed

theorem lexWhole_append {ended : Cause} {input after rest : Input} {digits : List Nat}
    (delimited : Delimited rest) (lexed : lexWhole ended input = .ok (digits, after)) :
    lexWhole ended (input ++ rest) = .ok (digits, after ++ rest) := by
  rcases lexWhole_cases lexed with
    ⟨others, rfl, alone, read⟩ | ⟨octet, others, rfl, positive, digit, read⟩
  · cases read
    rw [List.cons_append]
    -- A zero stays alone, because no delimiter is a digit.
    apply lexWhole_zero
    cases after with
    | nil =>
      cases rest with
      | nil => rfl
      | cons octet others => rcases delimited octet rfl with rfl | rfl | rfl <;> rfl
    | cons octet others => exact alone
  · rw [List.cons_append, lexWhole_of_digit ended positive digit, ← List.cons_append,
      takeDigits_append delimited, ← read]

/-- Before any point there are only digits. -/
theorem lexWhole_consumes {ended : Cause} {input after : Input} {digits : List Nat}
    (lexed : lexWhole ended input = .ok (digits, after)) :
    ∃ octet others, input = (octet :: others) ++ after ∧
      ∀ consumed ∈ octet :: others, isDigit consumed = true := by
  rcases lexWhole_cases lexed with
    ⟨others, rfl, alone, read⟩ | ⟨octet, others, rfl, positive, digit, read⟩
  · cases read
    exact ⟨0x30, [], rfl, fun consumed member => List.mem_singleton.mp member ▸ rfl⟩
  · have last : after = (takeDigits (octet :: others)).2 := congrArg Prod.snd read
    refine ⟨octet, others.takeWhile isDigit, ?_, ?_⟩
    · rw [last, takeDigits_cons digit]
      exact congrArg (octet :: ·) List.takeWhile_append_dropWhile.symm
    · intro consumed member
      rcases List.mem_cons.mp member with same | later
      · exact same ▸ digit
      · exact List.all_eq_true.mp List.all_takeWhile consumed later

theorem lexFraction_point (ended : Cause) (input : Input) :
    lexFraction ended (0x2e :: input) = (do
      let (digits, rest) ← lexDigits ended input
      .ok (some digits, rest)) := rfl

theorem lexFraction_none (ended : Cause) {input : Input} (other : input.head? ≠ some 0x2e) :
    lexFraction ended input = .ok (none, input) := by
  unfold lexFraction
  split
  · exact absurd rfl other
  · rfl

theorem lexFraction_cases {ended : Cause} {input after : Input} {fraction : Option (List Nat)}
    (lexed : lexFraction ended input = .ok (fraction, after)) :
    (∃ others digits, input = 0x2e :: others ∧ lexDigits ended others = .ok (digits, after) ∧
      fraction = some digits) ∨
    (input.head? ≠ some 0x2e ∧ fraction = none ∧ after = input) := by
  by_cases point : input.head? = some 0x2e
  · cases input with
    | nil => cases point
    | cons octet others =>
      cases point
      rw [lexFraction_point] at lexed
      rcases bind_eq_ok_iff.mp lexed with ⟨⟨digits, last⟩, read, done⟩
      cases done
      exact Or.inl ⟨others, digits, rfl, read, rfl⟩
  · rw [lexFraction_none ended point] at lexed
    cases lexed
    exact Or.inr ⟨point, rfl, rfl⟩

theorem lexFraction_append {ended : Cause} {input after rest : Input}
    {fraction : Option (List Nat)} (delimited : Delimited rest)
    (lexed : lexFraction ended input = .ok (fraction, after)) :
    lexFraction ended (input ++ rest) = .ok (fraction, after ++ rest) := by
  rcases lexFraction_cases lexed with ⟨others, digits, rfl, read, rfl⟩ | ⟨other, rfl, rfl⟩
  · rw [List.cons_append, lexFraction_point, lexDigits_append delimited read]
    rfl
  · apply lexFraction_none
    cases after with
    | nil =>
      intro point
      rcases delimited _ point with impossible | impossible | impossible <;> cases impossible
    | cons octet others => exact other

theorem lexFraction_suffix {ended : Cause} {input after : Input} {fraction : Option (List Nat)}
    (lexed : lexFraction ended input = .ok (fraction, after)) : after <:+ input := by
  rcases lexFraction_cases lexed with ⟨others, digits, rfl, read, _⟩ | ⟨_, _, rfl⟩
  · exact (lexDigits_suffix read).trans (List.suffix_cons 0x2e others)
  · exact List.suffix_rfl

/-- The sign of an exponent and what follows it. -/
def signOf : Input → Bool × Input
  | 0x2b :: rest => (false, rest)
  | 0x2d :: rest => (true, rest)
  | rest => (false, rest)

theorem signOf_of_ne {octet : UInt8} (plus : octet ≠ 0x2b) (minus : octet ≠ 0x2d)
    (others : Input) : signOf (octet :: others) = (false, octet :: others) := by
  unfold signOf
  split
  · rename_i same
    exact absurd (List.cons.inj same).1 plus
  · rename_i same
    exact absurd (List.cons.inj same).1 minus
  · rfl

theorem lexExponent_letter (ended : Cause) {octet : UInt8} (letter : octet = 0x65 ∨ octet = 0x45)
    (input : Input) :
    lexExponent ended (octet :: input) = (do
      let (digits, rest) ← lexDigits ended (signOf input).2
      .ok (some ((signOf input).1, digits), rest)) := by
  unfold lexExponent
  dsimp only
  rw [if_pos letter]
  cases input with
  | nil => rfl
  | cons sign others =>
    by_cases plus : sign = 0x2b
    · subst plus
      rfl
    by_cases minus : sign = 0x2d
    · subst minus
      rfl
    rw [signOf_of_ne plus minus]
    split
    · rename_i same
      exact absurd (List.cons.inj same).1 plus
    · rename_i same
      exact absurd (List.cons.inj same).1 minus
    · rfl

theorem lexExponent_none (ended : Cause) {input : Input}
    (other : ∀ octet, input.head? = some octet → ¬ (octet = 0x65 ∨ octet = 0x45)) :
    lexExponent ended input = .ok (none, input) := by
  cases input with
  | nil => rfl
  | cons octet others => exact if_neg (other octet rfl)

theorem lexExponent_cases {ended : Cause} {input after : Input}
    {exponent : Option (Bool × List Nat)}
    (lexed : lexExponent ended input = .ok (exponent, after)) :
    (∃ octet others digits, input = octet :: others ∧ (octet = 0x65 ∨ octet = 0x45) ∧
      lexDigits ended (signOf others).2 = .ok (digits, after) ∧
        exponent = some ((signOf others).1, digits)) ∨
    ((∀ octet, input.head? = some octet → ¬ (octet = 0x65 ∨ octet = 0x45)) ∧
      exponent = none ∧ after = input) := by
  cases input with
  | nil =>
    cases lexed
    exact Or.inr ⟨fun _ impossible => (nomatch impossible), rfl, rfl⟩
  | cons octet others =>
    by_cases letter : octet = 0x65 ∨ octet = 0x45
    · rw [lexExponent_letter ended letter] at lexed
      rcases bind_eq_ok_iff.mp lexed with ⟨⟨digits, last⟩, read, done⟩
      cases done
      exact Or.inl ⟨octet, others, digits, rfl, letter, read, rfl⟩
    · have absent : ∀ other, (octet :: others).head? = some other →
          ¬ (other = 0x65 ∨ other = 0x45) := by
        intro other same
        cases same
        exact letter
      rw [lexExponent_none ended absent] at lexed
      cases lexed
      exact Or.inr ⟨absent, rfl, rfl⟩

theorem signOf_append {octet : UInt8} (others rest : Input) :
    signOf ((octet :: others) ++ rest) =
      ((signOf (octet :: others)).1, (signOf (octet :: others)).2 ++ rest) := by
  by_cases plus : octet = 0x2b
  · subst plus
    rfl
  by_cases minus : octet = 0x2d
  · subst minus
    rfl
  rw [List.cons_append, signOf_of_ne plus minus, signOf_of_ne plus minus]
  rfl

theorem signOf_suffix (input : Input) : (signOf input).2 <:+ input := by
  unfold signOf
  split
  · exact List.suffix_cons _ _
  · exact List.suffix_cons _ _
  · exact List.suffix_rfl

theorem lexExponent_append {ended : Cause} {input after rest : Input}
    {exponent : Option (Bool × List Nat)} (delimited : Delimited rest)
    (lexed : lexExponent ended input = .ok (exponent, after)) :
    lexExponent ended (input ++ rest) = .ok (exponent, after ++ rest) := by
  rcases lexExponent_cases lexed with
    ⟨octet, others, digits, rfl, letter, read, rfl⟩ | ⟨other, rfl, rfl⟩
  · rw [List.cons_append, lexExponent_letter ended letter]
    cases others with
    | nil => cases read
    | cons first others =>
      rw [signOf_append, lexDigits_append delimited read]
      rfl
  · apply lexExponent_none
    cases after with
    | nil =>
      intro octet first letter
      rcases delimited octet first with rfl | rfl | rfl <;> rcases letter with same | same <;>
        cases same
    | cons octet others => exact other

theorem lexExponent_suffix {ended : Cause} {input after : Input}
    {exponent : Option (Bool × List Nat)}
    (lexed : lexExponent ended input = .ok (exponent, after)) : after <:+ input := by
  rcases lexExponent_cases lexed with ⟨octet, others, digits, rfl, _, read, _⟩ | ⟨_, _, rfl⟩
  · have unsigned := (lexDigits_suffix read).trans (signOf_suffix others)
    exact unsigned.trans (List.suffix_cons octet others)
  · exact List.suffix_rfl

/-! ## Literals -/

/-- Whether a minus sign stands first, and what follows it. -/
def minusOf : Input → Bool × Input
  | 0x2d :: rest => (true, rest)
  | input => (false, input)

theorem minusOf_of_ne {octet : UInt8} (different : octet ≠ 0x2d) (others : Input) :
    minusOf (octet :: others) = (false, octet :: others) := by
  unfold minusOf
  split
  · rename_i same
    exact absurd (List.cons.inj same).1 different
  · rfl

theorem lexLiteral_eq (ended : Cause) (input : Input) :
    lexLiteral ended input = (do
      let (whole, rest) ← lexWhole ended (minusOf input).2
      let (fraction, rest) ← lexFraction ended rest
      let (exponent, rest) ← lexExponent ended rest
      .ok (⟨(minusOf input).1, whole, fraction, exponent⟩, rest)) := by
  cases input with
  | nil => rfl
  | cons octet others =>
    by_cases minus : octet = 0x2d
    · subst minus
      rfl
    · rw [minusOf_of_ne minus]
      unfold lexLiteral
      split
      rename_i negative rest read
      split at read
      · rename_i same
        exact absurd (List.cons.inj same).1 minus
      · cases read
        rfl

theorem lexLiteral_eq_ok_iff {ended : Cause} {input after : Input} {literal : Literal} :
    lexLiteral ended input = .ok (literal, after) ↔
      ∃ whole fraction beyondWhole beyondFraction,
        lexWhole ended (minusOf input).2 = .ok (whole, beyondWhole) ∧
        lexFraction ended beyondWhole = .ok (fraction, beyondFraction) ∧
        lexExponent ended beyondFraction = .ok (literal.exponent, after) ∧
        literal = ⟨(minusOf input).1, whole, fraction, literal.exponent⟩ := by
  rw [lexLiteral_eq]
  constructor
  · intro lexed
    rcases bind_eq_ok_iff.mp lexed with ⟨⟨whole, beyondWhole⟩, first, lexed⟩
    rcases bind_eq_ok_iff.mp lexed with ⟨⟨fraction, beyondFraction⟩, second, lexed⟩
    rcases bind_eq_ok_iff.mp lexed with ⟨⟨exponent, last⟩, third, lexed⟩
    cases lexed
    exact ⟨whole, fraction, beyondWhole, beyondFraction, first, second, third, rfl⟩
  · rintro ⟨whole, fraction, beyondWhole, beyondFraction, first, second, third, same⟩
    rw [first]
    apply bind_eq_ok_iff.mpr
    refine ⟨_, rfl, bind_eq_ok_iff.mpr ⟨_, second, bind_eq_ok_iff.mpr ⟨_, third, ?_⟩⟩⟩
    rw [same]

theorem minusOf_append {octet : UInt8} (others rest : Input) :
    minusOf ((octet :: others) ++ rest) =
      ((minusOf (octet :: others)).1, (minusOf (octet :: others)).2 ++ rest) := by
  by_cases minus : octet = 0x2d
  · subst minus
    rfl
  · rw [List.cons_append, minusOf_of_ne minus, minusOf_of_ne minus]
    rfl

theorem lexLiteral_append {ended : Cause} {input after rest : Input} {literal : Literal}
    (delimited : Delimited rest) (lexed : lexLiteral ended input = .ok (literal, after)) :
    lexLiteral ended (input ++ rest) = .ok (literal, after ++ rest) := by
  rcases lexLiteral_eq_ok_iff.mp lexed with
    ⟨whole, fraction, beyondWhole, beyondFraction, first, second, third, same⟩
  have signed : minusOf (input ++ rest) = ((minusOf input).1, (minusOf input).2 ++ rest) := by
    cases input with
    | nil => cases first
    | cons octet others => exact minusOf_append others rest
  apply lexLiteral_eq_ok_iff.mpr
  rw [signed]
  exact ⟨whole, fraction, beyondWhole ++ rest, beyondFraction ++ rest,
    lexWhole_append delimited first, lexFraction_append delimited second,
    lexExponent_append delimited third, same⟩

theorem minusOf_cases (input : Input) :
    (∃ rest, input = 0x2d :: rest ∧ minusOf input = (true, rest)) ∨
      minusOf input = (false, input) := by
  unfold minusOf
  split
  · exact Or.inl ⟨_, rfl, rfl⟩
  · exact Or.inr rfl

theorem lexLiteral_suffix {ended : Cause} {input after : Input} {literal : Literal}
    (lexed : lexLiteral ended input = .ok (literal, after)) : after <:+ input := by
  rcases lexLiteral_eq_ok_iff.mp lexed with
    ⟨whole, fraction, beyondWhole, beyondFraction, first, second, third, _⟩
  rcases lexWhole_consumes first with ⟨octet, others, split, _⟩
  have unsigned : beyondWhole <:+ (minusOf input).2 := ⟨octet :: others, split.symm⟩
  have signed : (minusOf input).2 <:+ input := by
    rcases minusOf_cases input with ⟨rest, rfl, read⟩ | read
    · exact read ▸ List.suffix_cons 0x2d rest
    · exact read ▸ List.suffix_rfl
  exact (lexExponent_suffix third).trans ((lexFraction_suffix second).trans (unsigned.trans signed))

/-- A literal begins with a minus sign or a digit. -/
theorem lexLiteral_head {ended : Cause} {input after : Input} {literal : Literal}
    (lexed : lexLiteral ended input = .ok (literal, after)) :
    ∃ octet others, input = octet :: others ∧ (octet = 0x2d ∨ isDigit octet = true) := by
  rcases lexLiteral_eq_ok_iff.mp lexed with
    ⟨whole, fraction, beyondWhole, beyondFraction, first, _⟩
  rcases lexWhole_consumes first with ⟨octet, others, split, digits⟩
  rcases minusOf_cases input with ⟨rest, rfl, _⟩ | read
  · exact ⟨0x2d, rest, rfl, Or.inl rfl⟩
  · rw [read] at split
    exact ⟨octet, others ++ beyondWhole, split, Or.inr (digits octet List.mem_cons_self)⟩

/-- A literal without fraction and exponent has nothing but digits and perhaps a minus
sign. -/
theorem lexLiteral_plain {ended : Cause} {input after : Input} {literal : Literal}
    (lexed : lexLiteral ended input = .ok (literal, after))
    (noFraction : literal.fraction = none) (noExponent : literal.exponent = none) :
    ∃ front, input = front ++ after ∧ ∀ octet ∈ front, octet = 0x2d ∨ isDigit octet = true := by
  rcases lexLiteral_eq_ok_iff.mp lexed with
    ⟨whole, fraction, beyondWhole, beyondFraction, first, second, third, same⟩
  rw [same] at noFraction
  obtain rfl : fraction = none := noFraction
  rw [noExponent] at third
  obtain rfl : beyondFraction = beyondWhole := by
    rcases lexFraction_cases second with ⟨_, _, _, _, impossible⟩ | ⟨_, _, unchanged⟩
    · cases impossible
    · exact unchanged
  obtain rfl : after = beyondFraction := by
    rcases lexExponent_cases third with ⟨_, _, _, _, _, _, impossible⟩ | ⟨_, _, unchanged⟩
    · cases impossible
    · exact unchanged
  rcases lexWhole_consumes first with ⟨octet, others, split, digits⟩
  rcases minusOf_cases input with ⟨rest, rfl, read⟩ | read
  · rw [read] at split
    refine ⟨0x2d :: octet :: others, congrArg (0x2d :: ·) split, ?_⟩
    intro consumed member
    rcases List.mem_cons.mp member with minus | digit
    · exact Or.inl minus
    · exact Or.inr (digits consumed digit)
  · rw [read] at split
    exact ⟨octet :: others, split, fun consumed member => Or.inr (digits consumed member)⟩

theorem readNumeral_append {input after rest : Input} {number : Numeral}
    (delimited : Delimited rest) (read : readNumeral input = .ok (number, after)) :
    readNumeral (input ++ rest) = .ok (number, after ++ rest) := by
  rcases bind_eq_ok_iff.mp read with ⟨⟨literal, last⟩, lexed, valued⟩
  rcases bind_eq_ok_iff.mp valued with ⟨value, meant, done⟩
  cases done
  apply bind_eq_ok_iff.mpr
  exact ⟨_, lexLiteral_append delimited lexed, bind_eq_ok_iff.mpr ⟨_, meant, rfl⟩⟩

end Json
end LendingGateway
