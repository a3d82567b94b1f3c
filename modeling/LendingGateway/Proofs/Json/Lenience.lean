import LendingGateway.Proofs.Json.Reading

namespace LendingGateway
namespace Json

open Traversal

/-!
# Skipping text and numbers

Text and numbers are skipped by the automata that read them, but their values are not asked
for: the two halves of a character need not belong together, and a number may have any size.
What is read can therefore be skipped, to the same end.
-/

/-! ## Text -/

/-- Where the lenient automaton stands when the strict one stands in a state: it knows no
pairs, so between the two halves of one it is between two characters. -/
def TextState.lenient : TextState → TextState
  | .plain => .plain
  | .escape => .escape
  | .unit digits => .unit digits
  | .pair _ => .plain
  | .pairEscape _ => .escape
  | .pairUnit _ digits => .unit digits

/-- Two moves both close a text, or both go on, the second to where the lenient automaton
stands when the strict one stands where the first one leads. -/
def TextMove.Matches : TextMove → TextMove → Prop
  | .close, .close => True
  | .produce _ next, .produce _ other => other = next.lenient
  | _, _ => False

/-- The lenient automaton takes any four digits for one character. -/
theorem closeUnit_lenient {digits : List UInt8} {code : Nat}
    (known : hexNumber? digits = some code) :
    closeUnit false digits = .ok (.produce [] .plain) := by
  rw [closeUnit, known]
  rfl

theorem closeUnit_matches {digits : List UInt8} {move : TextMove}
    (closed : closeUnit true digits = .ok move) :
    closeUnit false digits = .ok (.produce [] .plain) ∧ move.Matches (.produce [] .plain) := by
  cases known : hexNumber? digits with
  | none =>
    rw [closeUnit, known] at closed
    cases closed
  | some code =>
    refine ⟨closeUnit_lenient known, ?_⟩
    rw [closeUnit, known] at closed
    dsimp only at closed
    rw [if_neg (by decide)] at closed
    split at closed
    · cases closed
    · split at closed
      · cases closed
        rfl
      · cases closed
        rfl

theorem closePair_matches {high : Nat} {digits : List UInt8} {move : TextMove}
    (closed : closePair high digits = .ok move) :
    closeUnit false digits = .ok (.produce [] .plain) ∧ move.Matches (.produce [] .plain) := by
  cases known : hexNumber? digits with
  | none =>
    rw [closePair, known] at closed
    cases closed
  | some low =>
    refine ⟨closeUnit_lenient known, ?_⟩
    rw [closePair, known] at closed
    dsimp only at closed
    split at closed
    · cases closed
      rfl
    · cases closed

/-- Where no pair is begun, both automata do the same. -/
theorem textStep_matches_self {state : TextState} (unpaired : state = .plain ∨ state = .escape)
    {octet : UInt8} {move : TextMove} (stepped : textStep true state octet = .ok move) :
    textStep false state octet = .ok move ∧ move.Matches move := by
  rcases unpaired with rfl | rfl
  all_goals
    refine ⟨stepped, ?_⟩
    unfold textStep at stepped
    dsimp only at stepped
    repeat' split at stepped
    all_goals cases stepped
    all_goals trivial

/-- The lenient automaton goes along with every step of the strict one. -/
theorem textStep_lenient {state : TextState} {octet : UInt8} {move : TextMove}
    (stepped : textStep true state octet = .ok move) :
    ∃ other, textStep false state.lenient octet = .ok other ∧ move.Matches other := by
  cases state with
  | plain => exact ⟨move, textStep_matches_self (Or.inl rfl) stepped⟩
  | escape => exact ⟨move, textStep_matches_self (Or.inr rfl) stepped⟩
  | unit digits =>
    rw [textStep] at stepped
    by_cases last : digits.length = 3
    · rw [if_pos last] at stepped
      rcases closeUnit_matches stepped with ⟨closed, matched⟩
      exact ⟨_, (if_pos last).trans closed, matched⟩
    · rw [if_neg last] at stepped
      cases stepped
      exact ⟨.produce [] (.unit (octet :: digits)), if_neg last, rfl⟩
  | pair high =>
    rw [textStep] at stepped
    split at stepped
    · rename_i backslash
      cases stepped
      subst backslash
      exact ⟨.produce [] .escape, rfl, rfl⟩
    · cases stepped
  | pairEscape high =>
    rw [textStep] at stepped
    split at stepped
    · rename_i letter
      cases stepped
      subst letter
      exact ⟨.produce [] (.unit []), rfl, rfl⟩
    · cases stepped
  | pairUnit high digits =>
    rw [textStep] at stepped
    by_cases last : digits.length = 3
    · rw [if_pos last] at stepped
      rcases closePair_matches stepped with ⟨closed, matched⟩
      exact ⟨_, (if_pos last).trans closed, matched⟩
    · rw [if_neg last] at stepped
      cases stepped
      exact ⟨.produce [] (.unit (octet :: digits)), if_neg last, rfl⟩

theorem scanText_lenient {input rest : Input} :
    ∀ {state : TextState} {done octets : List UInt8},
      scanText true state done input = .ok (octets, rest) →
        ∀ other, ∃ found, scanText false state.lenient other input = .ok (found, rest) := by
  induction input with
  | nil =>
    intro state done octets scanned
    cases scanned
  | cons octet input inductionHypothesis =>
    intro state done octets scanned other
    rw [scanText] at scanned
    cases stepped : textStep true state octet with
    | error cause =>
      rw [stepped] at scanned
      cases scanned
    | ok move =>
      rw [stepped] at scanned
      rcases textStep_lenient stepped with ⟨along, lenient, matched⟩
      rw [scanText, lenient]
      cases move with
      | close =>
        cases along with
        | close =>
          cases scanned
          exact ⟨_, rfl⟩
        | produce => exact absurd matched id
      | produce produced next =>
        cases along with
        | close => exact absurd matched id
        | produce others state =>
          obtain rfl : state = next.lenient := matched
          exact inductionHypothesis scanned _

theorem skipText_of_readText {input rest : Input} {text : String}
    (read : readText input = .ok (text, rest)) : skipText input = .ok rest := by
  rcases readText_eq_ok_iff.mp read with ⟨octets, scanned, _⟩
  rcases scanText_lenient scanned [] with ⟨found, lenient⟩
  exact bind_eq_ok_iff.mpr ⟨_, lenient, rfl⟩

/-! ## Numbers -/

/-- A literal is the same whatever is said when the input ends too early. -/
theorem lexDigits_ended {ended other : Cause} {input : Input} {result : List Nat × Input}
    (lexed : lexDigits ended input = .ok result) : lexDigits other input = .ok result := by
  rcases lexDigits_cases lexed with ⟨octet, others, rfl, digit, rfl⟩
  exact lexDigits_of_digit other digit others

theorem lexWhole_ended {ended other : Cause} {input : Input} {result : List Nat × Input}
    (lexed : lexWhole ended input = .ok result) : lexWhole other input = .ok result := by
  rcases lexWhole_cases lexed with
    ⟨others, rfl, alone, rfl⟩ | ⟨octet, others, rfl, positive, digit, rfl⟩
  · exact lexWhole_zero other alone
  · exact lexWhole_of_digit other positive digit others

theorem lexFraction_ended {ended other : Cause} {input after : Input}
    {fraction : Option (List Nat)} (lexed : lexFraction ended input = .ok (fraction, after)) :
    lexFraction other input = .ok (fraction, after) := by
  rcases lexFraction_cases lexed with ⟨others, digits, rfl, read, rfl⟩ | ⟨point, rfl, rfl⟩
  · rw [lexFraction_point, lexDigits_ended read]
    rfl
  · exact lexFraction_none other point

theorem lexExponent_ended {ended other : Cause} {input after : Input}
    {exponent : Option (Bool × List Nat)}
    (lexed : lexExponent ended input = .ok (exponent, after)) :
    lexExponent other input = .ok (exponent, after) := by
  rcases lexExponent_cases lexed with
    ⟨octet, others, digits, rfl, letter, read, rfl⟩ | ⟨letterless, rfl, rfl⟩
  · rw [lexExponent_letter other letter, lexDigits_ended read]
    rfl
  · exact lexExponent_none other letterless

theorem skipNumeral_of_readNumeral {input rest : Input} {number : Numeral}
    (read : readNumeral input = .ok (number, rest)) : skipNumeral input = .ok rest := by
  rcases bind_eq_ok_iff.mp read with ⟨⟨literal, last⟩, lexed, valued⟩
  rcases bind_eq_ok_iff.mp valued with ⟨value, _, done⟩
  cases done
  rcases lexLiteral_eq_ok_iff.mp lexed with
    ⟨whole, fraction, beyondWhole, beyondFraction, first, second, third, same⟩
  have lenient : lexLiteral .badNumber input = .ok (literal, rest) :=
    lexLiteral_eq_ok_iff.mpr ⟨whole, fraction, beyondWhole, beyondFraction, lexWhole_ended first,
      lexFraction_ended second, lexExponent_ended third, same⟩
  exact bind_eq_ok_iff.mpr ⟨_, lenient, rfl⟩

end Json
end LendingGateway
