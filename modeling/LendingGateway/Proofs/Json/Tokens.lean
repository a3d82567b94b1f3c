import Mathlib.Data.List.TakeWhile
import LendingGateway.Proofs.Json.Lenience

namespace LendingGateway
namespace Json

open Traversal

/-!
# How tokens are written

Gaps, quoted text and numbers have a form that no reader is needed to tell: what may stand in
them is said octet by octet, as the format defines it.  Skipping passes over what has the
form, whatever comes after it, and it passes over nothing else.
-/

/-! ## Gaps -/

/-- What may stand between two tokens. -/
structure Gap where
  octets : Input
  blank : octets.all isGap = true

/-- Nothing at all. -/
def Gap.none : Gap :=
  ⟨[], rfl⟩

theorem Gap.skip (gap : Gap) (rest : Input) : skipGap (gap.octets ++ rest) = skipGap rest :=
  List.dropWhile_append_of_pos (List.all_eq_true.mp gap.blank)

theorem Gap.skip_all (gap : Gap) : skipGap gap.octets = [] :=
  List.dropWhile_eq_nil_iff.mpr (List.all_eq_true.mp gap.blank)

/-- Every input is a gap and what is left when the gap is skipped. -/
theorem exists_gap (input : Input) : ∃ gap : Gap, input = gap.octets ++ skipGap input :=
  ⟨⟨input.takeWhile isGap, List.all_takeWhile⟩, List.takeWhile_append_dropWhile.symm⟩

theorem exists_gap_of_blank {input : Input} (blank : skipGap input = []) :
    ∃ gap : Gap, input = gap.octets :=
  ⟨⟨input, List.all_eq_true.mpr (List.dropWhile_eq_nil_iff.mp blank)⟩, rfl⟩

/-! ## Quoted text -/

/-- How one character of quoted text is written: as it is, by a letter, or by its code. -/
inductive IsGlyph : Input → Prop where
  | plain {octet : UInt8} (visible : 0x20 ≤ octet) (quote : octet ≠ 0x22)
    (backslash : octet ≠ 0x5c) : IsGlyph [octet]
  | escape {letter : UInt8} (known : (simpleEscape? letter).isSome = true) :
    IsGlyph [0x5c, letter]
  | code {first second third last : UInt8}
    (digits : ∀ digit ∈ [first, second, third, last], (hexDigit? digit).isSome = true) :
    IsGlyph [0x5c, 0x75, first, second, third, last]

/-- Quoted text behind its opening quote: characters and the closing quote. -/
inductive IsQuotation : Input → Prop where
  | close : IsQuotation [0x22]
  | glyph {front rest : Input} (first : IsGlyph front) (later : IsQuotation rest) :
    IsQuotation (front ++ rest)

/-- Quoted text behind its opening quote. -/
structure Quotation where
  octets : Input
  formed : IsQuotation octets

theorem exists_hexNumber {digits : List UInt8}
    (each : ∀ digit ∈ digits, (hexDigit? digit).isSome = true) :
    ∃ number, hexNumber? digits = some number := by
  induction digits with
  | nil => exact ⟨0, rfl⟩
  | cons digit digits inductionHypothesis =>
    rw [List.forall_mem_cons] at each
    rcases Option.isSome_iff_exists.mp each.1 with ⟨last, known⟩
    rcases inductionHypothesis each.2 with ⟨number, before⟩
    rw [hexNumber?, known, before]
    exact ⟨_, rfl⟩

theorem hexDigit_of_hexNumber {digits : List UInt8} :
    ∀ {number : Nat}, hexNumber? digits = some number →
      ∀ digit ∈ digits, (hexDigit? digit).isSome = true := by
  induction digits with
  | nil => exact fun _ _ member => absurd member List.not_mem_nil
  | cons digit digits inductionHypothesis =>
    intro number known
    rcases Option.bind_eq_some_iff.mp known with ⟨last, own, known⟩
    rcases Option.bind_eq_some_iff.mp known with ⟨before, others, _⟩
    exact List.forall_mem_cons.mpr
      ⟨Option.isSome_iff_exists.mpr ⟨last, own⟩, inductionHypothesis others⟩

/-- The lenient automaton passes over a character. -/
theorem scanText_glyph {front : Input} (glyph : IsGlyph front) (done : List UInt8)
    (rest : Input) : ∃ produced, scanText false .plain done (front ++ rest) =
      scanText false .plain produced rest := by
  cases glyph with
  | @plain octet visible quote backslash =>
    have stepped : textStep false .plain octet = .ok (.produce [octet] .plain) := by
      rw [textStep, if_neg quote, if_neg backslash, if_neg (UInt8.not_lt.mpr visible)]
    exact ⟨_, scanText_produce stepped done rest⟩
  | @escape letter known =>
    rcases Option.isSome_iff_exists.mp known with ⟨meant, found⟩
    exact ⟨_, scanText_simpleEscape found done rest⟩
  | @code first second third last digits =>
    have reversed : ∀ digit ∈ [last, third, second, first], (hexDigit? digit).isSome = true :=
      fun digit member => digits digit (List.mem_reverse.mp member)
    rcases exists_hexNumber reversed with ⟨number, known⟩
    have closed : textStep false (.unit [third, second, first]) last =
        .ok (.produce [] .plain) := closeUnit_lenient known
    exact ⟨_, scanText_produce closed done rest⟩

theorem scanText_quotation {quoted : Input} (quotation : IsQuotation quoted) (rest : Input) :
    ∀ done, ∃ octets, scanText false .plain done (quoted ++ rest) = .ok (octets, rest) := by
  induction quotation with
  | close => exact fun done => ⟨done.reverse, rfl⟩
  | glyph first _ inductionHypothesis =>
    intro done
    rw [List.append_assoc]
    rcases scanText_glyph first done (_ ++ rest) with ⟨produced, same⟩
    rw [same]
    exact inductionHypothesis produced

theorem skipText_quotation (quotation : Quotation) (rest : Input) :
    skipText (quotation.octets ++ rest) = .ok rest := by
  rcases scanText_quotation quotation.formed rest [] with ⟨octets, scanned⟩
  exact bind_eq_ok_iff.mpr ⟨_, scanned, rfl⟩

/-- What has been read of a character. -/
def TextState.begun : TextState → Input
  | .plain | .pair _ => []
  | .escape | .pairEscape _ => [0x5c]
  | .unit digits | .pairUnit _ digits => 0x5c :: 0x75 :: digits.reverse

/-- The states that the lenient automaton comes to. -/
def TextState.Single : TextState → Prop
  | .plain | .escape => True
  | .unit digits => digits.length ≤ 3
  | .pair _ | .pairEscape _ | .pairUnit _ _ => False

/-- A step of the lenient automaton closes the text, or completes a character, or goes on
with one. -/
theorem textStep_single {state : TextState} {octet : UInt8} {move : TextMove}
    (single : state.Single) (stepped : textStep false state octet = .ok move) :
    (state.begun ++ [octet] = [0x22] ∧ move = .close) ∨
    ∃ octets next, move = .produce octets next ∧ next.Single ∧
      ((IsGlyph (state.begun ++ [octet]) ∧ next.begun = []) ∨
        next.begun = state.begun ++ [octet]) := by
  cases state with
  | plain =>
    rw [textStep] at stepped
    split at stepped
    · rename_i quote
      cases stepped
      exact Or.inl ⟨congrArg (fun octet => [octet]) quote, rfl⟩
    split at stepped
    · rename_i backslash
      cases stepped
      exact Or.inr ⟨_, .escape, rfl, trivial,
        Or.inr (congrArg (fun octet => [octet]) backslash.symm)⟩
    split at stepped
    · cases stepped
    · rename_i quote backslash control
      cases stepped
      exact Or.inr ⟨_, .plain, rfl, trivial,
        Or.inl ⟨.plain (UInt8.not_lt.mp control) quote backslash, rfl⟩⟩
  | escape =>
    rw [textStep] at stepped
    split at stepped
    · rename_i letter
      cases stepped
      subst letter
      exact Or.inr ⟨_, .unit [], rfl, Nat.zero_le 3, Or.inr rfl⟩
    · cases meant : simpleEscape? octet with
      | none =>
        rw [meant] at stepped
        cases stepped
      | some produced =>
        rw [meant] at stepped
        cases stepped
        exact Or.inr ⟨_, .plain, rfl, trivial,
          Or.inl ⟨.escape (Option.isSome_iff_exists.mpr ⟨produced, meant⟩), rfl⟩⟩
  | unit digits =>
    rw [textStep] at stepped
    split at stepped
    · rename_i three
      cases known : hexNumber? (octet :: digits) with
      | none =>
        rw [closeUnit, known] at stepped
        cases stepped
      | some number =>
        rw [closeUnit_lenient known] at stepped
        cases stepped
        rcases List.length_eq_three.mp three with ⟨third, second, first, rfl⟩
        refine Or.inr ⟨_, .plain, rfl, trivial, Or.inl ⟨.code ?_, rfl⟩⟩
        exact fun digit member =>
          hexDigit_of_hexNumber known digit (List.mem_reverse.mp member)
    · rename_i fewer
      cases stepped
      refine Or.inr ⟨_, .unit (octet :: digits), rfl, ?_, Or.inr ?_⟩
      · exact Nat.lt_of_le_of_ne single fewer
      · rw [TextState.begun, TextState.begun, List.reverse_cons]
        rfl
  | pair | pairEscape | pairUnit => exact absurd single id

/-- What the lenient automaton passes over is quoted text, together with what it has read of
a character before. -/
theorem quotation_of_scanText {after : Input} {octets : List UInt8} {input : Input} :
    ∀ {state : TextState} {done : List UInt8}, state.Single →
      scanText false state done input = .ok (octets, after) →
        ∃ text, input = text ++ after ∧ IsQuotation (state.begun ++ text) := by
  induction input with
  | nil =>
    intro state done _ impossible
    cases impossible
  | cons octet input inductionHypothesis =>
    intro state done single scanned
    rw [scanText] at scanned
    cases stepped : textStep false state octet with
    | error cause =>
      rw [stepped] at scanned
      cases scanned
    | ok move =>
      rw [stepped] at scanned
      rcases textStep_single single stepped with
        ⟨closes, rfl⟩ | ⟨produced, next, rfl, along, goes⟩
      · cases scanned
        refine ⟨[octet], rfl, ?_⟩
        rw [closes]
        exact .close
      · rcases inductionHypothesis along scanned with ⟨text, rfl, quotation⟩
        refine ⟨octet :: text, rfl, ?_⟩
        rw [List.append_cons]
        rcases goes with ⟨glyph, complete⟩ | same
        · rw [complete] at quotation
          exact .glyph glyph quotation
        · rw [← same]
          exact quotation

theorem exists_quotation_of_skipText {input after : Input} (skipped : skipText input = .ok after) :
    ∃ quotation : Quotation, input = quotation.octets ++ after := by
  rcases bind_eq_ok_iff.mp skipped with ⟨⟨octets, last⟩, scanned, done⟩
  cases done
  have plain : TextState.plain.Single := trivial
  rcases quotation_of_scanText plain scanned with ⟨text, split, quotation⟩
  exact ⟨⟨text, quotation⟩, split⟩

/-! ## Numbers -/

/-- Digits, of which there is at least one. -/
def IsDigits (octets : Input) : Prop :=
  octets ≠ [] ∧ ∀ octet ∈ octets, isDigit octet = true

/-- The digits before any point: a zero alone, or digits that do not begin with one. -/
inductive IsWhole : Input → Prop where
  | zero : IsWhole [0x30]
  | digits {first : UInt8} {others : Input} (positive : first ≠ 0x30)
    (each : ∀ octet ∈ first :: others, isDigit octet = true) : IsWhole (first :: others)

inductive IsFraction : Input → Prop where
  | none : IsFraction []
  | point {digits : Input} (some : IsDigits digits) : IsFraction (0x2e :: digits)

inductive IsExponent : Input → Prop where
  | none : IsExponent []
  | letter {mark : UInt8} {sign digits : Input} (marks : mark = 0x65 ∨ mark = 0x45)
    (signs : sign = [] ∨ sign = [0x2b] ∨ sign = [0x2d]) (some : IsDigits digits) :
    IsExponent (mark :: (sign ++ digits))

/-- The form of a number. -/
inductive IsNumber : Input → Prop where
  | parts {minus whole fraction exponent : Input} (sign : minus = [] ∨ minus = [0x2d])
    (first : IsWhole whole) (second : IsFraction fraction) (third : IsExponent exponent) :
    IsNumber (minus ++ (whole ++ (fraction ++ exponent)))

structure Number where
  octets : Input
  formed : IsNumber octets

/-- What cannot continue the digits of a number. -/
def EndsDigits (rest : Input) : Prop :=
  ∀ octet, rest.head? = some octet → isDigit octet = false

/-- What cannot continue a number. -/
def Stops (rest : Input) : Prop :=
  ∀ octet, rest.head? = some octet →
    isDigit octet = false ∧ octet ≠ 0x2e ∧ ¬ (octet = 0x65 ∨ octet = 0x45)

theorem stops_nil : Stops [] :=
  fun _ impossible => nomatch impossible

theorem stops_cons {octet : UInt8}
    (stops : isDigit octet = false ∧ octet ≠ 0x2e ∧ ¬ (octet = 0x65 ∨ octet = 0x45))
    (rest : Input) : Stops (octet :: rest) := by
  intro other same
  cases same
  exact stops

theorem stops_of_isGap {octet : UInt8} (gap : isGap octet = true) :
    isDigit octet = false ∧ octet ≠ 0x2e ∧ ¬ (octet = 0x65 ∨ octet = 0x45) := by
  simp only [isGap, Bool.or_eq_true, beq_iff_eq] at gap
  rcases gap with ((rfl | rfl) | rfl) | rfl <;> decide

/-- A number also ends at a gap. -/
theorem Gap.stops (gap : Gap) {rest : Input} (stops : Stops rest) :
    Stops (gap.octets ++ rest) := by
  rcases gap with ⟨octets, blank⟩
  cases octets with
  | nil => exact stops
  | cons octet others =>
    have first : isGap octet = true := List.all_eq_true.mp blank octet List.mem_cons_self
    exact stops_cons (stops_of_isGap first) _

theorem Stops.endsDigits {rest : Input} (stops : Stops rest) : EndsDigits rest :=
  fun octet first => (stops octet first).1

theorem endsDigits_cons {octet : UInt8} (other : isDigit octet = false) (rest : Input) :
    EndsDigits (octet :: rest) := by
  intro found same
  cases same
  exact other

/-! ## The parts of a number -/

/-- The values of some digits. -/
def digitsOf (octets : Input) : List Nat :=
  octets.map fun octet => octet.toNat - 0x30

/-- The digits of a fraction, which stand behind its point. -/
def fractionOf : Input → Option (List Nat)
  | [] => none
  | _ :: digits => some (digitsOf digits)

/-- The sign and the digits of an exponent, which stand behind its letter. -/
def exponentOf : Input → Option (Bool × List Nat)
  | [] => none
  | _ :: power => some ((signOf power).1, digitsOf (signOf power).2)

/-- The literal of a number given in its parts. -/
def literalOf (minus whole fraction exponent : Input) : Literal :=
  ⟨!minus.isEmpty, digitsOf whole, fractionOf fraction, exponentOf exponent⟩

/-! Each part of a number is read as the same digits whatever follows it. -/

theorem takeDigits_append_of_all {digits rest : Input}
    (each : ∀ octet ∈ digits, isDigit octet = true) (ends : EndsDigits rest) :
    takeDigits (digits ++ rest) = (digitsOf digits, rest) := by
  have none : rest.takeWhile isDigit = [] ∧ rest.dropWhile isDigit = rest := by
    cases rest with
    | nil => exact ⟨rfl, rfl⟩
    | cons octet others =>
      have other : ¬ isDigit octet = true := Bool.eq_false_iff.mp (ends octet rfl)
      exact ⟨List.takeWhile_cons_of_neg other, List.dropWhile_cons_of_neg other⟩
  unfold takeDigits
  rw [List.takeWhile_append_of_pos each, List.dropWhile_append_of_pos each, none.1, none.2,
    List.append_nil, digitsOf]

theorem lexDigits_of_isDigits (ended : Cause) {octets rest : Input} (digits : IsDigits octets)
    (ends : EndsDigits rest) :
    lexDigits ended (octets ++ rest) = .ok (digitsOf octets, rest) := by
  rcases List.exists_cons_of_ne_nil digits.1 with ⟨octet, others, rfl⟩
  have taken := takeDigits_append_of_all digits.2 ends
  rw [List.cons_append] at taken ⊢
  rw [lexDigits_of_digit ended (digits.2 octet List.mem_cons_self), taken]

theorem lexWhole_of_isWhole (ended : Cause) {octets rest : Input} (whole : IsWhole octets)
    (ends : EndsDigits rest) :
    lexWhole ended (octets ++ rest) = .ok (digitsOf octets, rest) := by
  cases whole with
  | zero =>
    refine lexWhole_zero ended ?_
    cases rest with
    | nil => rfl
    | cons octet others => exact ends octet rfl
  | @digits first others positive each =>
    have taken := takeDigits_append_of_all each ends
    rw [List.cons_append] at taken ⊢
    rw [lexWhole_of_digit ended positive (each first List.mem_cons_self), taken]

theorem lexFraction_of_isFraction (ended : Cause) {octets rest : Input}
    (fraction : IsFraction octets) (ends : EndsDigits rest) (other : rest.head? ≠ some 0x2e) :
    lexFraction ended (octets ++ rest) = .ok (fractionOf octets, rest) := by
  cases fraction with
  | none => exact lexFraction_none ended other
  | point digits =>
    rw [List.cons_append, lexFraction_point, lexDigits_of_isDigits ended digits ends]
    rfl

theorem signOf_sign {sign digits : Input} (signs : sign = [] ∨ sign = [0x2b] ∨ sign = [0x2d])
    (some : IsDigits digits) (rest : Input) :
    signOf ((sign ++ digits) ++ rest) = (decide (sign = [0x2d]), digits ++ rest) := by
  rcases signs with rfl | rfl | rfl
  · rcases List.exists_cons_of_ne_nil some.1 with ⟨octet, others, rfl⟩
    have digit := some.2 octet List.mem_cons_self
    refine signOf_of_ne ?_ ?_ _
    · rintro rfl
      cases digit
    · rintro rfl
      cases digit
  · rfl
  · rfl

theorem exponentOf_letter {mark : UInt8} {sign digits : Input}
    (signs : sign = [] ∨ sign = [0x2b] ∨ sign = [0x2d]) (some : IsDigits digits) :
    exponentOf (mark :: (sign ++ digits)) = .some (decide (sign = [0x2d]), digitsOf digits) := by
  have signed := signOf_sign signs some []
  rw [List.append_nil, List.append_nil] at signed
  rw [exponentOf, signed]

theorem lexExponent_of_isExponent (ended : Cause) {octets rest : Input}
    (exponent : IsExponent octets) (stops : Stops rest) :
    lexExponent ended (octets ++ rest) = .ok (exponentOf octets, rest) := by
  cases exponent with
  | none => exact lexExponent_none ended fun octet first => (stops octet first).2.2
  | @letter mark sign digits marks signs formed =>
    rw [exponentOf_letter signs formed, List.cons_append, lexExponent_letter ended marks,
      signOf_sign signs formed, lexDigits_of_isDigits ended formed stops.endsDigits]
    rfl

theorem IsExponent.endsDigits {octets : Input} (exponent : IsExponent octets) {rest : Input}
    (stops : Stops rest) : EndsDigits (octets ++ rest) ∧ (octets ++ rest).head? ≠ some 0x2e := by
  cases exponent with
  | none => exact ⟨stops.endsDigits, fun point => (stops _ point).2.1 rfl⟩
  | letter marks =>
    rcases marks with rfl | rfl
    · exact ⟨endsDigits_cons rfl _, by simp⟩
    · exact ⟨endsDigits_cons rfl _, by simp⟩

theorem IsFraction.endsDigits {octets : Input} (fraction : IsFraction octets) {rest : Input}
    (ends : EndsDigits rest) : EndsDigits (octets ++ rest) := by
  cases fraction with
  | none => exact ends
  | point => exact endsDigits_cons rfl _

theorem minusOf_whole {minus whole : Input} (sign : minus = [] ∨ minus = [0x2d])
    (first : IsWhole whole) (rest : Input) :
    minusOf ((minus ++ whole) ++ rest) = (!minus.isEmpty, whole ++ rest) := by
  rcases sign with rfl | rfl
  · cases first with
    | zero => rfl
    | @digits octet others positive each =>
      have digit := each octet List.mem_cons_self
      refine minusOf_of_ne ?_ _
      rintro rfl
      cases digit
  · rfl

theorem lexLiteral_of_parts {minus whole fraction exponent : Input}
    (sign : minus = [] ∨ minus = [0x2d]) (first : IsWhole whole) (second : IsFraction fraction)
    (third : IsExponent exponent) (ended : Cause) {rest : Input} (stops : Stops rest) :
    lexLiteral ended ((minus ++ (whole ++ (fraction ++ exponent))) ++ rest) =
      .ok (literalOf minus whole fraction exponent, rest) := by
  have behind := third.endsDigits stops
  have split : (minus ++ (whole ++ (fraction ++ exponent))) ++ rest =
      (minus ++ whole) ++ (fraction ++ (exponent ++ rest)) := by
    simp only [List.append_assoc]
  apply lexLiteral_eq_ok_iff.mpr
  rw [split, minusOf_whole sign first]
  exact ⟨digitsOf whole, fractionOf fraction, _, _,
    lexWhole_of_isWhole ended first (second.endsDigits behind.1),
    lexFraction_of_isFraction ended second behind.1 behind.2,
    lexExponent_of_isExponent ended third stops, rfl⟩

/-- A number is read as the same literal whatever follows it. -/
theorem lexLiteral_of_isNumber {octets : Input} (number : IsNumber octets) :
    ∃ literal, ∀ ended rest, Stops rest →
      lexLiteral ended (octets ++ rest) = .ok (literal, rest) := by
  cases number with
  | parts sign first second third =>
    exact ⟨_, fun ended rest stops => lexLiteral_of_parts sign first second third ended stops⟩

theorem isDigits_of_lexDigits {ended : Cause} {input after : Input} {values : List Nat}
    (lexed : lexDigits ended input = .ok (values, after)) :
    ∃ digits, input = digits ++ after ∧ IsDigits digits := by
  rcases lexDigits_cases lexed with ⟨octet, others, rfl, digit, taken⟩
  have last : after = (octet :: others).dropWhile isDigit := congrArg Prod.snd taken
  refine ⟨(octet :: others).takeWhile isDigit, ?_, ?_, ?_⟩
  · rw [last, List.takeWhile_append_dropWhile]
  · rw [List.takeWhile_cons_of_pos digit]
    exact List.cons_ne_nil _ _
  · exact fun consumed member => List.all_eq_true.mp List.all_takeWhile consumed member

theorem isWhole_of_lexWhole {ended : Cause} {input after : Input} {values : List Nat}
    (lexed : lexWhole ended input = .ok (values, after)) :
    ∃ whole, input = whole ++ after ∧ IsWhole whole := by
  rcases lexWhole_cases lexed with
    ⟨others, rfl, _, read⟩ | ⟨octet, others, rfl, positive, digit, taken⟩
  · cases read
    exact ⟨[0x30], rfl, .zero⟩
  · have lexed : lexDigits ended (octet :: others) = .ok (values, after) := by
      rw [lexDigits_of_digit ended digit, ← taken]
    rcases isDigits_of_lexDigits lexed with ⟨digits, split, some, each⟩
    rcases List.exists_cons_of_ne_nil some with ⟨first, later, rfl⟩
    have same : octet = first := (List.cons.inj split).1
    exact ⟨first :: later, split, .digits (same ▸ positive) each⟩

theorem isFraction_of_lexFraction {ended : Cause} {input after : Input}
    {digits? : Option (List Nat)} (lexed : lexFraction ended input = .ok (digits?, after)) :
    ∃ fraction, input = fraction ++ after ∧ IsFraction fraction := by
  rcases lexFraction_cases lexed with ⟨others, values, rfl, read, _⟩ | ⟨_, _, rfl⟩
  · rcases isDigits_of_lexDigits read with ⟨digits, rfl, formed⟩
    exact ⟨0x2e :: digits, rfl, .point formed⟩
  · exact ⟨[], rfl, .none⟩

theorem exists_sign (input : Input) :
    ∃ sign, input = sign ++ (signOf input).2 ∧ (sign = [] ∨ sign = [0x2b] ∨ sign = [0x2d]) := by
  unfold signOf
  split
  · exact ⟨[0x2b], rfl, Or.inr (Or.inl rfl)⟩
  · exact ⟨[0x2d], rfl, Or.inr (Or.inr rfl)⟩
  · exact ⟨[], rfl, Or.inl rfl⟩

theorem isExponent_of_lexExponent {ended : Cause} {input after : Input}
    {power? : Option (Bool × List Nat)} (lexed : lexExponent ended input = .ok (power?, after)) :
    ∃ exponent, input = exponent ++ after ∧ IsExponent exponent := by
  rcases lexExponent_cases lexed with ⟨mark, others, values, rfl, marks, read, _⟩ | ⟨_, _, rfl⟩
  · rcases exists_sign others with ⟨sign, split, signs⟩
    rcases isDigits_of_lexDigits read with ⟨digits, behind, formed⟩
    refine ⟨mark :: (sign ++ digits), ?_, .letter marks signs formed⟩
    rw [List.cons_append, List.append_assoc, ← behind, ← split]
  · exact ⟨[], rfl, .none⟩

/-- What is read as a literal has the form of a number. -/
theorem exists_number_of_lexLiteral {ended : Cause} {input after : Input} {literal : Literal}
    (lexed : lexLiteral ended input = .ok (literal, after)) :
    ∃ number : Number, input = number.octets ++ after := by
  rcases lexLiteral_eq_ok_iff.mp lexed with
    ⟨values, digits?, beyondWhole, beyondFraction, first, second, third, _⟩
  rcases isWhole_of_lexWhole first with ⟨whole, split, wholeFormed⟩
  rcases isFraction_of_lexFraction second with ⟨fraction, rfl, fractionFormed⟩
  rcases isExponent_of_lexExponent third with ⟨exponent, rfl, exponentFormed⟩
  have unsigned : (minusOf input).2 = (whole ++ (fraction ++ exponent)) ++ after := by
    rw [split, List.append_assoc, List.append_assoc]
  rcases minusOf_cases input with ⟨rest, rfl, read⟩ | read
  · rw [read] at unsigned
    exact ⟨⟨_, .parts (Or.inr rfl) wholeFormed fractionFormed exponentFormed⟩,
      congrArg (0x2d :: ·) unsigned⟩
  · rw [read] at unsigned
    exact ⟨⟨_, .parts (Or.inl rfl) wholeFormed fractionFormed exponentFormed⟩, unsigned⟩

end Json
end LendingGateway
