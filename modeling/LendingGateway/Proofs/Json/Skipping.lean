import LendingGateway.Proofs.Json.Lenience
import LendingGateway.Proofs.Json.Locality

namespace LendingGateway
namespace Json

open Traversal

/-!
# Whatever is read can be skipped

Skipping asks less of a value than any reader does, and it ends where the reader ends.  A
machine does it that keeps the open containers on a stack, so what is shown of it is that it
runs from the front of a value to the end of that value under any containers around it.
-/

/-! ## The machine -/

/-- The machine goes from one state and input to another. -/
inductive Runs : Skip → Input → Skip → Input → Prop where
  | refl (state : Skip) (input : Input) : Runs state input state input
  | step {state next last : Skip} {input rest after : Input}
    (stepped : skipStep state input = .ok (next, rest)) (runs : Runs next rest last after) :
    Runs state input last after

theorem Runs.trans {first second third : Skip} {input between after : Input}
    (before : Runs first input second between) (behind : Runs second between third after) :
    Runs first input third after := by
  induction before with
  | refl => exact behind
  | step stepped _ inductionHypothesis => exact .step stepped (inductionHypothesis behind)

/-- With no container open and no value due, nothing happens any more. -/
theorem Runs.stuck {state last : Skip} {input after : Input} (runs : Runs state input last after)
    (closed : state.frames = []) (idle : state.due ≠ .value) : last = state ∧ after = input := by
  induction runs with
  | refl => exact ⟨rfl, rfl⟩
  | @step state next last input rest after stepped _ inductionHypothesis =>
    rcases state with ⟨frames, due⟩
    obtain rfl : frames = [] := closed
    have still : skipStep ⟨[], due⟩ input = .ok (⟨[], due⟩, input) := by
      cases due with
      | value => exact absurd rfl idle
      | first => rfl
      | next => rfl
    rw [still] at stepped
    cases stepped
    exact inductionHypothesis rfl idle

/-- The state has something left to skip. -/
def Skip.Live (state : Skip) : Prop :=
  state.frames = [] → state.due = .value

/-! Every step of a live state takes an octet, so the length of the input is fuel enough. -/

theorem length_of_skipGap {input rest : Input} {octet : UInt8}
    (starts : skipGap input = octet :: rest) : rest.length < input.length :=
  (closed_mark octet).length_lt starts

theorem length_of_expectColon {input after : Input} (colon : expectColon input = .ok after) :
    after.length < input.length :=
  length_of_skipGap (expectColon_eq_ok_iff.mp colon)

theorem length_of_skipText {input after : Input} (skipped : skipText input = .ok after) :
    after.length < input.length := by
  rcases bind_eq_ok_iff.mp skipped with ⟨⟨octets, last⟩, scanned, done⟩
  cases done
  exact (closed_scanText false octets .plain []).length_lt scanned

theorem length_of_lexLiteral {ended : Cause} {input after : Input} {literal : Literal}
    (lexed : lexLiteral ended input = .ok (literal, after)) : after.length < input.length := by
  rcases lexLiteral_eq_ok_iff.mp lexed with
    ⟨whole, fraction, beyondWhole, beyondFraction, first, second, third, _⟩
  rcases lexWhole_consumes first with ⟨octet, others, split, _⟩
  have signed : (minusOf input).2.length ≤ input.length := (local_minusOf _).length_le rfl
  have beyond := (local_lexFraction _ _).length_le second
  have last := (local_lexExponent _ _).length_le third
  rw [split, List.length_append, List.length_cons] at signed
  omega

theorem length_of_skipOpening {frames : List Frame} {input rest : Input} {next : Skip}
    (opened : skipOpening frames input = .ok (next, rest)) : rest.length < input.length := by
  unfold skipOpening at opened
  cases start : skipGap input with
  | nil =>
    rw [start] at opened
    cases opened
  | cons octet others =>
    have shorter := length_of_skipGap start
    rw [start] at opened
    dsimp only at opened
    split at opened
    · cases opened
      exact shorter
    split at opened
    · cases opened
      exact shorter
    rcases bind_eq_ok_iff.mp opened with ⟨last, scalar, done⟩
    cases done
    unfold skipScalar at scalar
    split at scalar
    · exact Nat.lt_of_le_of_lt ((local_expectWord _).length_le scalar) shorter
    split at scalar
    · exact Nat.lt_of_le_of_lt ((local_expectWord _).length_le scalar) shorter
    split at scalar
    · exact Nat.lt_of_le_of_lt ((local_expectWord _).length_le scalar) shorter
    split at scalar
    · exact Nat.lt_trans (length_of_skipText scalar) shorter
    split at scalar
    · rcases bind_eq_ok_iff.mp scalar with ⟨⟨literal, after⟩, lexed, done⟩
      cases done
      exact Nat.lt_of_lt_of_le (length_of_lexLiteral lexed) shorter
    · cases scalar

theorem length_of_skipElement {frame : Frame} {outer : List Frame} {input rest : Input}
    {next : Skip} (skipped : skipElement frame outer input = .ok (next, rest)) :
    rest.length < input.length := by
  cases frame with
  | list => exact length_of_skipOpening skipped
  | object =>
    unfold skipElement at skipped
    cases start : skipGap input with
    | nil =>
      rw [start] at skipped
      cases skipped
    | cons octet others =>
      rw [start] at skipped
      dsimp only at skipped
      split at skipped
      · rcases bind_eq_ok_iff.mp skipped with ⟨beyond, key, skipped⟩
        rcases bind_eq_ok_iff.mp skipped with ⟨place, colon, done⟩
        cases done
        have keyed := length_of_skipText key
        have placed := length_of_expectColon colon
        have shorter := length_of_skipGap start
        omega
      · cases skipped

theorem length_of_skipStep {state next : Skip} {input rest : Input} (live : state.Live)
    (stepped : skipStep state input = .ok (next, rest)) : rest.length < input.length := by
  unfold skipStep at stepped
  split at stepped
  · exact length_of_skipOpening stepped
  · rename_i closed opening
    exact absurd (live closed) opening
  · cases start : skipGap input with
    | nil =>
      rw [start] at stepped
      cases stepped
    | cons octet others =>
      have shorter := length_of_skipGap start
      rw [start] at stepped
      dsimp only at stepped
      split at stepped
      · cases stepped
        exact shorter
      split at stepped
      · exact Nat.lt_of_lt_of_le (length_of_skipElement stepped) shorter
      split at stepped
      · split at stepped
        · cases stepped
          exact shorter
        · exact Nat.lt_trans (length_of_skipElement stepped) shorter
      · cases stepped

theorem skipFrom_of_runs {state last : Skip} {input after : Input}
    (runs : Runs state input last after) (done : last = ⟨[], .next⟩) (live : state.Live) :
    ∀ {fuel : Nat}, input.length < fuel → skipFrom fuel state input = .ok after := by
  induction runs with
  | refl =>
    subst done
    exact absurd (live rfl) (by decide)
  | @step state next last input rest after stepped runs inductionHypothesis =>
    intro fuel enough
    rcases Nat.exists_eq_add_one.mpr (Nat.zero_lt_of_lt enough) with ⟨fuel, rfl⟩
    have shorter := length_of_skipStep live stepped
    refine bind_eq_ok_iff.mpr ⟨_, stepped, ?_⟩
    dsimp only
    by_cases alive : next.Live
    · rw [if_neg]
      · exact inductionHypothesis done alive (by omega)
      · rintro ⟨idle, closed⟩
        rw [alive closed] at idle
        cases idle
    · rw [Skip.Live, Classical.not_imp] at alive
      rcases runs.stuck alive.1 alive.2 with ⟨same, rfl⟩
      rw [← same, done, if_pos ⟨rfl, rfl⟩]

/-! ## Other containers around a value -/

/-- The state with further containers around it. -/
def Skip.under (outer : List Frame) (state : Skip) : Skip :=
  ⟨state.frames ++ outer, state.due⟩

/-- What a step leads to, with further containers around it. -/
def underStep (outer : List Frame) (found : Skip × Input) : Skip × Input :=
  (found.1.under outer, found.2)

theorem skipOpening_under (frames outer : List Frame) (input : Input) :
    skipOpening (frames ++ outer) input = (skipOpening frames input).map (underStep outer) := by
  unfold skipOpening
  cases skipGap input with
  | nil => rfl
  | cons octet rest =>
    dsimp only
    split
    · rfl
    split
    · rfl
    cases skipScalar octet rest with
    | error cause => rfl
    | ok last => rfl

theorem skipElement_under (frame : Frame) (frames outer : List Frame) (input : Input) :
    skipElement frame (frames ++ outer) input =
      (skipElement frame frames input).map (underStep outer) := by
  cases frame with
  | list => exact skipOpening_under (.list :: frames) outer input
  | object =>
    unfold skipElement
    cases skipGap input with
    | nil => rfl
    | cons octet rest =>
      dsimp only
      split
      · cases skipText rest with
        | error cause => rfl
        | ok beyond =>
          change (expectColon beyond >>= fun place => _) =
            Except.map _ (expectColon beyond >>= fun place => _)
          cases expectColon beyond with
          | error cause => rfl
          | ok place => rfl
      · rfl

theorem skipStep_under {state : Skip} (live : state.Live) (outer : List Frame) (input : Input) :
    skipStep (state.under outer) input = (skipStep state input).map (underStep outer) := by
  rcases state with ⟨frames, due⟩
  cases frames with
  | nil =>
    obtain rfl : due = .value := live rfl
    exact skipOpening_under [] outer input
  | cons frame frames =>
    unfold Skip.under
    cases due with
    | value => exact skipOpening_under (frame :: frames) outer input
    | first =>
      unfold skipStep
      cases skipGap input with
      | nil => rfl
      | cons octet rest =>
        dsimp only [List.cons_append]
        split
        · rfl
        · exact skipElement_under frame frames outer (octet :: rest)
    | next =>
      unfold skipStep
      cases skipGap input with
      | nil => rfl
      | cons octet rest =>
        dsimp only [List.cons_append]
        split
        · rfl
        have later : ¬ Due.next = Due.first := by decide
        rw [if_neg later, if_neg later]
        split
        · cases frame with
          | list => rfl
          | object => exact skipElement_under .object frames outer rest
        · rfl

theorem skipFrom_first_ne_ok {fuel : Nat} {input after : Input} :
    skipFrom fuel ⟨[], .first⟩ input ≠ .ok after := by
  induction fuel with
  | zero => exact nofun
  | succ fuel inductionHypothesis => exact inductionHypothesis

theorem runs_of_skipFrom {fuel : Nat} {after : Input} (outer : List Frame) :
    ∀ {state : Skip} {input : Input}, state.Live → skipFrom fuel state input = .ok after →
      Runs (state.under outer) input ⟨outer, .next⟩ after := by
  induction fuel with
  | zero =>
    intro state input _ impossible
    cases impossible
  | succ fuel inductionHypothesis =>
    intro state input live skipped
    rcases bind_eq_ok_iff.mp skipped with ⟨⟨next, rest⟩, stepped, continued⟩
    have along : skipStep (state.under outer) input = .ok (next.under outer, rest) := by
      rw [skipStep_under live, stepped]
      rfl
    apply Runs.step along
    dsimp only at continued
    split at continued
    · rename_i final
      cases continued
      rcases next with ⟨frames, due⟩
      obtain ⟨rfl, rfl⟩ := final
      exact .refl _ _
    · rename_i unfinished
      apply inductionHypothesis _ continued
      intro closed
      rcases next with ⟨frames, due⟩
      obtain rfl : frames = [] := closed
      cases due with
      | value => rfl
      | first => exact absurd continued skipFrom_first_ne_ok
      | next => exact absurd ⟨rfl, rfl⟩ unfinished

/-- A value stands at the front of the input, and the machine goes from there to what
follows it under any containers. -/
def Skipped (input after : Input) : Prop :=
  ∀ frames, Runs ⟨frames, .value⟩ input ⟨frames, .next⟩ after

theorem skipped_iff {input after : Input} : Skipped input after ↔ skipValue input = .ok after := by
  constructor
  · exact fun skipped => skipFrom_of_runs (skipped []) rfl (fun _ => rfl) (Nat.lt_succ_self _)
  · intro skipped frames
    have live : Skip.Live ⟨[], .value⟩ := fun _ => rfl
    exact runs_of_skipFrom frames live skipped

theorem length_le_of_runs {state last : Skip} {input after : Input}
    (runs : Runs state input last after) : after.length ≤ input.length := by
  induction runs with
  | refl => exact Nat.le_refl _
  | @step state next last input rest after stepped runs inductionHypothesis =>
    by_cases live : state.Live
    · exact Nat.le_trans inductionHypothesis (Nat.le_of_lt (length_of_skipStep live stepped))
    · rw [Skip.Live, Classical.not_imp] at live
      exact Nat.le_of_eq (congrArg List.length ((Runs.step stepped runs).stuck live.1 live.2).2)

/-- A value has at least one octet. -/
theorem Skipped.length_lt {input after : Input} (skipped : Skipped input after) :
    after.length < input.length := by
  cases skipped [] with
  | step stepped runs =>
    exact Nat.lt_of_le_of_lt (length_le_of_runs runs) (length_of_skipStep (fun _ => rfl) stepped)

/-! ## Containers -/

/-- What is due in a container before an element, the first one or a later one. -/
def dueBefore (first : Bool) : Due :=
  if first then .first else .next

theorem skipped_of_opening {input after : Input}
    (opened : ∀ frames, skipOpening frames input = .ok (⟨frames, .next⟩, after)) :
    Skipped input after :=
  fun frames => .step (opened frames) (.refl _ _)

/-- The gap before a value does not matter. -/
theorem skipped_of_gap {input other after : Input} (same : skipGap input = skipGap other)
    (skipped : Skipped other after) : Skipped input after := by
  intro frames
  cases skipped frames with
  | step stepped runs =>
    have moved : skipStep ⟨frames, .value⟩ input = skipStep ⟨frames, .value⟩ other := by
      change skipOpening frames input = skipOpening frames other
      unfold skipOpening
      rw [same]
    exact .step (moved.trans stepped) runs

theorem skipStep_close (first : Bool) (frame : Frame) {frames : List Frame} {input after : Input}
    (starts : skipGap input = frame.closing :: after) :
    skipStep ⟨frame :: frames, dueBefore first⟩ input = .ok (⟨frames, .next⟩, after) := by
  cases first with
  | true =>
    change skipStep ⟨frame :: frames, .first⟩ input = _
    unfold skipStep
    dsimp only
    rw [starts]
    exact if_pos rfl
  | false =>
    change skipStep ⟨frame :: frames, .next⟩ input = _
    unfold skipStep
    dsimp only
    rw [starts]
    exact if_pos rfl

theorem runs_element {first : Bool} {input place after : Input}
    (next : NextElement first input true place) (skipped : Skipped place after)
    (frames : List Frame) :
    Runs ⟨.list :: frames, dueBefore first⟩ input ⟨.list :: frames, .next⟩ after := by
  cases next with
  | @opening octet rest begins starts element =>
    subst begins
    cases skipped (.list :: frames) with
    | step stepped runs =>
      refine .step ?_ runs
      rw [← stepped]
      change skipStep ⟨.list :: frames, .first⟩ input =
        skipOpening (.list :: frames) (octet :: rest)
      unfold skipStep
      dsimp only
      rw [starts]
      exact if_neg element
  | @comma octet between rest continues starts next element =>
    subst continues
    have same : skipGap between = skipGap (octet :: rest) := by
      rw [← next, skipGap_idem]
    refine .step ?_ (skipped_of_gap same skipped (.list :: frames))
    change skipStep ⟨.list :: frames, .next⟩ input = _
    unfold skipStep
    dsimp only
    rw [starts]
    rfl

theorem runs_of_readItems {α : Type} {item : Input → Except Fault (α × Input)}
    (skips : ∀ {place value after}, item place = .ok (value, after) → Skipped place after)
    {after : Input} (frames : List Frame) {fuel : Nat} :
    ∀ {index : Nat} {done values : List α} {input rest : Input},
      readItems item fuel index done input = .ok (values, rest) → closeList rest = .ok after →
        Runs ⟨.list :: frames, dueBefore (index == 0)⟩ input ⟨frames, .next⟩ after := by
  induction fuel with
  | zero =>
    intro index done values input rest impossible
    cases impossible
  | succ fuel inductionHypothesis =>
    intro index done values input rest read closes
    rcases readItems_eq_ok_iff.mp read with ⟨next, _⟩ | ⟨place, value, beyond, next, element, read⟩
    · rcases endsList_iff.mp ⟨next, closes⟩ with ⟨ends, _⟩
      exact .step (skipStep_close (index == 0) .list ends) (.refl _ _)
    · have one := runs_element (nextElement_eq_ok_iff.mp next) (skips element) frames
      exact one.trans (inductionHypothesis read closes)

theorem skipStep_key {first : Bool} {key : String} {input beyond place : Input}
    (next : NextKey first input (some key) beyond) (colon : expectColon beyond = .ok place)
    (frames : List Frame) :
    skipStep ⟨.object :: frames, dueBefore first⟩ input =
      .ok (⟨.object :: frames, .value⟩, place) := by
  have keyed : ∀ {start quoted : Input}, skipGap start = 0x22 :: quoted →
      readText quoted = .ok (key, beyond) →
        skipElement .object frames start = .ok (⟨.object :: frames, .value⟩, place) := by
    intro start quoted starts text
    unfold skipElement
    dsimp only
    rw [starts]
    refine bind_eq_ok_iff.mpr ⟨beyond, skipText_of_readText text, ?_⟩
    exact bind_eq_ok_iff.mpr ⟨place, colon, rfl⟩
  cases next with
  | @opening _ quoted _ begins starts text =>
    subst begins
    change skipStep ⟨.object :: frames, .first⟩ input = _
    unfold skipStep
    dsimp only
    rw [starts]
    exact keyed (skipGap_cons (by decide) quoted) text
  | @comma _ between quoted _ continues starts next text =>
    subst continues
    change skipStep ⟨.object :: frames, .next⟩ input = _
    unfold skipStep
    dsimp only
    rw [starts]
    exact keyed next text

theorem runs_of_readMembers {σ : Type} {member : σ → String → Input → Except Fault (σ × Input)}
    (skips : ∀ {gathered key beyond next after}, member gathered key beyond = .ok (next, after) →
      ∃ place, expectColon beyond = .ok place ∧ Skipped place after)
    {after : Input} (frames : List Frame) {fuel : Nat} :
    ∀ {first : Bool} {gathered last : σ} {input rest : Input},
      readMembers member fuel first gathered input = .ok (last, rest) →
        closeObject rest = .ok after →
          Runs ⟨.object :: frames, dueBefore first⟩ input ⟨frames, .next⟩ after := by
  induction fuel with
  | zero =>
    intro first gathered last input rest impossible
    cases impossible
  | succ fuel inductionHypothesis =>
    intro first gathered last input rest read closes
    rcases readMembers_eq_ok_iff.mp read with
      ⟨next, _⟩ | ⟨key, beyond, following, behind, next, taken, read⟩
    · rcases endsObject_iff.mp ⟨next, closes⟩ with ⟨ends, _⟩
      exact .step (skipStep_close first .object ends) (.refl _ _)
    · rcases skips taken with ⟨place, colon, skipped⟩
      refine .step (skipStep_key (nextKey_eq_ok_iff.mp next) colon frames) ?_
      exact (skipped (.object :: frames)).trans (inductionHypothesis read closes)

/-- A list is skipped along its elements. -/
theorem skipped_list {input inner after : Input} (starts : skipGap input = 0x5b :: inner)
    (runs : ∀ frames, Runs ⟨.list :: frames, .first⟩ inner ⟨frames, .next⟩ after) :
    Skipped input after := by
  intro frames
  refine .step ?_ (runs frames)
  change skipOpening frames input = _
  unfold skipOpening
  rw [starts]
  rfl

theorem skipped_object {input inner after : Input} (starts : skipGap input = 0x7b :: inner)
    (runs : ∀ frames, Runs ⟨.object :: frames, .first⟩ inner ⟨frames, .next⟩ after) :
    Skipped input after := by
  intro frames
  refine .step ?_ (runs frames)
  change skipOpening frames input = _
  unfold skipOpening
  rw [starts]
  rfl

/-! ## Values -/

theorem skipped_word {input rest after : Input} {letter : UInt8} {word : String}
    (starts : skipGap input = letter :: rest)
    (known : (letter, word) ∈ [((0x6e : UInt8), "ull"), (0x74, "rue"), (0x66, "alse")])
    (met : expectText word rest = .ok after) : Skipped input after := by
  apply skipped_of_opening
  intro frames
  unfold skipOpening
  rw [starts]
  simp only [List.mem_cons, Prod.mk.injEq, List.not_mem_nil, or_false] at known
  rcases known with ⟨rfl, rfl⟩ | ⟨rfl, rfl⟩ | ⟨rfl, rfl⟩ <;>
    exact bind_eq_ok_iff.mpr ⟨after, met, rfl⟩

theorem skipped_text {input rest after : Input} {text : String}
    (starts : skipGap input = 0x22 :: rest) (read : readText rest = .ok (text, after)) :
    Skipped input after := by
  apply skipped_of_opening
  intro frames
  unfold skipOpening
  rw [starts]
  exact bind_eq_ok_iff.mpr ⟨after, skipText_of_readText read, rfl⟩

theorem skipped_number {input rest after : Input} {octet : UInt8} {number : Numeral}
    (starts : skipGap input = octet :: rest) (begins : octet = 0x2d ∨ isDigit octet = true)
    (read : readNumeral (octet :: rest) = .ok (number, after)) : Skipped input after := by
  apply skipped_of_opening
  intro frames
  rcases number_head begins with ⟨_, notQuote, notList, _, notFalse, notNull, notTrue, notObject⟩
  have scalar : skipScalar octet rest = .ok after := by
    rw [skipScalar, if_neg notNull, if_neg notTrue, if_neg notFalse, if_neg notQuote,
      if_pos begins]
    exact skipNumeral_of_readNumeral read
  unfold skipOpening
  rw [starts]
  dsimp only
  rw [if_neg notList, if_neg notObject, scalar]
  rfl

theorem skipped_of_view {depth : Nat} {input after : Input} {tree : Tree}
    (deeper : ∀ below, depth = below + 1 → ∀ {place beyond value},
      Tree.read below place = .ok (value, beyond) → Skipped place beyond)
    (view : ReadsTree depth input after tree) : Skipped input after := by
  cases view with
  | null starts word => exact skipped_word starts (by decide) word
  | yes starts word => exact skipped_word starts (by decide) word
  | no starts word => exact skipped_word starts (by decide) word
  | text starts quoted => exact skipped_text starts quoted
  | number starts begins numeral => exact skipped_number starts begins numeral
  | list starts elements closes =>
    exact skipped_list starts fun frames =>
      runs_of_readItems (deeper _ rfl) frames elements closes
  | object starts gathered closes =>
    refine skipped_object starts fun frames => runs_of_readMembers ?_ frames gathered closes
    intro done key beyond members rest taken
    rcases readTreeMember_eq_ok_iff.mp taken with ⟨place, tree, colon, value, _⟩
    exact ⟨place, colon, deeper _ rfl value⟩

/-- What is read as a tree can be skipped. -/
theorem skipped_of_readTree {depth : Nat} : ∀ {input after : Input} {tree : Tree},
    Tree.read depth input = .ok (tree, after) → Skipped input after := by
  induction depth with
  | zero =>
    intro input after tree read
    exact skipped_of_view (fun below same => absurd same.symm (Nat.succ_ne_zero below))
      (Tree.read_eq_ok_iff.mp read)
  | succ depth inductionHypothesis =>
    intro input after tree read
    refine skipped_of_view (fun below same => ?_) (Tree.read_eq_ok_iff.mp read)
    cases same
    exact inductionHypothesis

end Json
end LendingGateway
