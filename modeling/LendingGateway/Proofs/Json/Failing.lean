import LendingGateway.Proofs.Json.Portability
import LendingGateway.Proofs.Json.Variation

namespace LendingGateway
namespace Json

open Traversal

/-!
# The first thing that fails

A container fails at the first of its elements or members that does, and for the same cause.
So of two containers that differ in one value only, where the first one is read, the second one
is read or it fails at that value.
-/

/-! ## Failing readers -/

theorem bind_of_error {ε α β : Type} {result : Except ε α} {error : ε}
    (failed : result = .error error) (next : α → Except ε β) :
    (result >>= next) = .error error := by
  rw [failed]
  rfl

/-- A reading fails for a cause, at whatever place. -/
def FailsFor {α : Type} (cause : Cause) (result : Except Fault α) : Prop :=
  ∃ path, result = .error ⟨cause, path⟩

theorem failsFor_here {α : Type} {cause : Cause} {result : Except Cause α}
    (failed : result = .error cause) : FailsFor cause (here result) := by
  rw [failed]
  exact ⟨[], rfl⟩

theorem FailsFor.inside {α : Type} {cause : Cause} {result : Except Fault α}
    (failed : FailsFor cause result) (segment : Segment) :
    FailsFor cause (inside segment result) := by
  rcases failed with ⟨path, rfl⟩
  exact ⟨segment :: path, rfl⟩

theorem FailsFor.bind {α β : Type} {cause : Cause} {result : Except Fault α}
    (failed : FailsFor cause result) (next : α → Except Fault β) :
    FailsFor cause (result >>= next) := by
  rcases failed with ⟨path, rfl⟩
  exact ⟨path, rfl⟩

/-- What follows a step that succeeds decides. -/
theorem failsFor_bind {α β : Type} {cause : Cause} {result : Except Fault α} {value : α}
    (done : result = .ok value) {next : α → Except Fault β} (failed : FailsFor cause (next value)) :
    FailsFor cause (result >>= next) := by
  rw [done]
  exact failed

/-! ## Failing loops -/

theorem failsFor_readItems {α : Type} {item : Input → Except Fault (α × Input)} {cause : Cause}
    (skips : ∀ {place value after}, item place = .ok (value, after) → Skipped place after)
    {hole : Input} (failed : FailsFor cause (item hole)) {behind : List Input} {after : Input}
    {before : List Input} : ∀ {values : List α} {fuel index : Nat} {done : List α} {input : Input},
      input.length < fuel → ListPlaces (index == 0) input (before ++ hole :: behind) after →
      List.Forall₂ (fun place value => ∃ last, item place = .ok (value, last)) before values →
        FailsFor cause (readItems item fuel index done input) := by
  induction before with
  | nil =>
    intro values fuel index done input enough marks _
    cases fuel with
    | zero => exact absurd enough (Nat.not_lt_zero _)
    | succ fuel =>
      cases marks with
      | element next =>
        have following := here_eq_ok_iff.mpr (nextElement_eq_ok_iff.mpr next)
        exact failsFor_bind following ((failed.inside _).bind _)
  | cons place before inductionHypothesis =>
    intro values fuel index done input enough marks each
    cases fuel with
    | zero => exact absurd enough (Nat.not_lt_zero _)
    | succ fuel =>
      cases marks with
      | element next skipped later =>
        rcases List.forall₂_cons_left_iff.mp each with ⟨value, others, ⟨last, read⟩, rest, rfl⟩
        obtain rfl := skipped.unique (skips read)
        have short := next.length_lt skipped
        have following := here_eq_ok_iff.mpr (nextElement_eq_ok_iff.mpr next)
        refine failsFor_bind following (failsFor_bind (inside_eq_ok_iff.mpr read) ?_)
        exact inductionHypothesis (by omega) later rest

theorem failsFor_readList {α : Type} {item : Input → Except Fault (α × Input)} {cause : Cause}
    (skips : ∀ {place value after}, item place = .ok (value, after) → Skipped place after)
    {hole : Input} (failed : FailsFor cause (item hole)) {before behind : List Input}
    {inner after : Input} (marks : ListPlaces true inner (before ++ hole :: behind) after)
    {values : List α}
    (each : List.Forall₂ (fun place value => ∃ last, item place = .ok (value, last)) before values) :
    FailsFor cause (readList item inner) :=
  have loop : FailsFor cause (readItems item (inner.length + 1) 0 [] inner) :=
    failsFor_readItems skips failed (Nat.lt_succ_self _) marks each
  loop.bind _

theorem failsFor_readMembers {σ : Type} {member : σ → String → Input → Except Fault (σ × Input)}
    {step : σ → String × Input → σ → Prop}
    (takes : ∀ ⦃gathered key beyond next after⦄, member gathered key beyond = .ok (next, after) ↔
      ∃ place, expectColon beyond = .ok place ∧ Skipped place after ∧
        step gathered (key, place) next)
    {cause : Cause} {middle : σ} {key : String} {hole : Input}
    (failed : ∀ ⦃beyond⦄, expectColon beyond = .ok hole → FailsFor cause (member middle key beyond))
    {behind : List (String × Input)} {after : Input} {before : List (String × Input)} :
    ∀ {fuel : Nat} {first : Bool} {gathered : σ} {input : Input}, input.length < fuel →
      ObjectPlaces first input (before ++ (key, hole) :: behind) after →
      Folds step gathered before middle →
        FailsFor cause (readMembers member fuel first gathered input) := by
  induction before with
  | nil =>
    intro fuel first gathered input enough marks folds
    cases folds
    cases fuel with
    | zero => exact absurd enough (Nat.not_lt_zero _)
    | succ fuel =>
      cases marks with
      | member next colon =>
        have following := here_eq_ok_iff.mpr (nextKey_eq_ok_iff.mpr next)
        exact failsFor_bind following ((failed colon).bind _)
  | cons place before inductionHypothesis =>
    intro fuel first gathered input enough marks folds
    cases fuel with
    | zero => exact absurd enough (Nat.not_lt_zero _)
    | succ fuel =>
      cases marks with
      | member next colon skipped later =>
        cases folds with
        | cons stepped folds =>
          have short := next.length_lt colon skipped
          have following := here_eq_ok_iff.mpr (nextKey_eq_ok_iff.mpr next)
          have taken := takes.mpr ⟨_, colon, skipped, stepped⟩
          refine failsFor_bind following (failsFor_bind taken ?_)
          exact inductionHypothesis (by omega) later folds

/-! ## Parts of a walk -/

theorem exists_of_forall₂_append {α β : Type} {related : α → β → Prop} {items : List α}
    {before behind : List β} {other : β}
    (each : List.Forall₂ related items (before ++ other :: behind)) :
    ∃ front item back, items = front ++ item :: back ∧ List.Forall₂ related front before ∧
      related item other ∧ List.Forall₂ related back behind := by
  have first := List.forall₂_take_append items before (other :: behind) each
  have later := List.forall₂_drop_append items before (other :: behind) each
  rcases List.forall₂_cons_right_iff.mp later with ⟨item, back, connected, later, rest⟩
  refine ⟨_, item, back, ?_, first, connected, later⟩
  rw [← rest, List.take_append_drop]

theorem forall₂_append_cons_iff {α β : Type} {related : α → β → Prop} {before behind : List α}
    {item : α} {others : List β} :
    List.Forall₂ related (before ++ item :: behind) others ↔
      ∃ front other back, others = front ++ other :: back ∧ List.Forall₂ related before front ∧
        related item other ∧ List.Forall₂ related behind back := by
  constructor
  · intro each
    have flipped : List.Forall₂ (fun other item => related item other) others
        (before ++ item :: behind) := each.flip
    rcases exists_of_forall₂_append flipped with ⟨front, other, back, rfl, first, connected, later⟩
    exact ⟨front, other, back, rfl, first.flip, connected, later.flip⟩
  · rintro ⟨front, other, back, rfl, first, connected, later⟩
    exact List.rel_append first (.cons connected later)

/-- The item behind those that were counted. -/
theorem bind_getElem?_of_length {α β : Type} {before : List α} {position : Nat}
    (counted : before.length = position) (item : α) (behind : List α) (get : α → Option β) :
    (before ++ item :: behind)[position]?.bind get = get item := by
  rw [← counted, List.getElem?_append_right (Nat.le_refl _), Nat.sub_self]
  rfl

theorem folds_append_iff {σ α : Type} {step : σ → α → σ → Prop} {items others : List α} :
    ∀ {state last : σ}, Folds step state (items ++ others) last ↔
      ∃ middle, Folds step state items middle ∧ Folds step middle others last := by
  induction items with
  | nil =>
    intro state last
    constructor
    · exact fun folds => ⟨state, .nil state, folds⟩
    · rintro ⟨middle, nothing, folds⟩
      cases nothing
      exact folds
  | cons item items inductionHypothesis =>
    intro state last
    constructor
    · intro folds
      cases folds with
      | cons stepped folds =>
        rcases inductionHypothesis.mp folds with ⟨middle, first, later⟩
        exact ⟨middle, .cons stepped first, later⟩
    · rintro ⟨middle, first, later⟩
      cases first with
      | cons stepped first => exact .cons stepped (inductionHypothesis.mpr ⟨middle, first, later⟩)

/-! ## Containers that differ in one value -/

theorem listPlaces_pair {place other inner after : Input} {opening : Gap}
    {before behind : List (Element Document)} {element : Element Document} {document : Document}
    {places : List Input}
    (first : StandsAt place (.list opening (before ++ element :: behind)))
    (second : StandsAt other (.list opening (before ++ element.withValue document :: behind)))
    (starts : skipGap place = 0x5b :: inner) (marks : ListPlaces true inner places after) :
    ∃ rest front spot hole back last, skipGap other = 0x5b :: rest ∧
      ListPlaces true rest (front ++ hole :: back) last ∧
      List.Forall₂ Twins places (front ++ spot :: back) ∧ front.length = before.length ∧
        StandsAt spot element.value ∧ StandsAt hole document := by
  rcases first.exists_listPlaces with ⟨_, _, _, same, marked, stand⟩
  rw [starts] at same
  cases same
  rcases marks.unique marked with ⟨rfl, _⟩
  rcases second.exists_listPlaces with ⟨rest, others, last, again, marked, each⟩
  rcases exists_of_forall₂_append stand with ⟨before', spot, behind', rfl, early, stands, late⟩
  rcases exists_of_forall₂_append each with ⟨front, hole, back, rfl, first, fills, later⟩
  refine ⟨rest, front, spot, hole, back, last, again, marked, ?_, first.length_eq, stands, fills⟩
  exact List.rel_append (twins_of_elements early first)
    (.cons ⟨_, stands, stands⟩ (twins_of_elements late later))

theorem objectPlaces_pair {place other inner after : Input} {opening : Gap}
    {before behind : List (Member Document)} {member : Member Document} {document : Document}
    {key : String} {places : List (String × Input)}
    (first : StandsAt place (.object opening (before ++ member :: behind)))
    (second : StandsAt other (.object opening (before ++ member.withValue document :: behind)))
    (named : member.name? = some key) (starts : skipGap place = 0x7b :: inner)
    (marks : ObjectPlaces true inner places after) :
    ∃ rest front spot hole back last, skipGap other = 0x7b :: rest ∧
      ObjectPlaces true rest (front ++ (key, hole) :: back) last ∧
      List.Forall₂ MemberTwins places (front ++ (key, spot) :: back) ∧
        StandsAt spot member.element.value ∧ StandsAt hole document := by
  rcases first.objectPlaces with ⟨_, _, same, _, located⟩
  rw [starts] at same
  cases same
  rcases located _ _ marks with ⟨known, stand⟩
  have others : ∀ twin ∈ before ++ member.withValue document :: behind,
      ∃ name, twin.name? = some name := by
    intro twin held
    rcases List.mem_append.mp held with early | held
    · exact known twin (List.mem_append_left _ early)
    · rcases List.mem_cons.mp held with rfl | late
      · exact ⟨key, named⟩
      · exact known twin (List.mem_append_right _ (List.mem_cons_of_mem _ late))
  rcases second.objectPlaces with ⟨rest, last, again, holds, _⟩
  rcases holds others with ⟨_, marked, each⟩
  rcases exists_of_forall₂_append stand with ⟨_, ⟨name, spot⟩, _, rfl, early, stands, late⟩
  rcases exists_of_forall₂_append each with ⟨front, ⟨_, hole⟩, back, rfl, first, fills, later⟩
  obtain rfl : key = name := Option.some.inj (named.symm.trans stands.1)
  obtain rfl : key = _ := Option.some.inj (named.symm.trans fills.1)
  refine ⟨rest, front, spot, hole, back, last, again, marked, ?_, stands.2, fills.2⟩
  exact List.rel_append (twins_of_members early first)
    (.cons ⟨rfl, _, stands.2, stands.2⟩ (twins_of_members late later))

end Json
end LendingGateway
