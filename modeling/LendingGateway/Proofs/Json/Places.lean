import LendingGateway.Proofs.Json.Shapes

namespace LendingGateway
namespace Json

open Traversal

/-!
# The places of elements and members

Every reader of a container finds its elements or members at the same places, the ones that
skipping finds.  So a loop over the octets is a walk along a list of places, and two readers
of one container are compared place by place.
-/

/-! ## Marking places -/

/-- Pass over a value, and keep the input from that value on. -/
def markValue (input : Input) : Except Fault (Input × Input) := do
  let rest ← here (skipValue input)
  .ok (input, rest)

/-- Pass over a member, and keep its key and the input from its value on. -/
def markMember (places : List (String × Input)) (key : String) (input : Input) :
    Except Fault (List (String × Input) × Input) := do
  let place ← here (expectColon input)
  let rest ← inside (.key key) (here (skipValue place))
  .ok ((key, place) :: places, rest)

/-- Where the elements of a list begin that stands at the front of the input. -/
def elementsOf (input : Input) : List Input :=
  match skipGap input with
  | 0x5b :: inner =>
    match readList markValue inner with
    | .ok (places, _) => places
    | .error _ => []
  | _ => []

/-- The keys of an object that stands at the front of the input, and where their values
begin. -/
def membersOf (input : Input) : List (String × Input) :=
  match skipGap input with
  | 0x7b :: inner =>
    match readMembers markMember (inner.length + 1) true [] inner with
    | .ok (places, _) => places.reverse
    | .error _ => []
  | _ => []

theorem markValue_eq_ok_iff {input place after : Input} :
    markValue input = .ok (place, after) ↔ place = input ∧ Skipped input after := by
  rw [skipped_iff]
  constructor
  · intro marked
    rcases bind_eq_ok_iff.mp marked with ⟨rest, skipped, done⟩
    cases done
    exact ⟨rfl, here_eq_ok_iff.mp skipped⟩
  · rintro ⟨rfl, skipped⟩
    exact bind_eq_ok_iff.mpr ⟨after, here_eq_ok_iff.mpr skipped, rfl⟩

theorem markMember_eq_ok_iff {places next : List (String × Input)} {key : String}
    {input after : Input} :
    markMember places key input = .ok (next, after) ↔
      ∃ place, expectColon input = .ok place ∧ Skipped place after ∧
        next = (key, place) :: places := by
  constructor
  · intro marked
    rcases bind_eq_ok_iff.mp marked with ⟨place, colon, marked⟩
    rcases bind_eq_ok_iff.mp marked with ⟨rest, skipped, done⟩
    cases done
    exact ⟨place, here_eq_ok_iff.mp colon,
      skipped_iff.mpr (here_eq_ok_iff.mp (inside_eq_ok_iff.mp skipped)), rfl⟩
  · rintro ⟨place, colon, skipped, rfl⟩
    refine bind_eq_ok_iff.mpr ⟨place, here_eq_ok_iff.mpr colon, ?_⟩
    exact bind_eq_ok_iff.mpr
      ⟨after, inside_eq_ok_iff.mpr (here_eq_ok_iff.mpr (skipped_iff.mp skipped)), rfl⟩

/-- A value ends at one place only. -/
theorem Skipped.unique {input after other : Input} (skipped : Skipped input after)
    (again : Skipped input other) : after = other := by
  have same := (skipped_iff.mp skipped).symm.trans (skipped_iff.mp again)
  exact Except.ok.inj same

/-! ## Lists -/

/-- The places of the elements that are left of a list, and what follows the list. -/
inductive ListPlaces : (first : Bool) → (input : Input) → List Input → (after : Input) → Prop where
  | close {first : Bool} {input after : Input} (ends : skipGap input = 0x5d :: after) :
    ListPlaces first input [] after
  | element {first : Bool} {input place between after : Input} {places : List Input}
    (next : NextElement first input true place) (skipped : Skipped place between)
    (later : ListPlaces false between places after) :
    ListPlaces first input (place :: places) after

theorem NextElement.length_lt {first : Bool} {input place between : Input}
    (next : NextElement first input true place) (skipped : Skipped place between) :
    between.length < input.length :=
  Nat.lt_of_lt_of_le skipped.length_lt
    ((local_nextElement _ _).length_le (nextElement_eq_ok_iff.mpr next))

theorem ListPlaces.exists_skipped {first : Bool} {input after : Input} {places : List Input}
    (marks : ListPlaces first input places after) : ∀ place ∈ places, ∃ last, Skipped place last := by
  induction marks with
  | close => exact fun _ member => absurd member List.not_mem_nil
  | element _ skipped _ inductionHypothesis =>
    exact List.forall_mem_cons.mpr ⟨⟨_, skipped⟩, inductionHypothesis⟩

/-- A loop over the elements of a list reads one value at each of their places. -/
theorem readItems_iff_places {α : Type} {item : Input → Except Fault (α × Input)}
    (skips : ∀ {place value after}, item place = .ok (value, after) → Skipped place after)
    {after : Input} {fuel : Nat} :
    ∀ (index : Nat) {done values : List α} {input : Input}, input.length < fuel →
      ((∃ rest, readItems item fuel index done input = .ok (values, rest) ∧
        closeList rest = .ok after) ↔
      ∃ places found, ListPlaces (index == 0) input places after ∧
        List.Forall₂ (fun place value => ∃ last, item place = .ok (value, last)) places found ∧
          values = done.reverse ++ found) := by
  induction fuel with
  | zero =>
    intro index done values input impossible
    exact absurd impossible (Nat.not_lt_zero _)
  | succ fuel inductionHypothesis =>
    intro index done values input enough
    constructor
    · rintro ⟨rest, read, closes⟩
      rcases readItems_eq_ok_iff.mp read with
        ⟨next, rfl⟩ | ⟨place, value, between, next, element, read⟩
      · exact ⟨[], [], .close (endsList_iff.mp ⟨next, closes⟩).1, .nil, (List.append_nil _).symm⟩
      · have following := nextElement_eq_ok_iff.mp next
        have short := following.length_lt (skips element)
        rcases (inductionHypothesis (index + 1) (by omega)).mp ⟨rest, read, closes⟩ with
          ⟨places, found, later, each, rfl⟩
        refine ⟨place :: places, value :: found, .element following (skips element) later,
          .cons ⟨between, element⟩ each, ?_⟩
        rw [List.reverse_cons, List.append_assoc]
        rfl
    · rintro ⟨places, found, marks, each, rfl⟩
      cases marks with
      | close ends =>
        cases each
        rcases endsList_iff.mpr ⟨ends, rfl⟩ with ⟨next, closes⟩
        exact ⟨_, readItems_eq_ok_iff.mpr (Or.inl ⟨next, List.append_nil _⟩), closes⟩
      | @element _ _ place between _ places next skipped later =>
        rcases List.forall₂_cons_left_iff.mp each with ⟨value, values, ⟨last, element⟩, others, rfl⟩
        obtain rfl : between = last := skipped.unique (skips element)
        have short := next.length_lt skipped
        rcases (inductionHypothesis (index + 1) (by omega)).mpr
          ⟨places, values, later, others, rfl⟩ with ⟨rest, read, closes⟩
        refine ⟨rest, readItems_eq_ok_iff.mpr (Or.inr
          ⟨place, value, between, nextElement_eq_ok_iff.mpr next, element, ?_⟩), closes⟩
        rw [read, List.reverse_cons, List.append_assoc]
        rfl

theorem readList_iff_places {α : Type} {item : Input → Except Fault (α × Input)}
    (skips : ∀ {place value after}, item place = .ok (value, after) → Skipped place after)
    {inner after : Input} {values : List α} :
    readList item inner = .ok (values, after) ↔
      ∃ places, ListPlaces true inner places after ∧
        List.Forall₂ (fun place value => ∃ last, item place = .ok (value, last)) places values := by
  rw [readList_eq_ok_iff, readItems_iff_places skips 0 (Nat.lt_succ_self _)]
  constructor
  · rintro ⟨places, found, marks, each, rfl⟩
    exact ⟨places, marks, each⟩
  · rintro ⟨places, marks, each⟩
    exact ⟨places, values, marks, each, rfl⟩

/-- Marking finds the places of the elements. -/
theorem readList_markValue_iff {inner after : Input} {places : List Input} :
    readList markValue inner = .ok (places, after) ↔ ListPlaces true inner places after := by
  rw [readList_iff_places fun marked => (markValue_eq_ok_iff.mp marked).2]
  constructor
  · rintro ⟨found, marks, each⟩
    have same : List.Forall₂ Eq found places :=
      each.imp fun _ _ marked => (markValue_eq_ok_iff.mp marked.choose_spec).1.symm
    rw [List.forall₂_eq_eq_eq] at same
    exact same ▸ marks
  · intro marks
    refine ⟨places, marks, List.forall₂_same.mpr fun place member => ?_⟩
    rcases marks.exists_skipped place member with ⟨last, skipped⟩
    exact ⟨last, markValue_eq_ok_iff.mpr ⟨rfl, skipped⟩⟩

theorem ListPlaces.unique {inner after last : Input} {places others : List Input}
    (marks : ListPlaces true inner places after) (again : ListPlaces true inner others last) :
    places = others ∧ after = last := by
  have same := (readList_markValue_iff.mpr marks).symm.trans (readList_markValue_iff.mpr again)
  exact Prod.mk.inj (Except.ok.inj same)

/-! ## Objects -/

/-- Steps along a list lead from one state to another. -/
inductive Folds {σ α : Type} (step : σ → α → σ → Prop) : σ → List α → σ → Prop where
  | nil (state : σ) : Folds step state [] state
  | cons {state next last : σ} {item : α} {items : List α} (stepped : step state item next)
    (folds : Folds step next items last) : Folds step state (item :: items) last

/-- The keys of the members that are left of an object, the places of their values, and what
follows the object. -/
inductive ObjectPlaces :
    (first : Bool) → (input : Input) → List (String × Input) → (after : Input) → Prop where
  | close {first : Bool} {input after : Input} (ends : skipGap input = 0x7d :: after) :
    ObjectPlaces first input [] after
  | member {first : Bool} {input beyond place between after : Input} {key : String}
    {places : List (String × Input)} (next : NextKey first input (some key) beyond)
    (colon : expectColon beyond = .ok place) (skipped : Skipped place between)
    (later : ObjectPlaces false between places after) :
    ObjectPlaces first input ((key, place) :: places) after

theorem NextKey.length_lt {first : Bool} {input beyond place between : Input} {key : String}
    (next : NextKey first input (some key) beyond) (colon : expectColon beyond = .ok place)
    (skipped : Skipped place between) : between.length < input.length := by
  have opened := (local_nextKey _ _).length_le (nextKey_eq_ok_iff.mpr next)
  have parted := length_of_expectColon colon
  have consumed := skipped.length_lt
  omega

/-- A loop over the members of an object takes one step at each of their places. -/
theorem readMembers_iff_places {σ : Type}
    {member : σ → String → Input → Except Fault (σ × Input)}
    {step : σ → String × Input → σ → Prop}
    (takes : ∀ ⦃gathered key beyond next after⦄, member gathered key beyond = .ok (next, after) ↔
      ∃ place, expectColon beyond = .ok place ∧ Skipped place after ∧
        step gathered (key, place) next)
    {after : Input} {fuel : Nat} :
    ∀ {first : Bool} {gathered last : σ} {input : Input}, input.length < fuel →
      ((∃ rest, readMembers member fuel first gathered input = .ok (last, rest) ∧
        closeObject rest = .ok after) ↔
      ∃ places, ObjectPlaces first input places after ∧ Folds step gathered places last) := by
  induction fuel with
  | zero =>
    intro first gathered last input impossible
    exact absurd impossible (Nat.not_lt_zero _)
  | succ fuel inductionHypothesis =>
    intro first gathered last input enough
    constructor
    · rintro ⟨rest, read, closes⟩
      rcases readMembers_eq_ok_iff.mp read with
        ⟨next, rfl⟩ | ⟨key, beyond, following, between, next, taken, read⟩
      · exact ⟨[], .close (endsObject_iff.mp ⟨next, closes⟩).1, .nil _⟩
      · rcases takes.mp taken with ⟨place, colon, skipped, stepped⟩
        have opened := nextKey_eq_ok_iff.mp next
        have short := opened.length_lt colon skipped
        rcases (inductionHypothesis (by omega)).mp ⟨rest, read, closes⟩ with ⟨places, later, folds⟩
        exact ⟨(key, place) :: places, .member opened colon skipped later, .cons stepped folds⟩
    · rintro ⟨places, marks, folds⟩
      cases marks with
      | close ends =>
        cases folds
        rcases endsObject_iff.mpr ⟨ends, rfl⟩ with ⟨next, closes⟩
        exact ⟨_, readMembers_eq_ok_iff.mpr (Or.inl ⟨next, rfl⟩), closes⟩
      | @member _ _ beyond place between _ key places next colon skipped later =>
        cases folds with
        | @cons _ following _ _ _ stepped folds =>
          have short := next.length_lt colon skipped
          rcases (inductionHypothesis (by omega)).mpr ⟨places, later, folds⟩ with
            ⟨rest, read, closes⟩
          exact ⟨rest, readMembers_eq_ok_iff.mpr (Or.inr ⟨key, beyond, following, between,
            nextKey_eq_ok_iff.mpr next, takes.mpr ⟨place, colon, skipped, stepped⟩, read⟩), closes⟩

theorem folds_push_iff {α : Type} {items : List α} : ∀ {done last : List α},
    Folds (fun done item next => next = item :: done) done items last ↔
      last = items.reverse ++ done := by
  induction items with
  | nil =>
    intro done last
    constructor
    · intro folds
      cases folds
      rfl
    · rintro rfl
      exact .nil _
  | cons item items inductionHypothesis =>
    intro done last
    rw [List.reverse_cons, List.append_assoc]
    constructor
    · intro folds
      cases folds with
      | cons stepped folds =>
        subst stepped
        exact inductionHypothesis.mp folds
    · intro same
      exact .cons rfl (inductionHypothesis.mpr same)

/-- Marking finds the places of the members, the last one first. -/
theorem readMembers_markMember_iff {inner after : Input} {places : List (String × Input)} :
    (∃ rest, readMembers markMember (inner.length + 1) true [] inner = .ok (places.reverse, rest) ∧
      closeObject rest = .ok after) ↔ ObjectPlaces true inner places after := by
  have law : (∃ rest, readMembers markMember (inner.length + 1) true [] inner =
        .ok (places.reverse, rest) ∧ closeObject rest = .ok after) ↔
      ∃ found, ObjectPlaces true inner found after ∧
        Folds (fun done member next => next = member :: done) [] found places.reverse :=
    readMembers_iff_places (fun _ _ _ _ _ => markMember_eq_ok_iff) (Nat.lt_succ_self _)
  rw [law]
  constructor
  · rintro ⟨found, marks, folds⟩
    have same := folds_push_iff.mp folds
    rw [List.append_nil, List.reverse_inj] at same
    exact same ▸ marks
  · intro marks
    exact ⟨places, marks, folds_push_iff.mpr (List.append_nil _).symm⟩

theorem ObjectPlaces.unique {inner after last : Input} {places others : List (String × Input)}
    (marks : ObjectPlaces true inner places after) (again : ObjectPlaces true inner others last) :
    places = others ∧ after = last := by
  rcases readMembers_markMember_iff.mpr marks with ⟨rest, marking, closes⟩
  rcases readMembers_markMember_iff.mpr again with ⟨beyond, marked, closed⟩
  rcases Prod.mk.inj (Except.ok.inj (marking.symm.trans marked)) with ⟨same, rfl⟩
  exact ⟨List.reverse_injective same, Except.ok.inj (closes.symm.trans closed)⟩

/-- A member that is its colon and a value is taken by reading the value at its place. -/
theorem takes_of_reader {α σ : Type} {reader : Input → Except Fault (α × Input)}
    (skips : ∀ {place value after}, reader place = .ok (value, after) → Skipped place after)
    {combine : α → σ} {next : σ} {beyond after : Input} :
    (∃ place value, expectColon beyond = .ok place ∧ reader place = .ok (value, after) ∧
        next = combine value) ↔
      ∃ place, expectColon beyond = .ok place ∧ Skipped place after ∧
        ∃ value last, reader place = .ok (value, last) ∧ next = combine value := by
  constructor
  · rintro ⟨place, value, colon, read, same⟩
    exact ⟨place, colon, skips read, value, after, read, same⟩
  · rintro ⟨place, colon, skipped, value, last, read, same⟩
    obtain rfl : after = last := skipped.unique (skips read)
    exact ⟨place, value, colon, read, same⟩

/-! ## Trees -/

/-- The step of a reader of trees at one place. -/
def TreeStep (depth : Nat) (done : List (String × Tree)) (member : String × Input)
    (next : List (String × Tree)) : Prop :=
  ∃ tree last, Tree.read depth member.2 = .ok (tree, last) ∧ next = (member.1, tree) :: done

/-- A member of a tree has the key of a place, and its value is read there. -/
def ReadAt (depth : Nat) (place : String × Input) (member : String × Tree) : Prop :=
  member.1 = place.1 ∧ ∃ last, Tree.read depth place.2 = .ok (member.2, last)

theorem folds_treeStep_iff {depth : Nat} {places : List (String × Input)} :
    ∀ {done last : List (String × Tree)}, Folds (TreeStep depth) done places last ↔
      ∃ members, List.Forall₂ (ReadAt depth) places members ∧ last = members.reverse ++ done := by
  induction places with
  | nil =>
    intro done last
    constructor
    · intro folds
      cases folds
      exact ⟨[], .nil, rfl⟩
    · rintro ⟨members, each, rfl⟩
      cases each
      exact .nil _
  | cons place places inductionHypothesis =>
    intro done last
    constructor
    · intro folds
      cases folds with
      | cons stepped folds =>
        rcases stepped with ⟨tree, beyond, read, rfl⟩
        rcases inductionHypothesis.mp folds with ⟨members, each, rfl⟩
        refine ⟨(place.1, tree) :: members, .cons ⟨rfl, beyond, read⟩ each, ?_⟩
        rw [List.reverse_cons, List.append_assoc]
        rfl
    · rintro ⟨members, each, rfl⟩
      cases each with
      | cons first each =>
        rename_i member members
        rcases member with ⟨key, tree⟩
        rcases first with ⟨same, beyond, read⟩
        refine .cons ⟨tree, beyond, read, rfl⟩ (inductionHypothesis.mpr ⟨members, each, ?_⟩)
        rw [← same, List.reverse_cons, List.append_assoc]
        rfl

theorem Tree.read_list_iff_places {depth : Nat} {input after : Input} {items : List Tree} :
    Tree.read depth input = .ok (.list items, after) ↔
      ∃ inner below places, skipGap input = 0x5b :: inner ∧ depth = below + 1 ∧
        ListPlaces true inner places after ∧
        List.Forall₂ (fun place item => ∃ last, Tree.read below place = .ok (item, last))
          places items := by
  rw [Tree.read_eq_ok_iff]
  constructor
  · intro view
    cases view with
    | @list below _ inner _ _ _ starts elements closes =>
      rcases (readList_iff_places skipped_of_readTree).mp
        (readList_eq_ok_iff.mpr ⟨_, elements, closes⟩) with ⟨places, marking, each⟩
      exact ⟨inner, below, places, starts, rfl, marking, each⟩
  · rintro ⟨inner, below, places, starts, rfl, marking, each⟩
    rcases readList_eq_ok_iff.mp
      ((readList_iff_places skipped_of_readTree).mpr ⟨places, marking, each⟩) with
      ⟨rest, elements, closes⟩
    exact .list starts elements closes

theorem Tree.read_object_iff_places {depth : Nat} {input after : Input}
    {members : List (String × Tree)} :
    Tree.read depth input = .ok (.object members, after) ↔
      ∃ inner below places, skipGap input = 0x7b :: inner ∧ depth = below + 1 ∧
        ObjectPlaces true inner places after ∧ List.Forall₂ (ReadAt below) places members := by
  have law : ∀ {inner below} {gathered : List (String × Tree)},
      (∃ rest, readMembers (readTreeMember below) (inner.length + 1) true [] inner =
        .ok (gathered, rest) ∧ closeObject rest = .ok after) ↔
      ∃ places, ObjectPlaces true inner places after ∧ Folds (TreeStep below) [] places gathered :=
    readMembers_iff_places
      (fun _ _ _ _ _ => readTreeMember_eq_ok_iff.trans (takes_of_reader skipped_of_readTree))
      (Nat.lt_succ_self _)
  rw [Tree.read_eq_ok_iff]
  constructor
  · intro view
    cases view with
    | @object below _ inner _ _ _ starts gathered closes =>
      rcases law.mp ⟨_, gathered, closes⟩ with ⟨places, marks, folds⟩
      rcases folds_treeStep_iff.mp folds with ⟨members, each, rfl⟩
      refine ⟨inner, below, places, starts, rfl, marks, ?_⟩
      rw [List.append_nil, List.reverse_reverse]
      exact each
  · rintro ⟨inner, below, places, starts, rfl, marks, each⟩
    rcases law.mpr ⟨places, marks, folds_treeStep_iff.mpr ⟨members, each, rfl⟩⟩ with
      ⟨rest, gathered, closes⟩
    have view := ReadsTree.object starts gathered closes
    rw [List.append_nil, List.reverse_reverse] at view
    exact view

/-- A tree that is read with some levels left is read with more of them. -/
theorem Tree.read_deeper {below : Nat} : ∀ {depth : Nat} {input after : Input} {tree : Tree},
    below ≤ depth → Tree.read below input = .ok (tree, after) →
      Tree.read depth input = .ok (tree, after) := by
  induction below using Nat.strongRecOn with
  | ind below inductionHypothesis =>
    intro depth input after tree lower read
    cases Tree.read_eq_ok_iff.mp read with
    | null starts word => exact Tree.read_eq_ok_iff.mpr (.null starts word)
    | yes starts word => exact Tree.read_eq_ok_iff.mpr (.yes starts word)
    | no starts word => exact Tree.read_eq_ok_iff.mpr (.no starts word)
    | text starts quoted => exact Tree.read_eq_ok_iff.mpr (.text starts quoted)
    | number starts begins numeral => exact Tree.read_eq_ok_iff.mpr (.number starts begins numeral)
    | @list below =>
      rcases exists_level lower with ⟨depth, rfl, fits⟩
      rcases Tree.read_list_iff_places.mp read with ⟨inner, _, places, starts, same, marking, each⟩
      cases same
      refine Tree.read_list_iff_places.mpr ⟨inner, depth, places, starts, rfl, marking, ?_⟩
      exact each.imp fun _ _ held => held.imp fun _ => inductionHypothesis below (Nat.lt_succ_self below) fits
    | @object below =>
      rcases exists_level lower with ⟨depth, rfl, fits⟩
      rcases Tree.read_object_iff_places.mp read with ⟨inner, _, places, starts, same, marks, each⟩
      cases same
      refine Tree.read_object_iff_places.mpr ⟨inner, depth, places, starts, rfl, marks, ?_⟩
      exact each.imp fun _ _ held => held.imp_right
        (Exists.imp fun _ => inductionHypothesis below (Nat.lt_succ_self below) fits)

/-! ## Values of a shape -/

theorem Shape.read_list_iff_places {item : Shape} {depth : Nat} {input after : Input}
    {values : List item.Value} :
    (Shape.list item).read depth input = .ok (values, after) ↔
      ∃ inner below places, skipGap input = 0x5b :: inner ∧ depth = below + 1 ∧
        ListPlaces true inner places after ∧
        List.Forall₂ (fun place value => ∃ last, item.read below place = .ok (value, last))
          places values := by
  rw [Shape.read_list_eq_ok_iff]
  constructor
  · rintro ⟨inner, below, starts, room, elements⟩
    rcases (readList_iff_places (Shape.skipped_of_read item)).mp elements with
      ⟨places, marking, each⟩
    exact ⟨inner, below, places, starts, room, marking, each⟩
  · rintro ⟨inner, below, places, starts, room, marking, each⟩
    exact ⟨inner, below, starts, room,
      (readList_iff_places (Shape.skipped_of_read item)).mpr ⟨places, marking, each⟩⟩

/-- The step of a reader of dictionaries at one place. -/
def EntryStep (entry : Shape) (depth : Nat) (entries : Dictionary entry.Value)
    (member : String × Input) (next : Dictionary entry.Value) : Prop :=
  ∃ value last, entry.read depth member.2 = .ok (value, last) ∧
    next = entries.insert member.1 value

theorem Shape.read_dictionary_iff_places {entry : Shape} {depth : Nat} {input after : Input}
    {entries : Dictionary entry.Value} :
    (Shape.dictionary entry).read depth input = .ok (entries, after) ↔
      ∃ inner below places, skipGap input = 0x7b :: inner ∧ depth = below + 1 ∧
        ObjectPlaces true inner places after ∧
          Folds (EntryStep entry below) Dictionary.empty places entries := by
  have law : ∀ {inner below},
      (∃ rest, readMembers (readEntry entry below) (inner.length + 1) true Dictionary.empty inner =
        .ok (entries, rest) ∧ closeObject rest = .ok after) ↔
      ∃ places, ObjectPlaces true inner places after ∧
        Folds (EntryStep entry below) Dictionary.empty places entries :=
    readMembers_iff_places
      (fun _ _ _ _ _ => readEntry_eq_ok_iff.trans (takes_of_reader (Shape.skipped_of_read entry)))
      (Nat.lt_succ_self _)
  rw [Shape.read_dictionary_eq_ok_iff]
  constructor
  · rintro ⟨inner, below, rest, starts, room, gathered, closes⟩
    rcases law.mp ⟨rest, gathered, closes⟩ with ⟨places, marks, folds⟩
    exact ⟨inner, below, places, starts, room, marks, folds⟩
  · rintro ⟨inner, below, places, starts, room, marks, folds⟩
    rcases law.mpr ⟨places, marks, folds⟩ with ⟨rest, gathered, closes⟩
    exact ⟨inner, below, rest, starts, room, gathered, closes⟩

/-- What becomes of a member does not depend on what stands before its value. -/
theorem Fields.placeMember_of_colon {place : Input} : (fields : Fields) → {depth : Nat} →
    {slots next : fields.Slots} → {key : String} → {beyond other after : Input} →
      expectColon beyond = .ok place → expectColon other = .ok place →
        fields.placeMember depth slots key beyond = .ok (next, after) →
          fields.placeMember depth slots key other = .ok (next, after)
  | .nil, _, _, _, _, _, _, _, colon, again, placed => by
    rcases Fields.placeMember_nil_eq_ok_iff.mp placed with ⟨found, same, skipped, rfl⟩
    rw [colon] at same
    cases same
    exact Fields.placeMember_nil_eq_ok_iff.mpr ⟨place, again, skipped, rfl⟩
  | .cons key presence shape rest, _, _, _, _, _, _, _, colon, again, placed => by
    rcases Fields.placeMember_cons_eq_ok_iff.mp placed with
      ⟨own, fresh, found, value, same, read, rfl⟩ | ⟨different, others, later, rfl⟩
    · rw [colon] at same
      cases same
      exact Fields.placeMember_cons_eq_ok_iff.mpr
        (Or.inl ⟨own, fresh, place, value, again, read, rfl⟩)
    · have along := Fields.placeMember_of_colon rest colon again later
      exact Fields.placeMember_cons_eq_ok_iff.mpr (Or.inr ⟨different, others, along, rfl⟩)

/-- The step of a reader of records at one place. -/
def Fields.PlaceStep (fields : Fields) (depth : Nat) (slots : fields.Slots)
    (member : String × Input) (next : fields.Slots) : Prop :=
  ∃ last, fields.placeMember depth slots member.1 (0x3a :: member.2) = .ok (next, last)

theorem Fields.takes_placeMember {fields : Fields} {depth : Nat} {slots next : fields.Slots}
    {key : String} {beyond after : Input} :
    fields.placeMember depth slots key beyond = .ok (next, after) ↔
      ∃ place, expectColon beyond = .ok place ∧ Skipped place after ∧
        fields.PlaceStep depth slots (key, place) next := by
  constructor
  · intro placed
    rcases Fields.skipped_of_placeMember fields placed with ⟨place, colon, skipped⟩
    exact ⟨place, colon, skipped, after,
      Fields.placeMember_of_colon fields colon (expectColon_colon place) placed⟩
  · rintro ⟨place, colon, skipped, last, placed⟩
    rcases Fields.skipped_of_placeMember fields placed with ⟨found, same, ended⟩
    rw [expectColon_colon] at same
    cases same
    obtain rfl : after = last := skipped.unique ended
    exact Fields.placeMember_of_colon fields (expectColon_colon place) colon placed

/-- The fields of a record are read at the places of the elements of a list. -/
def Fields.ReadsPlaces (depth : Nat) : (fields : Fields) → List Input → fields.Value → Prop
  | .nil, places, _ => places = []
  | .cons _ presence shape rest, places, (value, values) =>
    match places with
    | place :: places =>
      (∃ last, shape.read depth place = .ok (value, last)) ∧ rest.ReadsPlaces depth places values
    | [] => presence ≠ .required ∧ value = shape.blank ∧ rest.ReadsPlaces depth [] values

theorem ListPlaces.of_close {first : Bool} {input behind after : Input} {places : List Input}
    (ends : skipGap input = 0x5d :: behind) (marks : ListPlaces first input places after) :
    places = [] ∧ behind = after := by
  cases marks with
  | close closes =>
    rw [ends] at closes
    cases closes
    exact ⟨rfl, rfl⟩
  | element next =>
    cases next with
    | opening _ starts different =>
      rw [ends] at starts
      exact absurd (List.cons.inj starts).1.symm different
    | comma _ starts =>
      rw [ends] at starts
      cases starts

/-- A record in the form of a list is read at the places of the elements. -/
theorem Fields.readElements_iff_places {title : String} {total : Nat} {after : Input} :
    (fields : Fields) → {depth : Nat} → (index : Nat) → {input : Input} → {values : fields.Value} →
      ((∃ rest, fields.readElements title total depth index input = .ok (values, rest) ∧
        closeList rest = .ok after) ↔
      ∃ places, ListPlaces (index == 0) input places after ∧ fields.ReadsPlaces depth places values)
  | .nil, _, _, _, _ => by
    constructor
    · rintro ⟨rest, read, closes⟩
      cases read
      exact ⟨[], .close (closeList_eq_ok_iff.mp closes), rfl⟩
    · rintro ⟨_, marks, rfl⟩
      cases marks with
      | close ends => exact ⟨_, rfl, closeList_eq_ok_iff.mpr ends⟩
  | .cons key presence shape rest, _, index, _, (value, values) => by
    constructor
    · rintro ⟨last, read, closes⟩
      rcases Fields.readElements_cons_eq_ok_iff.mp read with
        ⟨place, found, between, others, next, element, read, same⟩ |
        ⟨place, others, next, optional, read, same⟩
      · cases same
        rcases (Fields.readElements_iff_places rest (index + 1)).mp ⟨last, read, closes⟩ with
          ⟨places, later, each⟩
        exact ⟨place :: places, .element (nextElement_eq_ok_iff.mp next)
          (Shape.skipped_of_read shape element) later, ⟨between, element⟩, each⟩
      · cases same
        rcases (Fields.readElements_iff_places rest (index + 1)).mp ⟨last, read, closes⟩ with
          ⟨places, later, each⟩
        cases nextElement_eq_ok_iff.mp next with
        | close ends =>
          rcases later.of_close (skipGap_cons (by decide) _) with ⟨rfl, rfl⟩
          exact ⟨[], .close ends, optional, rfl, each⟩
    · rintro ⟨_, marks, reads⟩
      cases marks with
      | close ends =>
        rcases reads with ⟨optional, rfl, each⟩
        rcases (Fields.readElements_iff_places rest (index + 1)).mpr
          ⟨[], .close (skipGap_cons (by decide) after), each⟩ with ⟨last, read, closes⟩
        exact ⟨last, Fields.readElements_cons_eq_ok_iff.mpr (Or.inr
          ⟨_, values, nextElement_eq_ok_iff.mpr (.close ends), optional, read, rfl⟩), closes⟩
      | @element _ _ place between _ places next skipped later =>
        rcases reads with ⟨⟨beyond, element⟩, each⟩
        obtain rfl : between = beyond := skipped.unique (Shape.skipped_of_read shape element)
        rcases (Fields.readElements_iff_places rest (index + 1)).mpr ⟨places, later, each⟩ with
          ⟨last, read, closes⟩
        exact ⟨last, Fields.readElements_cons_eq_ok_iff.mpr (Or.inl ⟨place, value, between, values,
          nextElement_eq_ok_iff.mpr next, element, read, rfl⟩), closes⟩

theorem Shape.read_record_iff_places {title : String} {fields : Fields} {depth : Nat}
    {input after : Input} {values : fields.Value} :
    (Shape.record title fields).read depth input = .ok (values, after) ↔
      (∃ inner below places slots, skipGap input = 0x7b :: inner ∧ depth = below + 1 ∧
        ObjectPlaces true inner places after ∧
        Folds (fields.PlaceStep below) fields.noSlots places slots ∧
          fields.fill slots = .ok values) ∨
      (∃ inner below places, skipGap input = 0x5b :: inner ∧ depth = below + 1 ∧
        ListPlaces true inner places after ∧
          fields.ReadsPlaces below places values) := by
  have objects : ∀ {inner below slots},
      (∃ rest, readMembers (fields.placeMember below) (inner.length + 1) true fields.noSlots inner =
        .ok (slots, rest) ∧ closeObject rest = .ok after) ↔
      ∃ places, ObjectPlaces true inner places after ∧
        Folds (fields.PlaceStep below) fields.noSlots places slots :=
    readMembers_iff_places (fun _ _ _ _ _ => Fields.takes_placeMember) (Nat.lt_succ_self _)
  rw [Shape.read_record_eq_ok_iff]
  constructor
  · intro view
    cases view with
    | @object below _ inner _ _ slots _ starts gathered filled closes =>
      rcases objects.mp ⟨_, gathered, closes⟩ with ⟨places, marks, folds⟩
      exact Or.inl ⟨inner, below, places, slots, starts, rfl, marks, folds, filled⟩
    | @list below _ inner _ _ _ starts elements closes =>
      rcases (Fields.readElements_iff_places fields 0).mp ⟨_, elements, closes⟩ with
        ⟨places, marks, reads⟩
      exact Or.inr ⟨inner, below, places, starts, rfl, marks, reads⟩
  · rintro (⟨inner, below, places, slots, starts, rfl, marks, folds, filled⟩ |
      ⟨inner, below, places, starts, rfl, marks, reads⟩)
    · rcases objects.mpr ⟨places, marks, folds⟩ with ⟨rest, gathered, closes⟩
      exact .object starts gathered filled closes
    · rcases (Fields.readElements_iff_places fields 0).mpr ⟨places, marks, reads⟩ with
        ⟨last, elements, closes⟩
      exact .list starts elements closes

end Json
end LendingGateway
