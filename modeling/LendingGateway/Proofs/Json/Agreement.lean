import LendingGateway.Proofs.Json.Places

namespace LendingGateway
namespace Json

open Traversal

/-!
# The direct reader and the reader of trees

A value is read directly, or its tree is read and the value is taken out of the tree.  Where
there is a tree, the two ways agree, with one exception: beside the name of a choice the
direct reader wants null, while an empty object does as well in a tree.
-/

/-! ## Predicates on shapes and trees -/

mutual

/-- Whether no part of a value is told apart by a tag. -/
def Shape.untagged : Shape → Bool
  | .text | .real | .int64 | .nat64 | .choice _ _ => true
  | .optional inner => inner.untagged
  | .list item => item.untagged
  | .dictionary entry => entry.untagged
  | .record _ fields => fields.untagged
  | .tagged _ _ _ => false

def Fields.untagged : Fields → Bool
  | .nil => true
  | .cons _ _ shape rest => shape.untagged && rest.untagged

end

mutual

/-- Whether no name of a choice stands beside an empty object in a tree. -/
def Shape.plain : Shape → Tree → Bool
  | .text, _ | .real, _ | .int64, _ | .nat64, _ | .tagged _ _ _, _ => true
  | .optional inner, tree => inner.plain tree
  | .list item, tree =>
    match tree with
    | .list items => items.all item.plain
    | _ => true
  | .choice _ _, tree =>
    match tree with
    | .object [(_, .object [])] => false
    | _ => true
  | .dictionary entry, tree =>
    match tree with
    | .object members => members.all fun member => entry.plain member.2
    | _ => true
  | .record _ fields, tree =>
    match tree with
    | .object members => members.all fun member => fields.plainMember member.1 member.2
    | .list items => fields.plainItems items
    | _ => true

def Fields.plainMember : Fields → String → Tree → Bool
  | .nil, _, _ => true
  | .cons key _ shape rest, name, tree =>
    if name = key then shape.plain tree else rest.plainMember name tree

def Fields.plainItems : Fields → List Tree → Bool
  | .nil, _ => true
  | .cons _ _ shape rest, items =>
    match items with
    | item :: items => shape.plain item && rest.plainItems items
    | [] => true

end

/-! ## The tree at the front of an input -/

section View

variable {depth : Nat} {input after rest : Input} {tree : Tree}

theorem ReadsTree.eq_text (view : ReadsTree depth input after tree)
    (starts : skipGap input = 0x22 :: rest) :
    ∃ text, tree = .text text ∧ readText rest = .ok (text, after) := by
  cases view with
  | text same quoted =>
    rw [starts] at same
    cases same
    exact ⟨_, rfl, quoted⟩
  | number same begins =>
    rw [starts] at same
    cases same
    exact absurd rfl (number_head begins).2.1
  | null same | yes same | no same | list same | object same =>
    rw [starts] at same
    cases same

theorem ReadsTree.eq_number {octet : UInt8} (view : ReadsTree depth input after tree)
    (starts : skipGap input = octet :: rest) (begins : octet = 0x2d ∨ isDigit octet = true) :
    ∃ number, tree = .number number ∧ readNumeral (octet :: rest) = .ok (number, after) := by
  rcases number_head begins with ⟨_, notQuote, notList, _, notFalse, notNull, notTrue, notObject⟩
  cases view with
  | number same _ numeral =>
    rw [starts] at same
    cases same
    exact ⟨_, rfl, numeral⟩
  | text same =>
    rw [starts] at same
    exact absurd (List.cons.inj same).1 notQuote
  | null same =>
    rw [starts] at same
    exact absurd (List.cons.inj same).1 notNull
  | yes same =>
    rw [starts] at same
    exact absurd (List.cons.inj same).1 notTrue
  | no same =>
    rw [starts] at same
    exact absurd (List.cons.inj same).1 notFalse
  | list same =>
    rw [starts] at same
    exact absurd (List.cons.inj same).1 notList
  | object same =>
    rw [starts] at same
    exact absurd (List.cons.inj same).1 notObject

theorem ReadsTree.eq_null (view : ReadsTree depth input after tree)
    (starts : skipGap input = 0x6e :: rest) : tree = .null := by
  cases view with
  | null => rfl
  | number same begins =>
    rw [starts] at same
    cases same
    exact absurd rfl (number_head begins).2.2.2.2.2.1
  | text same | yes same | no same | list same | object same =>
    rw [starts] at same
    cases same

theorem ReadsTree.eq_list (view : ReadsTree depth input after tree)
    (starts : skipGap input = 0x5b :: rest) : ∃ items, tree = .list items := by
  cases view with
  | list => exact ⟨_, rfl⟩
  | number same begins =>
    rw [starts] at same
    cases same
    exact absurd rfl (number_head begins).2.2.1
  | null same | text same | yes same | no same | object same =>
    rw [starts] at same
    cases same

theorem ReadsTree.eq_object (view : ReadsTree depth input after tree)
    (starts : skipGap input = 0x7b :: rest) : ∃ members, tree = .object members := by
  cases view with
  | object => exact ⟨_, rfl⟩
  | number same begins =>
    rw [starts] at same
    cases same
    exact absurd rfl (number_head begins).2.2.2.2.2.2.2
  | null same | text same | yes same | no same | list same =>
    rw [starts] at same
    cases same

/-- The items of a tree stand at the places of the elements. -/
theorem Tree.items_of_read {inner last : Input} {places : List Input}
    (read : Tree.read depth input = .ok (tree, after)) (starts : skipGap input = 0x5b :: inner)
    (marks : ListPlaces true inner places last) :
    ∃ items below, tree = .list items ∧ depth = below + 1 ∧
      List.Forall₂ (fun place item => ∃ last, Tree.read below place = .ok (item, last))
        places items := by
  rcases (Tree.read_eq_ok_iff.mp read).eq_list starts with ⟨items, rfl⟩
  rcases Tree.read_list_iff_places.mp read with ⟨found, below, others, same, level, marked, each⟩
  rw [starts] at same
  cases same
  rcases marks.unique marked with ⟨rfl, _⟩
  exact ⟨items, below, rfl, level, each⟩

/-- The members of a tree stand at the places of the members. -/
theorem Tree.members_of_read {inner last : Input} {places : List (String × Input)}
    (read : Tree.read depth input = .ok (tree, after)) (starts : skipGap input = 0x7b :: inner)
    (marks : ObjectPlaces true inner places last) :
    ∃ members below, tree = .object members ∧ depth = below + 1 ∧
      List.Forall₂ (ReadAt below) places members := by
  rcases (Tree.read_eq_ok_iff.mp read).eq_object starts with ⟨members, rfl⟩
  rcases Tree.read_object_iff_places.mp read with ⟨found, below, others, same, level, marked, each⟩
  rw [starts] at same
  cases same
  rcases marks.unique marked with ⟨rfl, _⟩
  exact ⟨members, below, rfl, level, each⟩

end View

/-! ## Walks along related lists -/

section Walks

variable {α β γ σ : Type}

theorem forall₂_iff_of_related {related : α → β → Prop} {first : α → γ → Prop}
    {second : β → γ → Prop} {items : List α} {others : List β}
    (each : List.Forall₂ related items others)
    (same : ∀ {item other}, related item other → ∀ value, first item value ↔ second other value) :
    ∀ {values : List γ}, List.Forall₂ first items values ↔ List.Forall₂ second others values := by
  induction each with
  | nil =>
    intro values
    rw [List.forall₂_nil_left_iff, List.forall₂_nil_left_iff]
  | cons connected _ inductionHypothesis =>
    intro values
    rw [List.forall₂_cons_left_iff, List.forall₂_cons_left_iff]
    simp only [same connected, inductionHypothesis]

theorem folds_iff_of_related {related : α → β → Prop} {first : σ → α → σ → Prop}
    {second : σ → β → σ → Prop} {items : List α} {others : List β}
    (each : List.Forall₂ related items others)
    (same : ∀ {item other}, related item other → ∀ state next,
      first state item next ↔ second state other next) :
    ∀ {state last : σ}, Folds first state items last ↔ Folds second state others last := by
  induction each with
  | nil =>
    intro state last
    constructor
    · intro folds
      cases folds
      exact .nil _
    · intro folds
      cases folds
      exact .nil _
  | cons connected _ inductionHypothesis =>
    intro state last
    constructor
    · intro folds
      cases folds with
      | cons stepped folds => exact .cons ((same connected _ _).mp stepped) (inductionHypothesis.mp folds)
    · intro folds
      cases folds with
      | cons stepped folds => exact .cons ((same connected _ _).mpr stepped) (inductionHypothesis.mpr folds)

/-- A walk by a function succeeds if every step does. -/
theorem folds_iff_foldlM {ε : Type} {step : σ → α → Except ε σ} {good : α → Prop} {items : List α} :
    ∀ {state last : σ},
      Folds (fun state item next => step state item = .ok next ∧ good item) state items last ↔
        items.foldlM step state = .ok last ∧ ∀ item ∈ items, good item := by
  induction items with
  | nil =>
    intro state last
    constructor
    · intro folds
      cases folds
      exact ⟨rfl, fun _ member => absurd member List.not_mem_nil⟩
    · rintro ⟨same, _⟩
      cases same
      exact .nil _
  | cons item items inductionHypothesis =>
    intro state last
    rw [List.foldlM_cons, List.forall_mem_cons]
    constructor
    · intro folds
      cases folds with
      | cons stepped folds =>
        rcases inductionHypothesis.mp folds with ⟨folded, good⟩
        exact ⟨bind_eq_ok_iff.mpr ⟨_, stepped.1, folded⟩, stepped.2, good⟩
    · rintro ⟨folded, here, good⟩
      rcases bind_eq_ok_iff.mp folded with ⟨next, stepped, folded⟩
      exact .cons ⟨stepped, here⟩ (inductionHypothesis.mpr ⟨folded, good⟩)

theorem Folds.exists_step {step : σ → α → σ → Prop} {state last : σ} {items : List α}
    (folds : Folds step state items last) : ∀ item ∈ items, ∃ before next, step before item next := by
  induction folds with
  | nil => exact fun _ member => absurd member List.not_mem_nil
  | cons stepped _ inductionHypothesis =>
    rw [List.forall_mem_cons]
    exact ⟨⟨_, _, stepped⟩, inductionHypothesis⟩

theorem forall_mem_exists_iff {related : α → β → Prop} {items : List α} :
    (∀ item ∈ items, ∃ other, related item other) ↔ ∃ others, List.Forall₂ related items others := by
  induction items with
  | nil => exact ⟨fun _ => ⟨[], .nil⟩, fun _ _ member => absurd member List.not_mem_nil⟩
  | cons item items inductionHypothesis =>
    rw [List.forall_mem_cons, inductionHypothesis]
    constructor
    · rintro ⟨⟨other, connected⟩, others, each⟩
      exact ⟨other :: others, .cons connected each⟩
    · rintro ⟨_, each⟩
      cases each with
      | cons connected each => exact ⟨⟨_, connected⟩, _, each⟩

end Walks

/-! ## Choices -/

/-- A choice is read from a text, or from an object with null as its only member. -/
theorem readsChoice_iff_places {first : String} {others : List String} {depth : Nat}
    {input after : Input} {position : Fin (others.length + 1)} :
    ReadsChoice first others depth input after position ↔
      (∃ rest name, skipGap input = 0x22 :: rest ∧ readText rest = .ok (name, after) ∧
        chooseName first others name = .ok position) ∨
      (∃ inner name place word last, skipGap input = 0x7b :: inner ∧ depth ≠ 0 ∧
        ObjectPlaces true inner [(name, place)] after ∧ skipGap place = 0x6e :: word ∧
          expectText "ull" word = .ok last ∧ chooseName first others name = .ok position) := by
  constructor
  · intro view
    cases view with
    | @name rest name starts text chosen => exact Or.inl ⟨rest, name, starts, text, chosen⟩
    | @object inner beyond place word last name starts room key chosen colon null met closes =>
      rcases readString_eq_ok_iff.mp key with ⟨quoted, opening, text⟩
      refine Or.inr ⟨inner, name, place, word, last, starts, room, ?_, null, met, chosen⟩
      exact .member (.opening rfl opening text) colon (skipped_word null (by decide) met)
        (.close (closeObject_eq_ok_iff.mp closes))
  · rintro (⟨rest, name, starts, text, chosen⟩ |
      ⟨inner, name, place, word, last, starts, room, marks, null, met, chosen⟩)
    · exact .name starts text chosen
    · cases marks with
      | member opened colon skipped later =>
        cases later with
        | close ends =>
          obtain rfl := skipped.unique (skipped_word null (by decide) met)
          cases opened with
          | comma impossible => cases impossible
          | opening _ opening text =>
            exact .object starts room (readString_eq_ok_iff.mpr ⟨_, opening, text⟩) chosen colon
              null met (closeObject_eq_ok_iff.mpr ends)

/-! ## Agreement -/

theorem Shape.plain_null : (shape : Shape) → shape.plain .null = true
  | .text | .real | .int64 | .nat64 | .list _ | .choice _ _ | .dictionary _ | .record _ _
  | .tagged _ _ _ => rfl
  | .optional inner => Shape.plain_null inner

theorem Fields.plainItems_nil (fields : Fields) : fields.plainItems [] = true := by
  cases fields <;> rfl

/-- Where there is a tree, a value is read directly exactly if it is the value of the tree
and the tree is plain. -/
def Shape.Agrees (shape : Shape) (below depth : Nat) : Prop :=
  ∀ ⦃input after : Input⦄ ⦃tree : Tree⦄, Tree.read below input = .ok (tree, after) →
    ∀ value, (∃ last, shape.read depth input = .ok (value, last)) ↔
      shape.ofTree tree = .ok value ∧ shape.plain tree = true

/-- The same of one member of a record. -/
def Fields.AgreesMember (fields : Fields) (below depth : Nat) : Prop :=
  ∀ ⦃place after : Input⦄ ⦃tree : Tree⦄, Tree.read below place = .ok (tree, after) →
    ∀ name slots next, fields.PlaceStep depth slots (name, place) next ↔
      fields.placeTree name tree slots = .ok next ∧ fields.plainMember name tree = true

/-- The same of the elements of a list that gives the fields of a record. -/
def Fields.AgreesItems (fields : Fields) (below depth : Nat) : Prop :=
  ∀ ⦃places : List Input⦄ ⦃items : List Tree⦄,
    List.Forall₂ (fun place item => ∃ last, Tree.read below place = .ok (item, last))
      places items →
    ∀ title total index values, fields.ReadsPlaces depth places values ↔
      fields.ofItems title total index items = .ok values ∧ fields.plainItems items = true

theorem Shape.agrees_text (below depth : Nat) : Shape.text.Agrees below depth := by
  intro input after tree read text
  have view := Tree.read_eq_ok_iff.mp read
  change (∃ last, here (readString .text input) = .ok (text, last)) ↔ _
  simp only [here_eq_ok_iff]
  constructor
  · rintro ⟨last, read⟩
    rcases readString_eq_ok_iff.mp read with ⟨rest, starts, quoted⟩
    rcases view.eq_text starts with ⟨found, rfl, same⟩
    rw [quoted] at same
    cases same
    exact ⟨rfl, rfl⟩
  · rintro ⟨held, _⟩
    cases view with
    | text starts quoted =>
      cases held
      exact ⟨after, readString_eq_ok_iff.mpr ⟨_, starts, quoted⟩⟩
    | null | yes | no | number | list | object => cases held

theorem reads_number_iff {depth : Nat} {input after : Input} {tree : Tree} {α : Type}
    (view : ReadsTree depth input after tree) (wanted : Wanted)
    (convert : Numeral → Except Cause α) (value : α) :
    (∃ last, here (readNumber wanted convert input) = .ok (value, last)) ↔
      ∃ number, tree = .number number ∧ convert number = .ok value := by
  simp only [here_eq_ok_iff]
  constructor
  · rintro ⟨last, read⟩
    rcases readNumber_eq_ok_iff.mp read with
      ⟨octet, rest, number, starts, begins, numeral, meant⟩
    rcases view.eq_number starts begins with ⟨found, rfl, same⟩
    rw [numeral] at same
    cases same
    exact ⟨number, rfl, meant⟩
  · rintro ⟨number, rfl, meant⟩
    cases view with
    | number starts begins numeral =>
      exact ⟨after, readNumber_eq_ok_iff.mpr ⟨_, _, _, starts, begins, numeral, meant⟩⟩

theorem ofTree_number_iff {α : Type} (tree : Tree) (convert : Numeral → Except Cause α)
    (other : Tree → Cause) (value : α) :
    (match tree with
      | .number number => convert number
      | _ => .error (other tree)) = .ok value ↔
      ∃ number, tree = .number number ∧ convert number = .ok value := by
  constructor
  · intro held
    cases tree with
    | number number => exact ⟨number, rfl, held⟩
    | null | boolean | text | list | object => cases held
  · rintro ⟨number, rfl, meant⟩
    exact meant

theorem Shape.agrees_real (below depth : Nat) : Shape.real.Agrees below depth := by
  intro input after tree read value
  have held := ofTree_number_iff tree (fun number => .ok number.toReal)
    (fun tree => .wrongType tree.found .real) value
  exact (reads_number_iff (Tree.read_eq_ok_iff.mp read) .real _ value).trans
    (held.symm.trans (and_iff_left rfl).symm)

theorem Shape.agrees_int64 (below depth : Nat) : Shape.int64.Agrees below depth := by
  intro input after tree read value
  have held := ofTree_number_iff tree Numeral.toInt64
    (fun tree => .wrongType tree.found .int64) value
  exact (reads_number_iff (Tree.read_eq_ok_iff.mp read) .int64 _ value).trans
    (held.symm.trans (and_iff_left rfl).symm)

theorem Shape.agrees_nat64 (below depth : Nat) : Shape.nat64.Agrees below depth := by
  intro input after tree read value
  have held := ofTree_number_iff tree Numeral.toUInt64
    (fun tree => .wrongType tree.found .nat64) value
  exact (reads_number_iff (Tree.read_eq_ok_iff.mp read) .nat64 _ value).trans
    (held.symm.trans (and_iff_left rfl).symm)

theorem Shape.agrees_optional {inner : Shape} {below depth : Nat}
    (agrees : inner.Agrees below depth) : (Shape.optional inner).Agrees below depth := by
  intro input after tree read held
  have view := Tree.read_eq_ok_iff.mp read
  have taken : tree ≠ .null → ((Shape.optional inner).ofTree tree = .ok held ↔
      ∃ value, inner.ofTree tree = .ok value ∧ held = some value) := by
    intro present
    rw [Shape.ofTree_optional present, bind_eq_ok_iff]
    exact exists_congr fun value => and_congr_right fun _ =>
      ⟨fun same => (Except.ok.inj same).symm, fun same => congrArg Except.ok same.symm⟩
  constructor
  · rintro ⟨last, direct⟩
    rcases Shape.read_optional_eq_ok_iff.mp direct with
      ⟨rest, starts, _, rfl⟩ | ⟨present, value, within, rfl⟩
    · rw [view.eq_null starts]
      exact ⟨rfl, Shape.plain_null inner⟩
    · have there : tree ≠ .null := by
        rintro rfl
        cases view with
        | null starts => exact present (starts ▸ rfl)
      rcases (agrees read value).mp ⟨last, within⟩ with ⟨own, plain⟩
      exact ⟨(taken there).mpr ⟨value, own, rfl⟩, plain⟩
  · rintro ⟨own, plain⟩
    by_cases there : tree = .null
    · subst there
      cases own
      cases view with
      | null starts word =>
        exact ⟨after, Shape.read_optional_eq_ok_iff.mpr (Or.inl ⟨_, starts, word, rfl⟩)⟩
    · rcases (taken there).mp own with ⟨value, within, rfl⟩
      rcases (agrees read value).mpr ⟨within, plain⟩ with ⟨last, direct⟩
      refine ⟨last, Shape.read_optional_eq_ok_iff.mpr (Or.inr ⟨?_, value, direct, rfl⟩)⟩
      intro letter
      rcases List.head?_eq_some_iff.mp letter with ⟨rest, starts⟩
      exact there (view.eq_null starts)

theorem Shape.agrees_list {item : Shape} {below depth : Nat}
    (agrees : ∀ lower upper, lower ≤ upper → item.Agrees lower upper) (lower : below ≤ depth) :
    (Shape.list item).Agrees below depth := by
  intro input after tree read values
  have taken : ∀ {items : List Tree} {places : List Input} {inside outside : Nat},
      inside ≤ outside →
      List.Forall₂ (fun place item => ∃ last, Tree.read inside place = .ok (item, last))
        places items →
      (List.Forall₂ (fun place value => ∃ last, item.read outside place = .ok (value, last))
          places values ↔
        (Shape.list item).ofTree (.list items) = .ok values ∧
          (Shape.list item).plain (.list items) = true) := by
    intro items places inside outside fits each
    rw [forall₂_iff_of_related each fun {place tree} connected value =>
      agrees inside outside fits connected.choose_spec value]
    change _ ↔ items.mapM item.ofTree = .ok values ∧ items.all item.plain = true
    rw [mapM_eq_ok_iff, List.all_eq_true, and_comm, ← List.forall₂_and_left]
    simp only [and_comm]
  constructor
  · rintro ⟨last, direct⟩
    rcases Shape.read_list_iff_places.mp direct with
      ⟨inner, outside, places, starts, rfl, marks, each⟩
    rcases Tree.items_of_read read starts marks with ⟨items, inside, rfl, rfl, trees⟩
    exact (taken (Nat.le_of_succ_le_succ lower) trees).mp each
  · rintro ⟨own, plain⟩
    cases tree with
    | list items =>
      rcases Tree.read_list_iff_places.mp read with
        ⟨inner, inside, places, starts, rfl, marks, trees⟩
      rcases exists_level lower with ⟨outside, rfl, fits⟩
      exact ⟨after, Shape.read_list_iff_places.mpr ⟨inner, outside, places, starts, rfl, marks,
        (taken fits trees).mpr ⟨own, plain⟩⟩⟩
    | null | boolean | number | text | object => cases own

theorem Shape.agrees_choice (first : String) (others : List String) {below depth : Nat}
    (lower : below ≤ depth) : (Shape.choice first others).Agrees below depth := by
  intro input after tree read position
  have view := Tree.read_eq_ok_iff.mp read
  change (∃ last, here (readChoice first others depth input) = .ok (position, last)) ↔ _
  simp only [here_eq_ok_iff, readChoice_eq_ok_iff, readsChoice_iff_places]
  constructor
  · rintro ⟨last, ⟨rest, name, starts, text, chosen⟩ |
      ⟨inner, name, place, word, ended, starts, room, marks, null, met, chosen⟩⟩
    · rcases view.eq_text starts with ⟨found, rfl, same⟩
      rw [text] at same
      cases same
      exact ⟨chosen, rfl⟩
    · rcases Tree.members_of_read read starts marks with ⟨members, inside, rfl, rfl, each⟩
      rcases List.forall₂_cons_left_iff.mp each with ⟨⟨key, value⟩, others, ⟨rfl, ended, held⟩, none, rfl⟩
      cases none
      obtain rfl : value = .null := (Tree.read_eq_ok_iff.mp held).eq_null null
      refine ⟨?_, rfl⟩
      exact bind_eq_ok_iff.mpr ⟨position, chosen, rfl⟩
  · rintro ⟨own, plain⟩
    cases tree with
    | text name =>
      cases view with
      | text starts quoted => exact ⟨after, Or.inl ⟨_, name, starts, quoted, own⟩⟩
    | object members =>
      rcases Tree.read_object_iff_places.mp read with
        ⟨inner, inside, places, starts, rfl, marks, each⟩
      have room : depth ≠ 0 := Nat.ne_of_gt (Nat.lt_of_lt_of_le (Nat.succ_pos inside) lower)
      cases each with
      | nil => cases own
      | @cons place member places members connected each =>
        cases each with
        | cons => cases own
        | nil =>
          rcases place with ⟨key, place⟩
          rcases member with ⟨name, value⟩
          rcases connected with ⟨rfl, ended, held⟩
          rcases bind_eq_ok_iff.mp own with ⟨found, chosen, own⟩
          rcases bind_eq_ok_iff.mp own with ⟨_, unit, done⟩
          cases done
          cases Tree.read_eq_ok_iff.mp held with
          | null null met =>
            exact ⟨after, Or.inr ⟨inner, name, place, _, ended, starts, room, marks, null, met,
              chosen⟩⟩
          | @object _ _ _ _ _ members =>
            generalize members.reverse = held at unit plain
            cases held with
            | nil => cases plain
            | cons => cases unit
          | text | yes | no | number | list => cases unit
    | null | boolean | number | list => cases own

/-- A walk along the members of a tree and one along their places take the same steps. -/
theorem folds_iff_of_readAt {σ : Type} {inside : Nat} {step : σ → String × Input → σ → Prop}
    {stepTree : σ → String × Tree → Except Cause σ} {plain : String × Tree → Bool}
    (stepped : ∀ ⦃place after : Input⦄ ⦃tree : Tree⦄, Tree.read inside place = .ok (tree, after) →
      ∀ name before next, step before (name, place) next ↔
        stepTree before (name, tree) = .ok next ∧ plain (name, tree) = true)
    {places : List (String × Input)} {members : List (String × Tree)}
    (each : List.Forall₂ (ReadAt inside) places members) {state last : σ} :
    Folds step state places last ↔
      members.foldlM stepTree state = .ok last ∧ members.all plain = true := by
  have related : ∀ {place : String × Input} {member : String × Tree},
      ReadAt inside place member → ∀ before next,
        step before place next ↔ stepTree before member = .ok next ∧ plain member = true := by
    rintro ⟨key, place⟩ ⟨name, tree⟩ ⟨rfl, ended, held⟩ before next
    exact stepped held name before next
  rw [folds_iff_of_related each related, folds_iff_foldlM, List.all_eq_true]

theorem Shape.entryStep_iff {entry : Shape} {inside outside : Nat}
    (agrees : entry.Agrees inside outside) ⦃place after : Input⦄ ⦃tree : Tree⦄
    (read : Tree.read inside place = .ok (tree, after)) (name : String)
    (before next : Dictionary entry.Value) :
    EntryStep entry outside before (name, place) next ↔
      insertTree entry before (name, tree) = .ok next ∧ entry.plain tree = true := by
  constructor
  · rintro ⟨value, last, direct, rfl⟩
    rcases (agrees read value).mp ⟨last, direct⟩ with ⟨own, plain⟩
    exact ⟨bind_eq_ok_iff.mpr ⟨value, own, rfl⟩, plain⟩
  · rintro ⟨inserted, plain⟩
    rcases bind_eq_ok_iff.mp inserted with ⟨value, own, done⟩
    cases done
    rcases (agrees read value).mpr ⟨own, plain⟩ with ⟨last, direct⟩
    exact ⟨value, last, direct, rfl⟩

theorem Shape.agrees_dictionary {entry : Shape} {below depth : Nat}
    (agrees : ∀ lower upper, lower ≤ upper → entry.Agrees lower upper) (lower : below ≤ depth) :
    (Shape.dictionary entry).Agrees below depth := by
  intro input after tree read entries
  have folded : ∀ {members : List (String × Tree)} {places : List (String × Input)}
      {inside outside : Nat}, inside ≤ outside → List.Forall₂ (ReadAt inside) places members →
      (Folds (EntryStep entry outside) Dictionary.empty places entries ↔
        (Shape.dictionary entry).ofTree (.object members) = .ok entries ∧
          (Shape.dictionary entry).plain (.object members) = true) :=
    fun fits each => folds_iff_of_readAt (Shape.entryStep_iff (agrees _ _ fits)) each
  constructor
  · rintro ⟨last, direct⟩
    rcases Shape.read_dictionary_iff_places.mp direct with
      ⟨inner, outside, places, starts, rfl, marks, folds⟩
    rcases Tree.members_of_read read starts marks with ⟨members, inside, rfl, rfl, each⟩
    exact (folded (Nat.le_of_succ_le_succ lower) each).mp folds
  · rintro ⟨own, plain⟩
    cases tree with
    | object members =>
      rcases Tree.read_object_iff_places.mp read with
        ⟨inner, inside, places, starts, rfl, marks, each⟩
      rcases exists_level lower with ⟨outside, rfl, fits⟩
      exact ⟨after, Shape.read_dictionary_iff_places.mpr ⟨inner, outside, places, starts, rfl,
        marks, (folded fits each).mpr ⟨own, plain⟩⟩⟩
    | null | boolean | number | text | list => cases own

theorem Shape.agrees_record {title : String} {fields : Fields} {below depth : Nat}
    (member : ∀ lower upper, lower ≤ upper → fields.AgreesMember lower upper)
    (items : ∀ lower upper, lower ≤ upper → fields.AgreesItems lower upper)
    (lower : below ≤ depth) : (Shape.record title fields).Agrees below depth := by
  intro input after tree read values
  have folded : ∀ {members : List (String × Tree)} {places : List (String × Input)}
      {inside outside : Nat}, inside ≤ outside → List.Forall₂ (ReadAt inside) places members →
      ∀ slots, (Folds (fields.PlaceStep outside) fields.noSlots places slots ↔
        members.foldlM fields.stepTree fields.noSlots = .ok slots ∧
          (Shape.record title fields).plain (.object members) = true) := by
    intro members places inside outside fits each slots
    have stepped : ∀ ⦃place after : Input⦄ ⦃tree : Tree⦄,
        Tree.read inside place = .ok (tree, after) → ∀ name before next,
          fields.PlaceStep outside before (name, place) next ↔
            fields.stepTree before (name, tree) = .ok next ∧ fields.plainMember name tree = true :=
      member inside outside fits
    exact folds_iff_of_readAt stepped each
  constructor
  · rintro ⟨last, direct⟩
    rcases Shape.read_record_iff_places.mp direct with
      ⟨inner, outside, places, slots, starts, rfl, marks, folds, filled⟩ |
      ⟨inner, outside, places, starts, rfl, marks, reads⟩
    · rcases Tree.members_of_read read starts marks with ⟨members, inside, rfl, rfl, each⟩
      rcases (folded (Nat.le_of_succ_le_succ lower) each slots).mp folds with ⟨own, plain⟩
      exact ⟨bind_eq_ok_iff.mpr ⟨slots, own, filled⟩, plain⟩
    · rcases Tree.items_of_read read starts marks with ⟨trees, inside, rfl, rfl, each⟩
      exact (items inside outside (Nat.le_of_succ_le_succ lower) each title fields.count 0
        values).mp reads
  · rintro ⟨own, plain⟩
    cases tree with
    | object members =>
      rcases Tree.read_object_iff_places.mp read with
        ⟨inner, inside, places, starts, rfl, marks, each⟩
      rcases exists_level lower with ⟨outside, rfl, fits⟩
      rcases bind_eq_ok_iff.mp own with ⟨slots, stepped, filled⟩
      have folds := (folded fits each slots).mpr ⟨stepped, plain⟩
      exact ⟨after, Shape.read_record_iff_places.mpr (Or.inl
        ⟨inner, outside, places, slots, starts, rfl, marks, folds, filled⟩)⟩
    | list trees =>
      rcases Tree.read_list_iff_places.mp read with
        ⟨inner, inside, places, starts, rfl, marks, each⟩
      rcases exists_level lower with ⟨outside, rfl, fits⟩
      have reads := (items inside outside fits each title fields.count 0 values).mpr ⟨own, plain⟩
      exact ⟨after, Shape.read_record_iff_places.mpr (Or.inr
        ⟨inner, outside, places, starts, rfl, marks, reads⟩)⟩
    | null | boolean | number | text => cases own

theorem Fields.agreesMember_nil (below depth : Nat) : Fields.nil.AgreesMember below depth := by
  intro place after tree read name slots next
  constructor
  · rintro ⟨last, placed⟩
    rcases Fields.placeMember_nil_eq_ok_iff.mp placed with ⟨_, _, _, rfl⟩
    exact ⟨rfl, rfl⟩
  · rintro ⟨same, _⟩
    cases same
    exact ⟨after, Fields.placeMember_nil_eq_ok_iff.mpr
      ⟨place, expectColon_colon place, skipped_iff.mp (skipped_of_readTree read), rfl⟩⟩

theorem Fields.agreesMember_cons {key : String} {presence : Presence} {shape : Shape}
    {rest : Fields} {below depth : Nat} (first : shape.Agrees below depth)
    (later : rest.AgreesMember below depth) :
    (Fields.cons key presence shape rest).AgreesMember below depth := by
  rintro place after tree read name ⟨slot, slots⟩ next
  unfold Fields.placeTree Fields.plainMember
  by_cases own : name = key
  · rw [if_pos own, if_pos own]
    constructor
    · rintro ⟨last, placed⟩
      rcases Fields.placeMember_cons_eq_ok_iff.mp placed with
        ⟨_, fresh, found, value, colon, direct, rfl⟩ | ⟨different, _⟩
      · rw [expectColon_colon] at colon
        cases colon
        obtain rfl : slot = none := fresh
        rcases (first read value).mp ⟨last, direct⟩ with ⟨held, plain⟩
        exact ⟨bind_eq_ok_iff.mpr ⟨value, held, rfl⟩, plain⟩
      · exact absurd own different
    · rintro ⟨placed, plain⟩
      cases slot with
      | some met => cases placed
      | none =>
        rcases bind_eq_ok_iff.mp placed with ⟨value, held, done⟩
        cases done
        rcases (first read value).mpr ⟨held, plain⟩ with ⟨last, direct⟩
        exact ⟨last, Fields.placeMember_cons_eq_ok_iff.mpr
          (Or.inl ⟨own, rfl, place, value, expectColon_colon place, direct, rfl⟩)⟩
  · rw [if_neg own, if_neg own]
    constructor
    · rintro ⟨last, placed⟩
      rcases Fields.placeMember_cons_eq_ok_iff.mp placed with ⟨same, _⟩ | ⟨_, others, along, rfl⟩
      · exact absurd same own
      · rcases (later read name slots others).mp ⟨last, along⟩ with ⟨held, plain⟩
        exact ⟨bind_eq_ok_iff.mpr ⟨others, held, rfl⟩, plain⟩
    · rintro ⟨placed, plain⟩
      rcases bind_eq_ok_iff.mp placed with ⟨others, held, done⟩
      cases done
      rcases (later read name slots others).mpr ⟨held, plain⟩ with ⟨last, along⟩
      exact ⟨last, Fields.placeMember_cons_eq_ok_iff.mpr (Or.inr ⟨own, others, along, rfl⟩)⟩

theorem Fields.agreesItems_nil (below depth : Nat) : Fields.nil.AgreesItems below depth := by
  intro places items each title total index values
  unfold Fields.ofItems Fields.ReadsPlaces
  cases each with
  | nil => exact ⟨fun _ => ⟨rfl, rfl⟩, fun _ => rfl⟩
  | cons =>
    constructor
    · intro impossible
      cases impossible
    · rintro ⟨impossible, _⟩
      cases impossible

theorem Fields.agreesItems_cons {key : String} {presence : Presence} {shape : Shape}
    {rest : Fields} {below depth : Nat} (first : shape.Agrees below depth)
    (later : rest.AgreesItems below depth) :
    (Fields.cons key presence shape rest).AgreesItems below depth := by
  rintro places items each title total index ⟨value, values⟩
  unfold Fields.ofItems Fields.ReadsPlaces Fields.plainItems
  cases each with
  | nil =>
    have others := later .nil title total (index + 1) values
    constructor
    · rintro ⟨optional, rfl, reads⟩
      rcases others.mp reads with ⟨held, _⟩
      refine ⟨?_, rfl⟩
      cases presence with
      | required => exact absurd rfl optional
      | defaulted | elided => exact bind_eq_ok_iff.mpr ⟨values, held, rfl⟩
    · rintro ⟨held, _⟩
      cases presence with
      | required => cases held
      | defaulted | elided =>
        rcases bind_eq_ok_iff.mp held with ⟨found, held, done⟩
        cases done
        exact ⟨Presence.noConfusion, rfl, others.mpr ⟨held, rest.plainItems_nil⟩⟩
  | @cons place item places items connected each =>
    rcases connected with ⟨ended, read⟩
    have own := first read value
    have others := later each title total (index + 1) values
    rw [Bool.and_eq_true]
    constructor
    · rintro ⟨direct, reads⟩
      rcases own.mp direct with ⟨held, plain⟩
      rcases others.mp reads with ⟨held', plain'⟩
      exact ⟨bind_eq_ok_iff.mpr ⟨value, held, bind_eq_ok_iff.mpr ⟨values, held', rfl⟩⟩,
        plain, plain'⟩
    · rintro ⟨taken, plain, plain'⟩
      rcases bind_eq_ok_iff.mp taken with ⟨found, held, taken⟩
      rcases bind_eq_ok_iff.mp taken with ⟨found', held', done⟩
      cases done
      exact ⟨own.mpr ⟨held, plain⟩, others.mpr ⟨held', plain'⟩⟩

mutual

theorem Shape.agrees : (shape : Shape) → shape.untagged = true → ∀ below depth, below ≤ depth →
    shape.Agrees below depth
  | .text, _, below, depth, _ => Shape.agrees_text below depth
  | .real, _, below, depth, _ => Shape.agrees_real below depth
  | .int64, _, below, depth, _ => Shape.agrees_int64 below depth
  | .nat64, _, below, depth, _ => Shape.agrees_nat64 below depth
  | .optional inner, untagged, below, depth, lower =>
    Shape.agrees_optional (Shape.agrees inner untagged below depth lower)
  | .list item, untagged, _, _, lower => Shape.agrees_list (Shape.agrees item untagged) lower
  | .choice first others, _, _, _, lower => Shape.agrees_choice first others lower
  | .dictionary entry, untagged, _, _, lower =>
    Shape.agrees_dictionary (Shape.agrees entry untagged) lower
  | .record _ fields, untagged, _, _, lower =>
    Shape.agrees_record (Fields.agreesMember fields untagged) (Fields.agreesItems fields untagged)
      lower
  | .tagged _ _ _, impossible, _, _, _ => nomatch impossible

theorem Fields.agreesMember : (fields : Fields) → fields.untagged = true → ∀ below depth,
    below ≤ depth → fields.AgreesMember below depth
  | .nil, _, below, depth, _ => Fields.agreesMember_nil below depth
  | .cons _ _ shape rest, untagged, below, depth, lower => by
    rw [Fields.untagged, Bool.and_eq_true] at untagged
    exact Fields.agreesMember_cons (Shape.agrees shape untagged.1 below depth lower)
      (Fields.agreesMember rest untagged.2 below depth lower)

theorem Fields.agreesItems : (fields : Fields) → fields.untagged = true → ∀ below depth,
    below ≤ depth → fields.AgreesItems below depth
  | .nil, _, below, depth, _ => Fields.agreesItems_nil below depth
  | .cons _ _ shape rest, untagged, below, depth, lower => by
    rw [Fields.untagged, Bool.and_eq_true] at untagged
    exact Fields.agreesItems_cons (Shape.agrees shape untagged.1 below depth lower)
      (Fields.agreesItems rest untagged.2 below depth lower)

end

end Json
end LendingGateway
