import LendingGateway.Proofs.Json.Places

namespace LendingGateway
namespace Json

open Traversal

/-!
# Tagged records

A tagged record in the form of an object has its tag at one of its places, whichever that
is.  The members at the other places are read as trees, and the record is what the variant
of that name finds in them.
-/

section Tags

variable {tag : String} {names : List String} {depth : Nat}

/-- The step of a reader of tagged records at one place. -/
def TagStep (tag : String) (names : List String) (depth : Nat)
    (gathered : Option String × List (String × Tree)) (member : String × Input)
    (next : Option String × List (String × Tree)) : Prop :=
  (member.1 = tag ∧ gathered.1 = none ∧
    ∃ name last, readVariantName names member.2 = .ok (name, last) ∧
      next = (some name, gathered.2)) ∨
  (member.1 ≠ tag ∧
    ∃ tree last, Tree.read depth member.2 = .ok (tree, last) ∧
      next = (gathered.1, (member.1, tree) :: gathered.2))

/-- The tag stands at one of the places and names a variant, and the members at all the
others are read as trees. -/
inductive TaggedPlaces (tag : String) (names : List String) (depth : Nat) (name : String) :
    List (String × Input) → List (String × Tree) → Prop where
  | here {place last : Input} {places : List (String × Input)} {members : List (String × Tree)}
    (named : readVariantName names place = .ok (name, last))
    (others : ∀ other ∈ places, other.1 ≠ tag)
    (each : List.Forall₂ (ReadAt depth) places members) :
    TaggedPlaces tag names depth name ((tag, place) :: places) members
  | there {place : String × Input} {member : String × Tree} {places : List (String × Input)}
    {members : List (String × Tree)} (other : place.1 ≠ tag) (read : ReadAt depth place member)
    (later : TaggedPlaces tag names depth name places members) :
    TaggedPlaces tag names depth name (place :: places) (member :: members)

theorem skipped_of_readVariantName {place after : Input} {name : String}
    (named : readVariantName names place = .ok (name, after)) : Skipped place after := by
  rcases readVariantName_eq_ok_iff.mp named with ⟨_, quoted, opening, text⟩
  exact skipped_text opening text

theorem takes_readTaggedMember {gathered next : Option String × List (String × Tree)}
    {key : String} {beyond after : Input} :
    readTaggedMember tag names depth gathered key beyond = .ok (next, after) ↔
      ∃ place, expectColon beyond = .ok place ∧ Skipped place after ∧
        TagStep tag names depth gathered (key, place) next := by
  rw [readTaggedMember_eq_ok_iff]
  constructor
  · rintro (⟨own, fresh, place, name, colon, named, rfl⟩ | ⟨other, place, tree, colon, read, rfl⟩)
    · exact ⟨place, colon, skipped_of_readVariantName named,
        Or.inl ⟨own, fresh, name, after, named, rfl⟩⟩
    · exact ⟨place, colon, skipped_of_readTree read, Or.inr ⟨other, tree, after, read, rfl⟩⟩
  · rintro ⟨place, colon, skipped, ⟨own, fresh, name, last, named, rfl⟩ |
      ⟨other, tree, last, read, rfl⟩⟩
    · obtain rfl : after = last := skipped.unique (skipped_of_readVariantName named)
      exact Or.inl ⟨own, fresh, place, name, colon, named, rfl⟩
    · obtain rfl : after = last := skipped.unique (skipped_of_readTree read)
      exact Or.inr ⟨other, place, tree, colon, read, rfl⟩

/-- Once the tag has been met, only other members may follow. -/
theorem folds_tagStep_named_iff {name : String} {places : List (String × Input)} :
    ∀ {done : List (String × Tree)} {last : Option String × List (String × Tree)},
      Folds (TagStep tag names depth) (some name, done) places last ↔
        (∀ place ∈ places, place.1 ≠ tag) ∧
          ∃ members, List.Forall₂ (ReadAt depth) places members ∧
            last = (some name, members.reverse ++ done) := by
  induction places with
  | nil =>
    intro done last
    constructor
    · intro folds
      cases folds
      exact ⟨fun _ member => absurd member List.not_mem_nil, [], .nil, rfl⟩
    · rintro ⟨_, members, each, rfl⟩
      cases each
      exact .nil _
  | cons place places inductionHypothesis =>
    intro done last
    rw [List.forall_mem_cons]
    constructor
    · intro folds
      cases folds with
      | cons stepped folds =>
        rcases stepped with ⟨_, impossible, _⟩ | ⟨other, tree, beyond, read, rfl⟩
        · cases impossible
        · rcases inductionHypothesis.mp folds with ⟨others, members, each, rfl⟩
          refine ⟨⟨other, others⟩, (place.1, tree) :: members, .cons ⟨rfl, beyond, read⟩ each, ?_⟩
          rw [List.reverse_cons, List.append_assoc]
          rfl
    · rintro ⟨⟨other, others⟩, members, each, rfl⟩
      cases each with
      | @cons _ member _ members first each =>
        rcases member with ⟨key, tree⟩
        rcases first with ⟨same, beyond, read⟩
        obtain rfl : key = place.1 := same
        refine .cons (Or.inr ⟨other, tree, beyond, read, rfl⟩)
          (inductionHypothesis.mpr ⟨others, members, each, ?_⟩)
        rw [List.reverse_cons, List.append_assoc]
        rfl

theorem folds_tagStep_iff {name : String} {places : List (String × Input)} :
    ∀ {done others : List (String × Tree)},
      Folds (TagStep tag names depth) (none, done) places (some name, others) ↔
        ∃ members, TaggedPlaces tag names depth name places members ∧
          others = members.reverse ++ done := by
  induction places with
  | nil =>
    intro done others
    constructor
    · intro folds
      cases folds
    · rintro ⟨_, impossible, _⟩
      cases impossible
  | cons place places inductionHypothesis =>
    intro done others
    constructor
    · intro folds
      cases folds with
      | cons stepped folds =>
        rcases stepped with ⟨own, _, found, last, named, rfl⟩ | ⟨other, tree, last, read, rfl⟩
        · rcases folds_tagStep_named_iff.mp folds with ⟨different, members, each, same⟩
          cases same
          rcases place with ⟨key, place⟩
          obtain rfl : key = tag := own
          exact ⟨members, .here named different each, rfl⟩
        · rcases inductionHypothesis.mp folds with ⟨members, later, rfl⟩
          refine ⟨(place.1, tree) :: members, .there other ⟨rfl, last, read⟩ later, ?_⟩
          rw [List.reverse_cons, List.append_assoc]
          rfl
    · rintro ⟨members, tagged, rfl⟩
      cases tagged with
      | here named different each =>
        exact .cons (Or.inl ⟨rfl, rfl, name, _, named, rfl⟩)
          (folds_tagStep_named_iff.mpr ⟨different, members, each, rfl⟩)
      | @there _ member _ members other first later =>
        rcases member with ⟨key, tree⟩
        rcases first with ⟨same, beyond, read⟩
        obtain rfl : key = place.1 := same
        refine .cons (Or.inr ⟨other, tree, beyond, read, rfl⟩)
          (inductionHypothesis.mpr ⟨members, later, ?_⟩)
        rw [List.reverse_cons, List.append_assoc]
        rfl

theorem lookup_of_ne {α : Type} {key other : String} (different : key ≠ other) (value : α)
    (members : List (String × α)) : ((other, value) :: members).lookup key = members.lookup key := by
  rw [List.lookup_cons, beq_eq_false_iff_ne.mpr different]

/-- The tree of a key is read at the first place that has the key. -/
def HasPlace (depth : Nat) (key : String) (places : List (String × Input))
    (members : List (String × Tree)) : Prop :=
  ∀ tree, members.lookup key = some tree →
    ∃ place last, places.lookup key = some place ∧ Tree.read depth place = .ok (tree, last)

theorem HasPlace.cons {key : String} {place : String × Input} {member : String × Tree}
    {places : List (String × Input)} {members : List (String × Tree)}
    (first : ReadAt depth place member) (later : HasPlace depth key places members) :
    HasPlace depth key (place :: places) (member :: members) := by
  intro tree found
  rcases place with ⟨name, place⟩
  rcases member with ⟨other, value⟩
  rcases first with ⟨same, last, read⟩
  obtain rfl : other = name := same
  by_cases own : key = other
  · subst own
    rw [List.lookup_cons_self] at found
    cases found
    exact ⟨place, last, List.lookup_cons_self, read⟩
  · rw [lookup_of_ne own] at found
    rw [lookup_of_ne own]
    exact later tree found

theorem hasPlace_of_forall₂ {places : List (String × Input)} {members : List (String × Tree)}
    (each : List.Forall₂ (ReadAt depth) places members) (key : String) :
    HasPlace depth key places members := by
  induction each with
  | nil => exact fun _ impossible => nomatch impossible
  | cons first _ inductionHypothesis => exact .cons first inductionHypothesis

/-- Every key but the tag has its place. -/
theorem TaggedPlaces.hasPlace {name key : String} {places : List (String × Input)}
    {members : List (String × Tree)} (tagged : TaggedPlaces tag names depth name places members)
    (other : key ≠ tag) : HasPlace depth key places members := by
  induction tagged with
  | here _ _ each =>
    intro tree found
    rw [lookup_of_ne other]
    exact hasPlace_of_forall₂ each key tree found
  | there _ first _ inductionHypothesis => exact .cons first inductionHypothesis

end Tags

/-- A tagged record in the form of an object is read place by place. -/
theorem readTagged_object_iff_places {title tag name : String} {names : List String} {depth : Nat}
    {input inner after : Input} {tree : Tree} (starts : skipGap input = 0x7b :: inner) :
    readTagged title tag names depth input = .ok ((name, tree), after) ↔
      ∃ below places members, depth = below + 1 ∧ ObjectPlaces true inner places after ∧
        TaggedPlaces tag names below name places members ∧ tree = .object members := by
  have law : ∀ {below : Nat} {others : List (String × Tree)},
      (∃ rest, readMembers (readTaggedMember tag names below) (inner.length + 1) true (none, [])
        inner = .ok ((some name, others), rest) ∧ closeObject rest = .ok after) ↔
      ∃ places, ObjectPlaces true inner places after ∧
        Folds (TagStep tag names below) (none, []) places (some name, others) :=
    readMembers_iff_places
      (fun gathered key beyond next after =>
        @takes_readTaggedMember tag names _ gathered next key beyond after)
      (Nat.lt_succ_self _)
  rw [readTagged_eq_ok_iff]
  constructor
  · intro view
    generalize found : (name, tree) = pair at view
    cases view with
    | @object below _ _ _ _ _ others same gathered closes =>
      cases found
      rw [starts] at same
      cases same
      rcases law.mp ⟨_, gathered, closes⟩ with ⟨places, marks, folds⟩
      rcases folds_tagStep_iff.mp folds with ⟨members, tagged, rfl⟩
      refine ⟨below, places, members, rfl, marks, tagged, ?_⟩
      rw [List.append_nil, List.reverse_reverse]
    | list same =>
      rw [starts] at same
      cases same
  · rintro ⟨below, places, members, rfl, marks, tagged, rfl⟩
    have folds : Folds (TagStep tag names below) (none, []) places (some name, members.reverse ++ []) :=
      folds_tagStep_iff.mpr ⟨members, tagged, rfl⟩
    rcases law.mpr ⟨places, marks, folds⟩ with ⟨rest, gathered, closes⟩
    have view := ReadsTagged.object starts gathered closes
    rw [List.append_nil, List.reverse_reverse] at view
    exact view

/-- A tagged record in the form of a list is read place by place. -/
theorem readTagged_list_iff_places {title tag name : String} {names : List String} {depth : Nat}
    {input inner after : Input} {tree : Tree} (starts : skipGap input = 0x5b :: inner) :
    readTagged title tag names depth input = .ok ((name, tree), after) ↔
      ∃ below first places items, depth = below + 1 ∧
        ListPlaces true inner (first :: places) after ∧
        (∃ last, readVariantName names first = .ok (name, last)) ∧
        List.Forall₂ (fun place item => ∃ last, Tree.read below place = .ok (item, last))
          places items ∧ tree = .list items := by
  have law : ∀ {below : Nat} {between : Input} {items : List Tree},
      (∃ rest, readItems (Tree.read below) (between.length + 1) 1 [] between = .ok (items, rest) ∧
        closeList rest = .ok after) ↔
      ∃ places found, ListPlaces false between places after ∧
        List.Forall₂ (fun place item => ∃ last, Tree.read below place = .ok (item, last))
          places found ∧ items = found :=
    readItems_iff_places skipped_of_readTree 1 (Nat.lt_succ_self _)
  rw [readTagged_eq_ok_iff]
  constructor
  · intro view
    generalize found : (name, tree) = pair at view
    cases view with
    | object same =>
      rw [starts] at same
      cases same
    | @list below _ _ first _ _ _ _ items same next named elements closes =>
      cases found
      rw [starts] at same
      cases same
      rcases law.mp ⟨_, elements, closes⟩ with ⟨places, _, later, each, rfl⟩
      exact ⟨below, first, places, items, rfl, .element (nextElement_eq_ok_iff.mp next)
        (skipped_of_readVariantName named) later, ⟨_, named⟩, each, rfl⟩
  · rintro ⟨below, first, places, items, rfl, marks, ⟨last, named⟩, each, rfl⟩
    cases marks with
    | element next skipped later =>
      obtain rfl := skipped.unique (skipped_of_readVariantName named)
      rcases law.mpr ⟨places, items, later, each, rfl⟩ with ⟨rest, elements, closes⟩
      exact .list starts (nextElement_eq_ok_iff.mpr next) named elements closes

/-- A tagged record is an object or a list. -/
theorem readTagged_cases {title tag : String} {names : List String} {depth : Nat}
    {input after : Input} {found : String × Tree}
    (read : readTagged title tag names depth input = .ok (found, after)) :
    (∃ inner, skipGap input = 0x7b :: inner) ∨ ∃ inner, skipGap input = 0x5b :: inner := by
  cases readTagged_eq_ok_iff.mp read with
  | object starts => exact Or.inl ⟨_, starts⟩
  | list starts => exact Or.inr ⟨_, starts⟩

theorem Shape.read_tagged_eq_ok_iff {title tag : String} {variants : Variants} {depth : Nat}
    {input after : Input} {value : variants.Value} :
    (Shape.tagged title tag variants).read depth input = .ok (value, after) ↔
      ∃ name tree, readTagged title tag variants.names depth input = .ok ((name, tree), after) ∧
        variants.ofTree name tree = .ok value := by
  rw [Shape.read]
  constructor
  · intro read
    rcases bind_eq_ok_iff.mp read with ⟨⟨⟨name, tree⟩, last⟩, tagged, read⟩
    rcases bind_eq_ok_iff.mp read with ⟨found, held, done⟩
    cases done
    exact ⟨name, tree, tagged, here_eq_ok_iff.mp held⟩
  · rintro ⟨name, tree, tagged, held⟩
    refine bind_eq_ok_iff.mpr ⟨((name, tree), after), tagged, ?_⟩
    exact bind_eq_ok_iff.mpr ⟨value, here_eq_ok_iff.mpr held, rfl⟩

/-! ## Variants out of trees -/

/-- The first of several variants is found under its name. -/
theorem Variants.ofTree_more_inl_iff {known title name : String} {fields : Fields}
    {rest : Variants} {tree : Tree} {values : fields.Value} :
    (Variants.more known title fields rest).ofTree name tree = .ok (.inl values) ↔
      name = known ∧ (Shape.record title fields).ofTree tree = .ok values := by
  unfold Variants.ofTree
  by_cases own : name = known
  · rw [if_pos own]
    constructor
    · intro held
      rcases bind_eq_ok_iff.mp held with ⟨found, record, done⟩
      cases done
      exact ⟨own, record⟩
    · rintro ⟨_, record⟩
      exact bind_eq_ok_iff.mpr ⟨values, record, rfl⟩
  · rw [if_neg own]
    constructor
    · intro held
      rcases bind_eq_ok_iff.mp held with ⟨found, _, done⟩
      cases done
    · rintro ⟨same, _⟩
      exact absurd same own

section FirstField

variable {key : String} {presence : Presence} {shape : Shape} {rest : Fields}

/-- The first field of a record is filled once, from the first member of its key. -/
theorem Fields.lookup_of_filled {members : List (String × Tree)} {value : shape.Value}
    {last : rest.Slots} : ∀ {slot : Option shape.Value} {slots : rest.Slots},
      members.foldlM (Fields.cons key presence shape rest).stepTree (slot, slots) =
        .ok (some value, last) →
          slot = some value ∨
            slot = none ∧ ∃ tree, members.lookup key = some tree ∧ shape.ofTree tree = .ok value := by
  induction members with
  | nil =>
    intro slot slots folded
    cases folded
    exact Or.inl rfl
  | cons member members inductionHypothesis =>
    intro slot slots folded
    rcases member with ⟨name, tree⟩
    rw [List.foldlM_cons] at folded
    rcases bind_eq_ok_iff.mp folded with ⟨⟨filled, others⟩, placed, folded⟩
    unfold Fields.stepTree Fields.placeTree at placed
    by_cases own : name = key
    · subst own
      rw [if_pos rfl] at placed
      cases slot with
      | some met => cases placed
      | none =>
        rcases bind_eq_ok_iff.mp placed with ⟨found, held, done⟩
        cases done
        rcases inductionHypothesis folded with same | ⟨impossible, _⟩
        · cases same
          exact Or.inr ⟨rfl, tree, List.lookup_cons_self, held⟩
        · cases impossible
    · rw [if_neg own] at placed
      rcases bind_eq_ok_iff.mp placed with ⟨next, _, done⟩
      cases done
      rw [lookup_of_ne (Ne.symm own)]
      exact inductionHypothesis folded

/-- A required field that is declared first is found under its key. -/
theorem Shape.lookup_of_record {title : String} {members : List (String × Tree)}
    {value : shape.Value} {values : rest.Value}
    (held : (Shape.record title (.cons key .required shape rest)).ofTree (.object members) =
      .ok (value, values)) :
    ∃ tree, members.lookup key = some tree ∧ shape.ofTree tree = .ok value := by
  rcases bind_eq_ok_iff.mp held with ⟨⟨slot, slots⟩, folded, filled⟩
  unfold Fields.fill at filled
  cases slot with
  | none => cases filled
  | some met =>
    rcases bind_eq_ok_iff.mp filled with ⟨found, present, filled⟩
    cases present
    rcases bind_eq_ok_iff.mp filled with ⟨others, _, done⟩
    cases done
    rcases Fields.lookup_of_filled folded with impossible | ⟨_, found⟩
    · cases impossible
    · exact found

end FirstField

end Json
end LendingGateway
