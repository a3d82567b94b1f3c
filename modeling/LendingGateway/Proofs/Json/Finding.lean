import LendingGateway.Proofs.Json.Meaning
import LendingGateway.Proofs.Json.Readability

namespace LendingGateway
namespace Json

open Traversal

/-!
# The direct reader finds the values of a document

Wherever a document stands, the direct reader finds the values that it has by a shape, and no
others.  There is one lemma for each kind of shape.  For records, the walk along the members is
taken apart: each field sees only the members with its key, and members without any of the keys
are passed over.
-/

/-! ## Scalars -/

/-- With some levels left, a shape is read as the values of the document, wherever that
stands. -/
def Shape.Finds (shape : Shape) (depth : Nat) : Prop :=
  ∀ ⦃place : Input⦄ ⦃document : Document⦄, StandsAt place document →
    ∀ value, (∃ last, shape.read depth place = .ok (value, last)) ↔ shape.Means document value

/-- The same of the members of an object that gives the fields of a record. -/
def Fields.FindsMembers (fields : Fields) (depth : Nat) : Prop :=
  ∀ ⦃places : List (String × Input)⦄ ⦃members : List (Member Document)⦄,
    List.Forall₂ MemberAt places members → ∀ values,
      (∃ slots, Folds (fields.PlaceStep depth) fields.noSlots places slots ∧
        fields.fill slots = .ok values) ↔ fields.Holds members values

/-- The same of the elements of a list that gives the fields of a record. -/
def Fields.FindsElements (fields : Fields) (depth : Nat) : Prop :=
  ∀ ⦃places : List Input⦄ ⦃elements : List (Element Document)⦄,
    List.Forall₂ (fun place element => StandsAt place element.value) places elements →
      ∀ values, fields.ReadsPlaces depth places values ↔ fields.HoldsElements elements values

theorem Shape.finds_text (depth : Nat) : Shape.text.Finds depth := by
  intro place document stands text
  rcases stands.skipGap with ⟨rest, _, starts⟩
  constructor
  · rintro ⟨last, read⟩
    rcases readString_eq_ok_iff.mp (here_eq_ok_iff.mp read) with ⟨inner, opening, quoted⟩
    rw [starts] at opening
    rcases Document.exists_text (Document.marked_of_starts opening) with ⟨quotation, rfl⟩
    cases opening
    exact ⟨quotation, rfl, (readText_quotation_iff.mp quoted).1⟩
  · rintro ⟨quotation, rfl, known⟩
    refine ⟨rest, here_eq_ok_iff.mpr (readString_eq_ok_iff.mpr ⟨_, starts, ?_⟩)⟩
    exact readText_quotation_iff.mpr ⟨known, rfl⟩

/-- A number is read and converted wherever it stands. -/
theorem readNumber_iff_of_standsAt {α : Type} {wanted : Wanted}
    {convert : Numeral → Except Cause α} {place : Input} {document : Document}
    (stands : StandsAt place document) (value : α) :
    (∃ last, readNumber wanted convert place = .ok (value, last)) ↔
      ∃ number numeral, document = .number number ∧ number.numeral? = some numeral ∧
        convert numeral = .ok value := by
  rcases stands.skipGap with ⟨rest, stops, starts⟩
  constructor
  · rintro ⟨last, read⟩
    rcases readNumber_eq_ok_iff.mp read with ⟨octet, inner, numeral, opening, begins, lexed, meant⟩
    rw [starts] at opening
    rcases Document.exists_number begins (Document.marked_of_starts opening) with ⟨number, rfl⟩
    rw [← opening] at lexed
    exact ⟨number, numeral, rfl, ((readNumeral_number_iff stops).mp lexed).1, meant⟩
  · rintro ⟨number, numeral, rfl, known, meant⟩
    rcases number.formed.head with ⟨octet, others, same, begins⟩
    have lexed := (readNumeral_number_iff stops).mpr ⟨known, rfl⟩
    rw [Document.octets, same] at starts
    rw [same] at lexed
    exact ⟨rest, readNumber_eq_ok_iff.mpr ⟨octet, _, numeral, starts, begins, lexed, meant⟩⟩

theorem Shape.finds_real (depth : Nat) : Shape.real.Finds depth := by
  intro place document stands value
  simp only [Shape.read, here_eq_ok_iff]
  rw [readNumber_iff_of_standsAt stands]
  simp only [Except.ok.injEq]
  rfl

theorem Shape.finds_int64 (depth : Nat) : Shape.int64.Finds depth := by
  intro place document stands value
  simp only [Shape.read, here_eq_ok_iff]
  exact readNumber_iff_of_standsAt stands value

theorem Shape.finds_nat64 (depth : Nat) : Shape.nat64.Finds depth := by
  intro place document stands value
  simp only [Shape.read, here_eq_ok_iff]
  exact readNumber_iff_of_standsAt stands value

theorem Shape.finds_optional {inner : Shape} {depth : Nat} (finds : inner.Finds depth) :
    (Shape.optional inner).Finds depth := by
  intro place document stands held
  rcases stands.skipGap with ⟨rest, _, starts⟩
  by_cases null : document = .null
  · subst null
    constructor
    · rintro ⟨last, read⟩
      rcases Shape.read_optional_eq_ok_iff.mp read with ⟨_, _, _, rfl⟩ | ⟨present, _⟩
      · exact Or.inl ⟨rfl, rfl⟩
      · rw [starts] at present
        exact absurd rfl present
    · rintro (⟨_, rfl⟩ | ⟨present, _⟩)
      · refine ⟨rest, Shape.read_optional_eq_ok_iff.mpr (Or.inl ⟨_, starts, ?_, rfl⟩)⟩
        exact expectWord_append _ rest
      · exact absurd rfl present
  · have present : (Json.skipGap place).head? ≠ some 0x6e := by
      intro letter
      rcases List.head?_eq_some_iff.mp letter with ⟨others, opening⟩
      rw [starts] at opening
      exact null (Document.eq_null_of_marked (Document.marked_of_starts opening))
    constructor
    · rintro ⟨last, read⟩
      rcases Shape.read_optional_eq_ok_iff.mp read with ⟨others, opening, _⟩ | ⟨_, value, held, rfl⟩
      · rw [opening] at present
        exact absurd rfl present
      · exact Or.inr ⟨null, value, (finds stands value).mp ⟨last, held⟩, rfl⟩
    · rintro (⟨same, _⟩ | ⟨_, value, means, rfl⟩)
      · exact absurd same null
      · rcases (finds stands value).mpr means with ⟨last, read⟩
        exact ⟨last, Shape.read_optional_eq_ok_iff.mpr (Or.inr ⟨present, value, read, rfl⟩)⟩

/-! ## Lists, choices and dictionaries -/

theorem Shape.finds_list {item : Shape} {below depth : Nat} (room : depth = below + 1)
    (finds : item.Finds below) : (Shape.list item).Finds depth := by
  subst room
  intro place document stands values
  constructor
  · rintro ⟨last, read⟩
    rcases Shape.read_list_iff_places.mp read with ⟨inner, _, places, starts, same, marks, each⟩
    cases same
    rcases stands.skipGap with ⟨rest, _, opening⟩
    rw [starts] at opening
    rcases Document.exists_list (Document.marked_of_starts opening.symm) with ⟨gap, elements, rfl⟩
    rcases stands.exists_listPlaces with ⟨other, found, after, again, marked, stand⟩
    rw [starts] at again
    cases again
    rcases marks.unique marked with ⟨rfl, _⟩
    exact ⟨gap, elements, rfl, (forall₂_iff_of_related stand fun held => finds held).mp each⟩
  · rintro ⟨gap, elements, rfl, means⟩
    rcases stands.exists_listPlaces with ⟨inner, places, after, starts, marks, stand⟩
    refine ⟨after, Shape.read_list_iff_places.mpr ⟨inner, below, places, starts, rfl, marks, ?_⟩⟩
    exact (forall₂_iff_of_related stand fun held => finds held).mpr means

theorem Shape.finds_choice (first : String) (others : List String) {depth : Nat}
    (room : depth ≠ 0) : (Shape.choice first others).Finds depth := by
  intro place document stands position
  simp only [Shape.read, here_eq_ok_iff, readChoice_eq_ok_iff, readsChoice_iff_places]
  constructor
  · rintro ⟨last, ⟨quoted, name, starts, text, chosen⟩ |
      ⟨inner, name, spot, word, tail, starts, _, marks, null, met, chosen⟩⟩
    · rcases stands.skipGap with ⟨rest, _, opening⟩
      rw [starts] at opening
      rcases Document.exists_text (Document.marked_of_starts opening.symm) with ⟨quotation, rfl⟩
      cases opening
      exact Or.inl ⟨quotation, name, rfl, (readText_quotation_iff.mp text).1, chosen⟩
    · rcases stands.skipGap with ⟨rest, _, opening⟩
      rw [starts] at opening
      rcases Document.exists_object (Document.marked_of_starts opening.symm) with
        ⟨gap, members, rfl⟩
      rcases stands.objectPlaces with ⟨other, _, again, _, located⟩
      rw [starts] at again
      cases again
      rcases List.forall₂_cons_left_iff.mp (located _ _ marks).2 with
        ⟨member, none, ⟨named, held⟩, ended, rfl⟩
      cases ended
      rcases held.skipGap with ⟨behind, _, begins⟩
      rw [null] at begins
      have isNull := Document.eq_null_of_marked (Document.marked_of_starts begins.symm)
      exact Or.inr ⟨gap, member, name, rfl, named, isNull, chosen⟩
  · rintro (⟨quotation, name, rfl, known, chosen⟩ | ⟨gap, member, name, rfl, named, null, chosen⟩)
    · rcases stands.skipGap with ⟨rest, _, starts⟩
      exact ⟨rest, Or.inl ⟨_, name, starts, readText_quotation_iff.mpr ⟨known, rfl⟩, chosen⟩⟩
    · rcases stands.objectPlaces with ⟨inner, rest, starts, holds, _⟩
      rcases holds (List.forall_mem_singleton.mpr ⟨name, named⟩) with
        ⟨places, marks, each⟩
      rcases List.forall₂_cons_right_iff.mp each with ⟨⟨key, spot⟩, none, ⟨same, held⟩, ended, rfl⟩
      cases ended
      obtain rfl : key = name := Option.some.inj (same.symm.trans named)
      rcases held.skipGap with ⟨behind, _, begins⟩
      rw [null] at begins
      exact ⟨rest, Or.inr ⟨inner, key, spot, _, behind, starts, room, marks, begins,
        expectWord_append _ behind, chosen⟩⟩

/-- A walk along the entries of a dictionary inserts one value for each of them. -/
theorem folds_entryStep_iff {entry : Shape} {depth : Nat} (finds : entry.Finds depth)
    {places : List (String × Input)} {members : List (Member Document)}
    (each : List.Forall₂ MemberAt places members) :
    ∀ {entries last : Dictionary entry.Value},
      Folds (EntryStep entry depth) entries places last ↔
        ∃ found : List (String × entry.Value),
          List.Forall₂ (fun member pair => member.name? = some pair.1 ∧
            entry.Means member.element.value pair.2) members found ∧
          last = found.foldl (fun entries pair => entries.insert pair.1 pair.2) entries := by
  induction each with
  | nil =>
    intro entries last
    constructor
    · intro folds
      cases folds
      exact ⟨[], .nil, rfl⟩
    · rintro ⟨found, none, rfl⟩
      cases none
      exact .nil _
  | @cons place member places members located _ inductionHypothesis =>
    intro entries last
    constructor
    · intro folds
      cases folds with
      | cons stepped folds =>
        rcases stepped with ⟨value, tail, read, rfl⟩
        rcases inductionHypothesis.mp folds with ⟨found, means, rfl⟩
        have meant := (finds located.2 value).mp ⟨tail, read⟩
        exact ⟨(place.1, value) :: found, .cons ⟨located.1, meant⟩ means, rfl⟩
    · rintro ⟨_, all, rfl⟩
      cases all with
      | @cons _ pair _ found meant means =>
        rcases (finds located.2 pair.2).mpr meant.2 with ⟨tail, read⟩
        have same : place.1 = pair.1 := Option.some.inj (located.1.symm.trans meant.1)
        refine .cons ⟨pair.2, tail, read, rfl⟩ (inductionHypothesis.mpr ⟨found, means, ?_⟩)
        rw [same, List.foldl_cons]

theorem Shape.finds_dictionary {entry : Shape} {below depth : Nat} (room : depth = below + 1)
    (finds : entry.Finds below) : (Shape.dictionary entry).Finds depth := by
  subst room
  intro place document stands entries
  constructor
  · rintro ⟨last, read⟩
    rcases Shape.read_dictionary_iff_places.mp read with
      ⟨inner, _, places, starts, same, marks, folds⟩
    cases same
    rcases stands.skipGap with ⟨rest, _, opening⟩
    rw [starts] at opening
    rcases Document.exists_object (Document.marked_of_starts opening.symm) with ⟨gap, members, rfl⟩
    rcases stands.objectPlaces with ⟨other, _, again, _, located⟩
    rw [starts] at again
    cases again
    rcases (folds_entryStep_iff finds (located _ _ marks).2).mp folds with ⟨found, means, same⟩
    exact ⟨gap, members, found, rfl, means, same⟩
  · rintro ⟨gap, members, found, rfl, means, same⟩
    rcases stands.objectPlaces with ⟨inner, rest, starts, holds, _⟩
    have named : ∀ member ∈ members, ∃ name, member.name? = some name := by
      intro member held
      rcases (forall_mem_exists_iff.mpr ⟨found, means⟩) member held with ⟨pair, meant⟩
      exact ⟨pair.1, meant.1⟩
    rcases holds named with ⟨places, marks, each⟩
    have folds := (folds_entryStep_iff finds each).mpr ⟨found, means, same⟩
    exact ⟨rest, Shape.read_dictionary_iff_places.mpr
      ⟨inner, below, places, starts, rfl, marks, folds⟩⟩

/-! ## Records -/

theorem Shape.finds_record {title : String} {fields : Fields} {below depth : Nat}
    (room : depth = below + 1) (findsMembers : fields.FindsMembers below)
    (findsElements : fields.FindsElements below) : (Shape.record title fields).Finds depth := by
  subst room
  intro place document stands values
  constructor
  · rintro ⟨last, read⟩
    rcases Shape.read_record_iff_places.mp read with
      ⟨inner, _, places, slots, starts, same, marks, folds, filled⟩ |
      ⟨inner, _, places, starts, same, marks, reads⟩
    · cases same
      rcases stands.skipGap with ⟨rest, _, opening⟩
      rw [starts] at opening
      rcases Document.exists_object (Document.marked_of_starts opening.symm) with
        ⟨gap, members, rfl⟩
      rcases stands.objectPlaces with ⟨other, _, again, _, located⟩
      rw [starts] at again
      cases again
      rcases located _ _ marks with ⟨named, each⟩
      exact Or.inl ⟨gap, members, rfl, named, (findsMembers each values).mp ⟨slots, folds, filled⟩⟩
    · cases same
      rcases stands.skipGap with ⟨rest, _, opening⟩
      rw [starts] at opening
      rcases Document.exists_list (Document.marked_of_starts opening.symm) with
        ⟨gap, elements, rfl⟩
      rcases stands.exists_listPlaces with ⟨other, found, after, again, marked, stand⟩
      rw [starts] at again
      cases again
      rcases marks.unique marked with ⟨rfl, _⟩
      exact Or.inr ⟨gap, elements, rfl, (findsElements stand values).mp reads⟩
  · rintro (⟨gap, members, rfl, named, holds⟩ | ⟨gap, elements, rfl, holds⟩)
    · rcases stands.objectPlaces with ⟨inner, rest, starts, located, _⟩
      rcases located named with ⟨places, marks, each⟩
      rcases (findsMembers each values).mpr holds with ⟨slots, folds, filled⟩
      exact ⟨rest, Shape.read_record_iff_places.mpr
        (Or.inl ⟨inner, below, places, slots, starts, rfl, marks, folds, filled⟩)⟩
    · rcases stands.exists_listPlaces with ⟨inner, places, after, starts, marks, stand⟩
      exact ⟨after, Shape.read_record_iff_places.mpr
        (Or.inr ⟨inner, below, places, starts, rfl, marks, (findsElements stand values).mpr holds⟩)⟩

/-- Unknown members are passed over. -/
theorem Fields.findsMembers_nil (depth : Nat) : Fields.nil.FindsMembers depth := by
  intro places members each values
  refine ⟨fun _ => trivial, fun _ => ⟨(), ?_, rfl⟩⟩
  induction each with
  | nil => exact .nil _
  | @cons place _ _ _ located _ inductionHypothesis =>
    rcases located.2.exists_skipped with ⟨last, skipped⟩
    have passed : Fields.nil.PlaceStep depth () place () :=
      ⟨last, Fields.placeMember_nil_eq_ok_iff.mpr
        ⟨_, expectColon_colon _, skipped_iff.mp skipped, rfl⟩⟩
    exact .cons passed (inductionHypothesis trivial)

/-- The step of a reader of records at a place that belongs to the first field. -/
def OwnStep (shape : Shape) (depth : Nat) (slot : Option shape.Value) (member : String × Input)
    (next : Option shape.Value) : Prop :=
  slot = none ∧ ∃ value last, shape.read depth member.2 = .ok (value, last) ∧ next = some value

theorem Fields.placeStep_own_iff {key : String} {presence : Presence} {shape : Shape}
    {rest : Fields} {depth : Nat} {slots next : (Fields.cons key presence shape rest).Slots}
    {place : Input} :
    (Fields.cons key presence shape rest).PlaceStep depth slots (key, place) next ↔
      OwnStep shape depth slots.1 (key, place) next.1 ∧ next.2 = slots.2 := by
  constructor
  · rintro ⟨last, placed⟩
    rcases Fields.placeMember_cons_eq_ok_iff.mp placed with
      ⟨_, fresh, spot, value, colon, read, rfl⟩ | ⟨different, _⟩
    · rw [expectColon_colon] at colon
      cases colon
      exact ⟨⟨fresh, value, last, read, rfl⟩, rfl⟩
    · exact absurd rfl different
  · rintro ⟨⟨fresh, value, last, read, filled⟩, kept⟩
    refine ⟨last, Fields.placeMember_cons_eq_ok_iff.mpr (Or.inl
      ⟨rfl, fresh, place, value, expectColon_colon place, read, ?_⟩)⟩
    exact Prod.ext filled kept

theorem Fields.placeStep_other_iff {key : String} {presence : Presence} {shape : Shape}
    {rest : Fields} {depth : Nat} {slots next : (Fields.cons key presence shape rest).Slots}
    {member : String × Input} (different : member.1 ≠ key) :
    (Fields.cons key presence shape rest).PlaceStep depth slots member next ↔
      next.1 = slots.1 ∧ rest.PlaceStep depth slots.2 member next.2 := by
  constructor
  · rintro ⟨last, placed⟩
    rcases Fields.placeMember_cons_eq_ok_iff.mp placed with ⟨own, _⟩ | ⟨_, others, later, rfl⟩
    · exact absurd own different
    · exact ⟨rfl, last, later⟩
  · rintro ⟨kept, last, later⟩
    refine ⟨last, Fields.placeMember_cons_eq_ok_iff.mpr (Or.inr ⟨different, next.2, later, ?_⟩)⟩
    exact Prod.ext kept rfl

/-- A walk along the members is a walk of the first field along those with its key, and one of
the other fields along the rest. -/
theorem Fields.folds_cons_iff {key : String} {presence : Presence} {shape : Shape} {rest : Fields}
    {depth : Nat} {places : List (String × Input)} :
    ∀ {slots last : (Fields.cons key presence shape rest).Slots},
      Folds ((Fields.cons key presence shape rest).PlaceStep depth) slots places last ↔
        Folds (OwnStep shape depth) slots.1 (places.filter fun place => decide (place.1 = key))
          last.1 ∧
        Folds (rest.PlaceStep depth) slots.2 (places.filter fun place => decide (place.1 ≠ key))
          last.2 := by
  induction places with
  | nil =>
    intro slots last
    constructor
    · intro folds
      cases folds
      exact ⟨.nil _, .nil _⟩
    · rintro ⟨own, others⟩
      obtain rfl : slots = last := by
        rcases slots with ⟨slot, slots⟩
        rcases last with ⟨final, finals⟩
        cases own
        cases others
        rfl
      exact .nil _
  | cons place places inductionHypothesis =>
    intro slots last
    rcases place with ⟨name, place⟩
    by_cases own : name = key
    · subst own
      rw [List.filter_cons, if_pos (decide_eq_true rfl), List.filter_cons,
        if_neg (by simp only [ne_eq, not_true_eq_false, decide_false, Bool.false_eq_true,
          not_false_eq_true])]
      constructor
      · intro folds
        cases folds with
        | cons stepped folds =>
          rcases Fields.placeStep_own_iff.mp stepped with ⟨step, kept⟩
          rcases inductionHypothesis.mp folds with ⟨mine, others⟩
          exact ⟨.cons step mine, kept ▸ others⟩
      · rintro ⟨mine, others⟩
        cases mine with
        | @cons _ slot _ _ _ step mine =>
          have stepped : (Fields.cons name presence shape rest).PlaceStep depth slots (name, place)
              (slot, slots.2) := Fields.placeStep_own_iff.mpr ⟨step, rfl⟩
          exact .cons stepped (inductionHypothesis.mpr ⟨mine, others⟩)
    · rw [List.filter_cons, if_neg (by rw [decide_eq_true_eq]; exact own), List.filter_cons,
        if_pos (decide_eq_true own)]
      constructor
      · intro folds
        cases folds with
        | cons stepped folds =>
          rcases (Fields.placeStep_other_iff own).mp stepped with ⟨kept, step⟩
          rcases inductionHypothesis.mp folds with ⟨mine, others⟩
          exact ⟨kept ▸ mine, .cons step others⟩
      · rintro ⟨mine, others⟩
        cases others with
        | @cons _ following _ _ _ step others =>
          have stepped : (Fields.cons key presence shape rest).PlaceStep depth slots (name, place)
              (slots.1, following) := (Fields.placeStep_other_iff own).mpr ⟨rfl, step⟩
          exact .cons stepped (inductionHypothesis.mpr ⟨mine, others⟩)

/-- The members without a name. -/
def membersBeside (name : String) (members : List (Member Document)) : List (Member Document) :=
  members.filter fun member => decide (member.name? ≠ some name)

theorem MemberAt.name_iff {place : String × Input} {member : Member Document}
    (located : MemberAt place member) (name : String) :
    place.1 = name ↔ member.name? = some name := by
  rw [located.1, Option.some.injEq]

theorem memberAt_named {places : List (String × Input)} {members : List (Member Document)}
    (each : List.Forall₂ MemberAt places members) (name : String) :
    List.Forall₂ MemberAt (places.filter fun place => decide (place.1 = name))
      (membersNamed name members) := by
  refine List.rel_filter ?_ each
  intro place member located
  dsimp only
  rw [decide_eq_true_eq, decide_eq_true_eq]
  exact located.name_iff name

theorem memberAt_beside {places : List (String × Input)} {members : List (Member Document)}
    (each : List.Forall₂ MemberAt places members) (name : String) :
    List.Forall₂ MemberAt (places.filter fun place => decide (place.1 ≠ name))
      (membersBeside name members) := by
  refine List.rel_filter ?_ each
  intro place member located
  dsimp only
  rw [decide_eq_true_eq, decide_eq_true_eq]
  exact not_congr (located.name_iff name)

theorem membersNamed_beside {name other : String} (different : name ≠ other)
    (members : List (Member Document)) :
    membersNamed name (membersBeside other members) = membersNamed name members := by
  rw [membersNamed, membersBeside, List.filter_filter]
  apply List.filter_congr
  intro member _
  rw [← Bool.decide_and, decide_eq_decide]
  constructor
  · exact fun both => both.1
  · intro named
    refine ⟨named, ?_⟩
    rw [named, ne_eq, Option.some.injEq]
    exact different

/-- Members without any of the keys of a record do not count. -/
theorem Fields.holds_beside {name : String} {members : List (Member Document)} :
    (fields : Fields) → name ∉ fields.keys → (values : fields.Value) →
      (fields.Holds (membersBeside name members) values ↔ fields.Holds members values)
  | .nil, _, _ => Iff.rfl
  | .cons key presence shape rest, unknown, (value, values) => by
    rw [Fields.keys, List.mem_cons, not_or] at unknown
    rw [Fields.Holds, Fields.Holds, membersNamed_beside (Ne.symm unknown.1),
      Fields.holds_beside rest unknown.2]

/-- The first field is read from its only member, if there is one. -/
theorem folds_ownStep_iff {shape : Shape} {depth : Nat} (finds : shape.Finds depth)
    {places : List (String × Input)} {members : List (Member Document)}
    (each : List.Forall₂ MemberAt places members) (last : Option shape.Value) :
    Folds (OwnStep shape depth) none places last ↔
      (members = [] ∧ last = none) ∨
      ∃ member value, members = [member] ∧ shape.Means member.element.value value ∧
        last = some value := by
  constructor
  · intro folds
    cases folds with
    | nil =>
      cases each
      exact Or.inl ⟨rfl, rfl⟩
    | cons stepped folds =>
      rcases stepped with ⟨_, value, tail, read, rfl⟩
      cases folds with
      | nil =>
        rcases List.forall₂_cons_left_iff.mp each with ⟨member, none, located, ended, rfl⟩
        cases ended
        exact Or.inr ⟨member, value, rfl, (finds located.2 value).mp ⟨tail, read⟩, rfl⟩
      | cons again _ => cases again.1
  · rintro (⟨rfl, rfl⟩ | ⟨member, value, rfl, means, rfl⟩)
    · cases each
      exact .nil _
    · rcases List.forall₂_cons_right_iff.mp each with ⟨place, none, located, ended, rfl⟩
      cases ended
      rcases (finds located.2 value).mpr means with ⟨tail, read⟩
      exact .cons ⟨rfl, value, tail, read, rfl⟩ (.nil _)

theorem Fields.fill_cons_eq_ok_iff {key : String} {presence : Presence} {shape : Shape}
    {rest : Fields} {slot : Option shape.Value} {slots : rest.Slots} {value : shape.Value}
    {values : rest.Value} :
    (Fields.cons key presence shape rest).fill (slot, slots) = .ok (value, values) ↔
      (slot = some value ∨ (slot = none ∧ presence ≠ .required ∧ value = shape.blank)) ∧
        rest.fill slots = .ok values := by
  constructor
  · intro filled
    unfold Fields.fill at filled
    cases slot with
    | some met =>
      rcases bind_eq_ok_iff.mp filled with ⟨first, own, filled⟩
      rcases bind_eq_ok_iff.mp filled with ⟨others, later, done⟩
      cases own
      cases done
      exact ⟨Or.inl rfl, later⟩
    | none =>
      rcases bind_eq_ok_iff.mp filled with ⟨first, own, filled⟩
      rcases bind_eq_ok_iff.mp filled with ⟨others, later, done⟩
      cases done
      cases presence with
      | required => cases own
      | defaulted | elided =>
        cases own
        exact ⟨Or.inr ⟨rfl, by decide, rfl⟩, later⟩
  · rintro ⟨rfl | ⟨rfl, optional, rfl⟩, later⟩
    · exact bind_eq_ok_iff.mpr ⟨value, rfl, bind_eq_ok_iff.mpr ⟨values, later, rfl⟩⟩
    · cases presence with
      | required => exact absurd rfl optional
      | defaulted | elided =>
        exact bind_eq_ok_iff.mpr ⟨_, rfl, bind_eq_ok_iff.mpr ⟨values, later, rfl⟩⟩

theorem Fields.findsMembers_cons {key : String} {presence : Presence} {shape : Shape}
    {rest : Fields} {depth : Nat} (fresh : key ∉ rest.keys) (finds : shape.Finds depth)
    (findsRest : rest.FindsMembers depth) :
    (Fields.cons key presence shape rest).FindsMembers depth := by
  rintro places members each ⟨value, values⟩
  have own := folds_ownStep_iff finds (memberAt_named each key)
  have others := findsRest (memberAt_beside each key) values
  rw [Fields.holds_beside rest fresh] at others
  rw [Fields.Holds, ← others]
  constructor
  · rintro ⟨⟨slot, slots⟩, folds, filled⟩
    rcases Fields.folds_cons_iff.mp folds with ⟨mine, later⟩
    rcases Fields.fill_cons_eq_ok_iff.mp filled with ⟨held, filled⟩
    refine ⟨?_, slots, later, filled⟩
    rcases (own slot).mp mine with ⟨absent, same⟩ | ⟨member, found, alone, means, same⟩
    · rcases held with present | ⟨_, optional, blank⟩
      · cases same.symm.trans present
      · exact Or.inl ⟨absent, optional, blank⟩
    · rcases held with present | ⟨missing, _⟩
      · cases same.symm.trans present
        exact Or.inr ⟨member, alone, means⟩
      · cases same.symm.trans missing
  · rintro ⟨held, slots, later, filled⟩
    rcases held with ⟨absent, optional, blank⟩ | ⟨member, alone, means⟩
    · refine ⟨(none, slots), Fields.folds_cons_iff.mpr
        ⟨(own _).mpr (Or.inl ⟨absent, rfl⟩), later⟩, ?_⟩
      exact Fields.fill_cons_eq_ok_iff.mpr ⟨Or.inr ⟨rfl, optional, blank⟩, filled⟩
    · refine ⟨(some value, slots), Fields.folds_cons_iff.mpr
        ⟨(own _).mpr (Or.inr ⟨member, value, alone, means, rfl⟩), later⟩, ?_⟩
      exact Fields.fill_cons_eq_ok_iff.mpr ⟨Or.inl rfl, filled⟩

theorem Fields.findsElements_nil (depth : Nat) : Fields.nil.FindsElements depth := by
  intro places elements each values
  cases each with
  | nil => exact ⟨fun _ => rfl, fun _ => rfl⟩
  | cons => exact ⟨fun impossible => (nomatch impossible), fun impossible => (nomatch impossible)⟩

theorem Fields.findsElements_cons {key : String} {presence : Presence} {shape : Shape}
    {rest : Fields} {depth : Nat} (finds : shape.Finds depth)
    (findsRest : rest.FindsElements depth) :
    (Fields.cons key presence shape rest).FindsElements depth := by
  rintro places elements each ⟨value, values⟩
  cases each with
  | nil => exact and_congr_right' (and_congr_right' (findsRest .nil values))
  | cons stands each => exact and_congr (finds stands value) (findsRest each values)

theorem Fields.untagged_cons {key : String} {presence : Presence} {shape : Shape} {rest : Fields}
    (untagged : (Fields.cons key presence shape rest).untagged = true) :
    shape.untagged = true ∧ rest.untagged = true := by
  rw [Fields.untagged, Bool.and_eq_true] at untagged
  exact untagged

mutual

/-- The direct reader finds the values of a document, wherever that stands. -/
theorem Shape.finds : (shape : Shape) → shape.untagged = true → shape.wellFormed = true →
    {depth : Nat} → shape.depth < depth → shape.Finds depth
  | .text, _, _, depth, _ => Shape.finds_text depth
  | .real, _, _, depth, _ => Shape.finds_real depth
  | .int64, _, _, depth, _ => Shape.finds_int64 depth
  | .nat64, _, _, depth, _ => Shape.finds_nat64 depth
  | .optional inner, untagged, formed, _, enough =>
    Shape.finds_optional (Shape.finds inner untagged (Shape.wellFormed_optional formed).2 enough)
  | .list item, untagged, formed, _, enough => by
    rcases exists_level enough with ⟨below, room, lower⟩
    exact Shape.finds_list room (Shape.finds item untagged formed lower)
  | .choice first others, _, _, _, enough =>
    Shape.finds_choice first others (Nat.ne_zero_of_lt enough)
  | .dictionary entry, untagged, formed, _, enough => by
    rcases exists_level enough with ⟨below, room, lower⟩
    exact Shape.finds_dictionary room (Shape.finds entry untagged formed lower)
  | .record title fields, untagged, formed, _, enough => by
    rcases exists_level enough with ⟨below, room, lower⟩
    exact Shape.finds_record room (Fields.findsMembers fields untagged formed lower)
      (Fields.findsElements fields untagged formed lower)

theorem Fields.findsMembers : (fields : Fields) → fields.untagged = true →
    fields.wellFormed = true → {depth : Nat} → fields.depth < depth → fields.FindsMembers depth
  | .nil, _, _, depth, _ => Fields.findsMembers_nil depth
  | .cons key presence shape rest, untagged, formed, _, enough => by
    rcases Fields.untagged_cons untagged with ⟨first, others⟩
    rcases Fields.wellFormed_cons formed with ⟨fresh, formedFirst, formedRest⟩
    rcases Nat.max_lt.mp enough with ⟨lowerFirst, lowerRest⟩
    exact Fields.findsMembers_cons fresh (Shape.finds shape first formedFirst lowerFirst)
      (Fields.findsMembers rest others formedRest lowerRest)

theorem Fields.findsElements : (fields : Fields) → fields.untagged = true →
    fields.wellFormed = true → {depth : Nat} → fields.depth < depth → fields.FindsElements depth
  | .nil, _, _, depth, _ => Fields.findsElements_nil depth
  | .cons key presence shape rest, untagged, formed, _, enough => by
    rcases Fields.untagged_cons untagged with ⟨first, others⟩
    rcases Fields.wellFormed_cons formed with ⟨_, formedFirst, formedRest⟩
    rcases Nat.max_lt.mp enough with ⟨lowerFirst, lowerRest⟩
    exact Fields.findsElements_cons (Shape.finds shape first formedFirst lowerFirst)
      (Fields.findsElements rest others formedRest lowerRest)

end

end Json
end LendingGateway
