import LendingGateway.Proofs.Json.Finding
import LendingGateway.Proofs.Json.Tagging

namespace LendingGateway
namespace Json

open Traversal

/-!
# Documents in other places

A document is read as the same wherever it stands, whatever comes before it or behind it.  The
proof never looks at a document: two places of one document begin with the same mark, and the
places of its elements or members are again two by two places of one document.
-/

/-! ## Places of one document -/

/-- One document stands at both places. -/
def Twins (place other : Input) : Prop :=
  ∃ document, StandsAt place document ∧ StandsAt other document

/-- One member has its value at both places. -/
def MemberTwins (place other : String × Input) : Prop :=
  place.1 = other.1 ∧ Twins place.2 other.2

theorem Twins.symm {place other : Input} (twins : Twins place other) : Twins other place :=
  twins.imp fun _ => And.symm

theorem MemberTwins.symm {place other : String × Input} (twins : MemberTwins place other) :
    MemberTwins other place :=
  ⟨twins.1.symm, twins.2.symm⟩

theorem twins_of_elements {places others : List Input} {elements : List (Element Document)}
    (first : List.Forall₂ (fun place element => StandsAt place element.value) places elements)
    (second : List.Forall₂ (fun place element => StandsAt place element.value) others elements) :
    List.Forall₂ Twins places others := by
  induction first generalizing others with
  | nil =>
    cases second
    exact .nil
  | cons stands _ inductionHypothesis =>
    cases second with
    | cons again second => exact .cons ⟨_, stands, again⟩ (inductionHypothesis second)

theorem twins_of_members {places others : List (String × Input)}
    {members : List (Member Document)} (first : List.Forall₂ MemberAt places members)
    (second : List.Forall₂ MemberAt others members) : List.Forall₂ MemberTwins places others := by
  induction first generalizing others with
  | nil =>
    cases second
    exact .nil
  | cons located _ inductionHypothesis =>
    cases second with
    | cons again second =>
      have key := Option.some.inj (located.1.symm.trans again.1)
      exact .cons ⟨key, _, located.2, again.2⟩ (inductionHypothesis second)

theorem Document.eq_true_of_marked {document : Document} (marked : document.Marked 0x74) :
    document = .boolean true := by
  cases document with
  | boolean value =>
    cases value with
    | true => rfl
    | false => simp [Document.Marked] at marked
  | null | number | text | list | object => simp [Document.Marked, isDigit] at marked

theorem Document.eq_false_of_marked {document : Document} (marked : document.Marked 0x66) :
    document = .boolean false := by
  cases document with
  | boolean value =>
    cases value with
    | false => rfl
    | true => simp [Document.Marked] at marked
  | null | number | text | list | object => simp [Document.Marked, isDigit] at marked

namespace Twins

variable {place other inner after : Input}

theorem word (twins : Twins place other) {letter : UInt8} (word : String)
    (known : (letter, word) ∈ [((0x6e : UInt8), "ull"), (0x74, "rue"), (0x66, "alse")])
    (starts : skipGap place = letter :: inner) :
    ∃ rest last, skipGap other = letter :: rest ∧ expectText word rest = .ok last := by
  rcases twins with ⟨document, stands, again⟩
  rcases stands.skipGap with ⟨_, _, opening⟩
  rcases again.skipGap with ⟨rest, _, begins⟩
  have marked := Document.marked_of_starts (opening.symm.trans starts)
  simp only [List.mem_cons, Prod.mk.injEq, List.not_mem_nil, or_false] at known
  rcases known with ⟨rfl, rfl⟩ | ⟨rfl, rfl⟩ | ⟨rfl, rfl⟩
  · rw [Document.eq_null_of_marked marked] at begins
    exact ⟨_, rest, begins, expectWord_append _ rest⟩
  · rw [Document.eq_true_of_marked marked] at begins
    exact ⟨_, rest, begins, expectWord_append _ rest⟩
  · rw [Document.eq_false_of_marked marked] at begins
    exact ⟨_, rest, begins, expectWord_append _ rest⟩

theorem text (twins : Twins place other) {text : String} (starts : skipGap place = 0x22 :: inner)
    (quoted : readText inner = .ok (text, after)) :
    ∃ rest last, skipGap other = 0x22 :: rest ∧ readText rest = .ok (text, last) := by
  rcases twins with ⟨document, stands, again⟩
  rcases stands.skipGap with ⟨_, _, opening⟩
  rcases again.skipGap with ⟨rest, _, begins⟩
  rcases Document.exists_text (Document.marked_of_starts (opening.symm.trans starts)) with
    ⟨quotation, rfl⟩
  rw [starts] at opening
  cases opening
  have known := (readText_quotation_iff.mp quoted).1
  exact ⟨_, rest, begins, readText_quotation_iff.mpr ⟨known, rfl⟩⟩

theorem number (twins : Twins place other) {octet : UInt8} {numeral : Numeral}
    (starts : skipGap place = octet :: inner) (begins : octet = 0x2d ∨ isDigit octet = true)
    (read : readNumeral (octet :: inner) = .ok (numeral, after)) :
    ∃ first rest last, skipGap other = first :: rest ∧ (first = 0x2d ∨ isDigit first = true) ∧
      readNumeral (first :: rest) = .ok (numeral, last) := by
  rcases twins with ⟨document, stands, again⟩
  rcases stands.skipGap with ⟨_, stops, opening⟩
  rcases again.skipGap with ⟨rest, ended, same⟩
  rcases Document.exists_number begins (Document.marked_of_starts (opening.symm.trans starts)) with
    ⟨number, rfl⟩
  rw [← starts, opening] at read
  have known := ((readNumeral_number_iff stops).mp read).1
  have again := (readNumeral_number_iff ended).mpr ⟨known, rfl⟩
  rcases number.formed.head with ⟨first, others, spelt, digit⟩
  rw [Document.octets, spelt] at same
  rw [spelt] at again
  exact ⟨first, _, rest, same, digit, again⟩

theorem list (twins : Twins place other) {places : List Input}
    (starts : skipGap place = 0x5b :: inner) (marks : ListPlaces true inner places after) :
    ∃ rest others last, skipGap other = 0x5b :: rest ∧ ListPlaces true rest others last ∧
      List.Forall₂ Twins places others := by
  rcases twins with ⟨document, stands, again⟩
  rcases stands.skipGap with ⟨_, _, opening⟩
  rcases Document.exists_list (Document.marked_of_starts (opening.symm.trans starts)) with
    ⟨gap, elements, rfl⟩
  rcases stands.exists_listPlaces with ⟨found, _, _, same, marked, first⟩
  rw [starts] at same
  cases same
  rcases marks.unique marked with ⟨rfl, _⟩
  rcases again.exists_listPlaces with ⟨rest, others, last, begins, marked, second⟩
  exact ⟨rest, others, last, begins, marked, twins_of_elements first second⟩

theorem object (twins : Twins place other) {places : List (String × Input)}
    (starts : skipGap place = 0x7b :: inner) (marks : ObjectPlaces true inner places after) :
    ∃ rest others last, skipGap other = 0x7b :: rest ∧ ObjectPlaces true rest others last ∧
      List.Forall₂ MemberTwins places others := by
  rcases twins with ⟨document, stands, again⟩
  rcases stands.skipGap with ⟨_, _, opening⟩
  rcases Document.exists_object (Document.marked_of_starts (opening.symm.trans starts)) with
    ⟨gap, members, rfl⟩
  rcases stands.objectPlaces with ⟨found, _, same, _, located⟩
  rw [starts] at same
  cases same
  rcases located _ _ marks with ⟨named, first⟩
  rcases again.objectPlaces with ⟨rest, last, begins, holds, _⟩
  rcases holds named with ⟨others, marked, second⟩
  exact ⟨rest, others, last, begins, marked, twins_of_members first second⟩

end Twins

/-! ## Trees -/

/-- A reader finds the same values wherever a document stands. -/
def Portable {α : Type} (reader : Input → Except Fault (α × Input)) : Prop :=
  ∀ ⦃place other : Input⦄, Twins place other → ∀ value,
    (∃ last, reader place = .ok (value, last)) → ∃ last, reader other = .ok (value, last)

theorem Portable.iff {α : Type} {reader : Input → Except Fault (α × Input)}
    (portable : Portable reader) {place other : Input} (twins : Twins place other) (value : α) :
    (∃ last, reader place = .ok (value, last)) ↔ ∃ last, reader other = .ok (value, last) :=
  ⟨portable twins value, portable twins.symm value⟩

theorem readAt_iff_of_twins {depth : Nat} (portable : Portable (Tree.read depth))
    {place other : String × Input} (twins : MemberTwins place other) (member : String × Tree) :
    ReadAt depth place member ↔ ReadAt depth other member := by
  rw [ReadAt, ReadAt, twins.1, portable.iff twins.2]

theorem Tree.portable (depth : Nat) : Portable (Tree.read depth) := by
  induction depth using Nat.strongRecOn with
  | ind depth inductionHypothesis =>
    rintro place other twins tree ⟨last, read⟩
    cases Tree.read_eq_ok_iff.mp read with
    | null starts =>
      rcases twins.word "ull" (by decide) starts with ⟨rest, ended, again, met⟩
      exact ⟨ended, Tree.read_eq_ok_iff.mpr (.null again met)⟩
    | yes starts =>
      rcases twins.word "rue" (by decide) starts with ⟨rest, ended, again, met⟩
      exact ⟨ended, Tree.read_eq_ok_iff.mpr (.yes again met)⟩
    | no starts =>
      rcases twins.word "alse" (by decide) starts with ⟨rest, ended, again, met⟩
      exact ⟨ended, Tree.read_eq_ok_iff.mpr (.no again met)⟩
    | text starts quoted =>
      rcases twins.text starts quoted with ⟨rest, ended, again, same⟩
      exact ⟨ended, Tree.read_eq_ok_iff.mpr (.text again same)⟩
    | number starts begins numeral =>
      rcases twins.number starts begins numeral with ⟨first, rest, ended, again, digit, same⟩
      exact ⟨ended, Tree.read_eq_ok_iff.mpr (.number again digit same)⟩
    | @list below =>
      rcases Tree.read_list_iff_places.mp read with ⟨inner, _, places, starts, same, marks, each⟩
      cases same
      rcases twins.list starts marks with ⟨rest, others, ended, again, marked, paired⟩
      refine ⟨ended, Tree.read_list_iff_places.mpr ⟨rest, below, others, again, rfl, marked, ?_⟩⟩
      exact (forall₂_iff_of_related paired
        (inductionHypothesis below (Nat.lt_succ_self below)).iff).mp each
    | @object below =>
      rcases Tree.read_object_iff_places.mp read with ⟨inner, _, places, starts, same, marks, each⟩
      cases same
      rcases twins.object starts marks with ⟨rest, others, ended, again, marked, paired⟩
      refine ⟨ended, Tree.read_object_iff_places.mpr ⟨rest, below, others, again, rfl, marked, ?_⟩⟩
      exact (forall₂_iff_of_related paired
        (readAt_iff_of_twins (inductionHypothesis below (Nat.lt_succ_self below)))).mp each

/-! ## Values of a shape -/

theorem Shape.portable_optional {inner : Shape} {depth : Nat}
    (portable : Portable (inner.read depth)) : Portable ((Shape.optional inner).read depth) := by
  rintro place other twins held ⟨last, read⟩
  rcases Shape.read_optional_eq_ok_iff.mp read with
    ⟨_, starts, _, rfl⟩ | ⟨present, value, direct, rfl⟩
  · rcases twins.word "ull" (by decide) starts with ⟨rest, ended, again, met⟩
    exact ⟨ended, Shape.read_optional_eq_ok_iff.mpr (Or.inl ⟨rest, again, met, rfl⟩)⟩
  · rcases portable twins value ⟨last, direct⟩ with ⟨ended, same⟩
    refine ⟨ended, Shape.read_optional_eq_ok_iff.mpr (Or.inr ⟨?_, value, same, rfl⟩)⟩
    intro letter
    rcases List.head?_eq_some_iff.mp letter with ⟨rest, starts⟩
    rcases twins.symm.word "ull" (by decide) starts with ⟨_, _, again, _⟩
    rw [again] at present
    exact present rfl

theorem Shape.portable_list {item : Shape} (portable : ∀ below, Portable (item.read below))
    (depth : Nat) : Portable ((Shape.list item).read depth) := by
  rintro place other twins values ⟨last, read⟩
  rcases Shape.read_list_iff_places.mp read with ⟨inner, below, places, starts, room, marks, each⟩
  rcases twins.list starts marks with ⟨rest, others, ended, again, marked, paired⟩
  exact ⟨ended, Shape.read_list_iff_places.mpr ⟨rest, below, others, again, room, marked,
    (forall₂_iff_of_related paired (portable below).iff).mp each⟩⟩

theorem Shape.portable_choice (first : String) (others : List String) (depth : Nat) :
    Portable ((Shape.choice first others).read depth) := by
  rintro place other twins position ⟨last, read⟩
  simp only [Shape.read, here_eq_ok_iff, readChoice_eq_ok_iff, readsChoice_iff_places] at read ⊢
  rcases read with ⟨_, name, starts, text, chosen⟩ |
    ⟨inner, name, spot, word, tail, starts, room, marks, null, _, chosen⟩
  · rcases twins.text starts text with ⟨rest, ended, again, same⟩
    exact ⟨ended, Or.inl ⟨rest, name, again, same, chosen⟩⟩
  · rcases twins.object starts marks with ⟨rest, _, ended, again, marked, paired⟩
    rcases List.forall₂_cons_left_iff.mp paired with ⟨⟨key, twin⟩, _, ⟨same, held⟩, alone, rfl⟩
    cases alone
    obtain rfl : name = key := same
    rcases held.word "ull" (by decide) null with ⟨behind, final, begins, met⟩
    exact ⟨ended, Or.inr ⟨rest, name, twin, behind, final, again, room, marked, begins, met, chosen⟩⟩

theorem Shape.portable_dictionary {entry : Shape} (portable : ∀ below, Portable (entry.read below))
    (depth : Nat) : Portable ((Shape.dictionary entry).read depth) := by
  rintro place other twins entries ⟨last, read⟩
  rcases Shape.read_dictionary_iff_places.mp read with
    ⟨inner, below, places, starts, room, marks, folds⟩
  rcases twins.object starts marks with ⟨rest, others, ended, again, marked, paired⟩
  refine ⟨ended, Shape.read_dictionary_iff_places.mpr
    ⟨rest, below, others, again, room, marked, (folds_iff_of_related paired ?_).mp folds⟩⟩
  intro member twin same before next
  simp only [EntryStep, same.1, exists_and_right, (portable below).iff same.2]

/-- Each member is taken into the fields in the same way wherever it stands. -/
def Fields.PortableStep (fields : Fields) (depth : Nat) : Prop :=
  ∀ ⦃place other : String × Input⦄, MemberTwins place other → ∀ slots next,
    fields.PlaceStep depth slots place next ↔ fields.PlaceStep depth slots other next

/-- The elements of a list are taken for the fields in the same way wherever they stand. -/
def Fields.PortableElements (fields : Fields) (depth : Nat) : Prop :=
  ∀ ⦃places others : List Input⦄, List.Forall₂ Twins places others → ∀ values,
    fields.ReadsPlaces depth places values ↔ fields.ReadsPlaces depth others values

theorem Shape.portable_record {title : String} {fields : Fields}
    (step : ∀ below, fields.PortableStep below) (elements : ∀ below, fields.PortableElements below)
    (depth : Nat) : Portable ((Shape.record title fields).read depth) := by
  rintro place other twins values ⟨last, read⟩
  rcases Shape.read_record_iff_places.mp read with
    ⟨inner, below, places, slots, starts, room, marks, folds, filled⟩ |
    ⟨inner, below, places, starts, room, marks, reads⟩
  · rcases twins.object starts marks with ⟨rest, others, ended, again, marked, paired⟩
    have walked := (folds_iff_of_related paired fun same => step below same).mp folds
    exact ⟨ended, Shape.read_record_iff_places.mpr
      (Or.inl ⟨rest, below, others, slots, again, room, marked, walked, filled⟩)⟩
  · rcases twins.list starts marks with ⟨rest, others, ended, again, marked, paired⟩
    exact ⟨ended, Shape.read_record_iff_places.mpr (Or.inr ⟨rest, below, others, again, room,
      marked, (elements below paired values).mp reads⟩)⟩

theorem Fields.placeStep_nil_of_twins {depth : Nat} {place other : String × Input}
    (twins : MemberTwins place other) {slots next : Fields.nil.Slots} :
    Fields.nil.PlaceStep depth slots other next := by
  rcases twins.2 with ⟨document, _, stands⟩
  rcases stands.exists_skipped with ⟨last, skipped⟩
  exact ⟨last, Fields.placeMember_nil_eq_ok_iff.mpr
    ⟨_, expectColon_colon _, skipped_iff.mp skipped, rfl⟩⟩

theorem Fields.portableStep_cons {key : String} {presence : Presence} {shape : Shape}
    {rest : Fields} {depth : Nat} (portable : Portable (shape.read depth))
    (step : rest.PortableStep depth) : (Fields.cons key presence shape rest).PortableStep depth := by
  rintro ⟨name, place⟩ ⟨twin, other⟩ both slots next
  obtain rfl : name = twin := both.1
  by_cases own : name = key
  · subst own
    rw [Fields.placeStep_own_iff, Fields.placeStep_own_iff]
    simp only [OwnStep, exists_and_right, portable.iff both.2]
  · rw [Fields.placeStep_other_iff own, Fields.placeStep_other_iff own,
      step both slots.2 next.2]

theorem Fields.portableElements_cons {key : String} {presence : Presence} {shape : Shape}
    {rest : Fields} {depth : Nat} (portable : Portable (shape.read depth))
    (elements : rest.PortableElements depth) :
    (Fields.cons key presence shape rest).PortableElements depth := by
  rintro places others paired ⟨value, values⟩
  cases paired with
  | nil => exact Iff.rfl
  | cons twins paired => exact and_congr (portable.iff twins value) (elements paired values)

/-! ## Tagged records -/

theorem readVariantName_of_twins {names : List String} {place other after : Input} {name : String}
    (twins : Twins place other) (named : readVariantName names place = .ok (name, after)) :
    ∃ last, readVariantName names other = .ok (name, last) := by
  rcases readVariantName_eq_ok_iff.mp named with ⟨known, _, starts, quoted⟩
  rcases twins.text starts quoted with ⟨rest, last, again, same⟩
  exact ⟨last, readVariantName_eq_ok_iff.mpr ⟨known, rest, again, same⟩⟩

theorem TaggedPlaces.of_twins {tag name : String} {names : List String} {depth : Nat}
    {places others : List (String × Input)} {members : List (String × Tree)}
    (tagged : TaggedPlaces tag names depth name places members)
    (paired : List.Forall₂ MemberTwins places others) :
    TaggedPlaces tag names depth name others members := by
  induction tagged generalizing others with
  | here named different each =>
    rcases List.forall₂_cons_left_iff.mp paired with ⟨⟨key, other⟩, behind, ⟨same, twins⟩, later, rfl⟩
    obtain rfl : tag = key := same
    rcases readVariantName_of_twins twins named with ⟨last, again⟩
    refine .here again ?_ ((forall₂_iff_of_related later
      (readAt_iff_of_twins (Tree.portable depth))).mp each)
    intro twin member
    rcases exists_of_mem later.flip member with ⟨place, held, same⟩
    rw [← same.1]
    exact different place held
  | there different first _ inductionHypothesis =>
    rcases List.forall₂_cons_left_iff.mp paired with ⟨other, behind, twins, later, rfl⟩
    refine .there ?_ ((readAt_iff_of_twins (Tree.portable depth) twins _).mp first)
      (inductionHypothesis later)
    rw [← twins.1]
    exact different

theorem Shape.portable_tagged (title tag : String) (variants : Variants) (depth : Nat) :
    Portable ((Shape.tagged title tag variants).read depth) := by
  rintro place other twins value ⟨last, read⟩
  rcases Shape.read_tagged_eq_ok_iff.mp read with ⟨name, tree, tagged, held⟩
  rcases readTagged_cases tagged with ⟨inner, starts⟩ | ⟨inner, starts⟩
  · rcases (readTagged_object_iff_places starts).mp tagged with
      ⟨below, places, members, room, marks, gathered, rfl⟩
    rcases twins.object starts marks with ⟨rest, others, ended, again, marked, paired⟩
    exact ⟨ended, Shape.read_tagged_eq_ok_iff.mpr ⟨name, _, (readTagged_object_iff_places again).mpr
      ⟨below, others, members, room, marked, gathered.of_twins paired, rfl⟩, held⟩⟩
  · rcases (readTagged_list_iff_places starts).mp tagged with
      ⟨below, first, places, items, room, marks, named, each, rfl⟩
    rcases twins.list starts marks with ⟨rest, _, ended, again, marked, paired⟩
    rcases List.forall₂_cons_left_iff.mp paired with ⟨twin, others, same, later, rfl⟩
    exact ⟨ended, Shape.read_tagged_eq_ok_iff.mpr ⟨name, _, (readTagged_list_iff_places again).mpr
      ⟨below, twin, others, items, room, marked, named.elim fun _ => readVariantName_of_twins same,
        (forall₂_iff_of_related later (Tree.portable below).iff).mp each, rfl⟩, held⟩⟩

/-! ## All shapes -/

mutual

/-- Wherever a document stands, it is read as the same values. -/
theorem Shape.portable : (shape : Shape) → (depth : Nat) → Portable (shape.read depth)
  | .text, depth => fun _ _ ⟨_, stands, again⟩ value => fun read =>
    (Shape.finds_text depth again value).mpr ((Shape.finds_text depth stands value).mp read)
  | .real, depth => fun _ _ ⟨_, stands, again⟩ value => fun read =>
    (Shape.finds_real depth again value).mpr ((Shape.finds_real depth stands value).mp read)
  | .int64, depth => fun _ _ ⟨_, stands, again⟩ value => fun read =>
    (Shape.finds_int64 depth again value).mpr ((Shape.finds_int64 depth stands value).mp read)
  | .nat64, depth => fun _ _ ⟨_, stands, again⟩ value => fun read =>
    (Shape.finds_nat64 depth again value).mpr ((Shape.finds_nat64 depth stands value).mp read)
  | .optional inner, depth => Shape.portable_optional (Shape.portable inner depth)
  | .list item, depth => Shape.portable_list (Shape.portable item) depth
  | .choice first others, depth => Shape.portable_choice first others depth
  | .dictionary entry, depth => Shape.portable_dictionary (Shape.portable entry) depth
  | .record _ fields, depth =>
    Shape.portable_record (Fields.portableStep fields) (Fields.portableElements fields) depth
  | .tagged title tag variants, depth => Shape.portable_tagged title tag variants depth

theorem Fields.portableStep : (fields : Fields) → (depth : Nat) → fields.PortableStep depth
  | .nil, _ => fun _ _ twins _ _ =>
    ⟨fun _ => Fields.placeStep_nil_of_twins twins, fun _ => Fields.placeStep_nil_of_twins twins.symm⟩
  | .cons _ _ shape rest, depth =>
    Fields.portableStep_cons (Shape.portable shape depth) (Fields.portableStep rest depth)

theorem Fields.portableElements : (fields : Fields) → (depth : Nat) →
    fields.PortableElements depth
  | .nil, _ => by
    intro places others paired values
    cases paired with
    | nil => exact Iff.rfl
    | cons => exact ⟨fun impossible => (nomatch impossible), fun impossible => (nomatch impossible)⟩
  | .cons _ _ shape rest, depth =>
    Fields.portableElements_cons (Shape.portable shape depth) (Fields.portableElements rest depth)

end

end Json
end LendingGateway
