import LendingGateway.Proofs.Json.Agreement

namespace LendingGateway
namespace Json

open Traversal

/-!
# Trees of what is read directly

Skipping is more lenient than the reader of trees: it passes over texts that are not in
UTF-8, over numbers of any size and over containers of any depth.  So the direct reader
accepts documents that have no tree, but only where it skips, which is behind the names of
unknown members.  An object without such members has a tree as soon as its shape is shallow
enough.
-/

mutual

/-- Whether all objects that are read as records have none but the known members. -/
def Shape.knows : Shape → Input → Bool
  | .text, _ | .real, _ | .int64, _ | .nat64, _ | .choice _ _, _ | .tagged _ _ _, _ => true
  | .optional inner, input => inner.knows input
  | .list item, input => (elementsOf input).all item.knows
  | .dictionary entry, input => (membersOf input).all fun member => entry.knows member.2
  | .record _ fields, input =>
    ((membersOf input).all fun member => fields.knowsMember member.1 member.2)
      && fields.knowsElements (elementsOf input)

def Fields.knowsMember : Fields → String → Input → Bool
  | .nil, _, _ => false
  | .cons key _ shape rest, name, place =>
    if name = key then shape.knows place else rest.knowsMember name place

def Fields.knowsElements : Fields → List Input → Bool
  | .nil, _ => true
  | .cons _ _ shape rest, places =>
    match places with
    | place :: places => shape.knows place && rest.knowsElements places
    | [] => true

end

theorem elementsOf_eq {input inner after : Input} {places : List Input}
    (starts : skipGap input = 0x5b :: inner)
    (marks : ListPlaces true inner places after) : elementsOf input = places := by
  have marking := readList_markValue_iff.mpr marks
  unfold elementsOf
  simp only [starts, marking]

theorem membersOf_eq {input inner after : Input} {places : List (String × Input)}
    (starts : skipGap input = 0x7b :: inner) (marks : ObjectPlaces true inner places after) :
    membersOf input = places := by
  rcases readMembers_markMember_iff.mpr marks with ⟨rest, marking, _⟩
  unfold membersOf
  simp only [starts, marking]
  exact places.reverse_reverse

/-- Where a value of the shape is read directly, and all its members are known, there is a
tree. -/
def Shape.Readable (shape : Shape) : Prop :=
  ∀ ⦃limit depth : Nat⦄ ⦃input after : Input⦄ ⦃value : shape.Value⦄, shape.depth < limit →
    shape.read depth input = .ok (value, after) → shape.knows input = true →
      ∃ tree, Tree.read limit input = .ok (tree, after)

/-- The same of one member of a record. -/
def Fields.ReadableMember (fields : Fields) : Prop :=
  ∀ ⦃limit depth : Nat⦄ ⦃slots next : fields.Slots⦄ ⦃name : String⦄ ⦃place : Input⦄,
    fields.depth < limit → fields.PlaceStep depth slots (name, place) next →
      fields.knowsMember name place = true → ∃ tree last, Tree.read limit place = .ok (tree, last)

/-- The same of the elements of a list that gives the fields of a record. -/
def Fields.ReadableElements (fields : Fields) : Prop :=
  ∀ ⦃limit depth : Nat⦄ ⦃places : List Input⦄ ⦃values : fields.Value⦄, fields.depth < limit →
    fields.ReadsPlaces depth places values → fields.knowsElements places = true →
      ∀ place ∈ places, ∃ tree last, Tree.read limit place = .ok (tree, last)

theorem exists_tree_of_number {α : Type} {wanted : Wanted} {convert : Numeral → Except Cause α}
    {limit : Nat} {input after : Input} {value : α}
    (read : readNumber wanted convert input = .ok (value, after)) :
    ∃ tree, Tree.read limit input = .ok (tree, after) := by
  rcases readNumber_eq_ok_iff.mp read with ⟨octet, rest, number, starts, begins, numeral, _⟩
  exact ⟨.number number, Tree.read_eq_ok_iff.mpr (.number starts begins numeral)⟩

theorem Tree.exists_list {limit : Nat} {input inner after : Input} {places : List Input}
    (starts : skipGap input = 0x5b :: inner)
    (marks : ListPlaces true inner places after)
    (each : ∀ place ∈ places, ∃ tree last, Tree.read limit place = .ok (tree, last)) :
    ∃ tree, Tree.read (limit + 1) input = .ok (tree, after) := by
  rcases forall_mem_exists_iff.mp each with ⟨items, trees⟩
  exact ⟨.list items,
    Tree.read_list_iff_places.mpr ⟨inner, limit, places, starts, rfl, marks, trees⟩⟩

theorem Tree.exists_object {limit : Nat} {input inner after : Input}
    {places : List (String × Input)} (starts : skipGap input = 0x7b :: inner)
    (marks : ObjectPlaces true inner places after)
    (each : ∀ place ∈ places, ∃ tree last, Tree.read limit place.2 = .ok (tree, last)) :
    ∃ tree, Tree.read (limit + 1) input = .ok (tree, after) := by
  have held : ∀ place ∈ places, ∃ member, ReadAt limit place member := by
    intro place member
    rcases each place member with ⟨tree, last, read⟩
    exact ⟨(place.1, tree), rfl, last, read⟩
  rcases forall_mem_exists_iff.mp held with ⟨members, trees⟩
  exact ⟨.object members,
    Tree.read_object_iff_places.mpr ⟨inner, limit, places, starts, rfl, marks, trees⟩⟩

theorem Shape.readable_optional {inner : Shape} (readable : inner.Readable) :
    (Shape.optional inner).Readable := by
  intro limit depth input after held shallow read knows
  rcases Shape.read_optional_eq_ok_iff.mp read with
    ⟨rest, starts, met, _⟩ | ⟨_, value, direct, _⟩
  · exact ⟨.null, Tree.read_eq_ok_iff.mpr (.null starts met)⟩
  · exact readable shallow direct knows

theorem Shape.readable_list {item : Shape} (readable : item.Readable) :
    (Shape.list item).Readable := by
  intro limit depth input after values shallow read knows
  rcases Shape.read_list_iff_places.mp read with ⟨inner, below, places, starts, _, marks, each⟩
  change item.depth + 1 < limit at shallow
  rcases exists_level shallow with ⟨limit, rfl, fits⟩
  change (elementsOf input).all item.knows = true at knows
  rw [elementsOf_eq starts marks, List.all_eq_true] at knows
  apply Tree.exists_list starts marks
  intro place member
  rcases forall_mem_exists_iff.mpr ⟨values, each⟩ place member with ⟨value, last, direct⟩
  rcases readable fits direct (knows place member) with ⟨tree, held⟩
  exact ⟨tree, last, held⟩

theorem Shape.readable_choice (first : String) (others : List String) :
    (Shape.choice first others).Readable := by
  intro limit depth input after position shallow read _
  change here (readChoice first others depth input) = .ok (position, after) at read
  rw [here_eq_ok_iff, readChoice_eq_ok_iff, readsChoice_iff_places] at read
  rcases read with ⟨rest, name, starts, text, _⟩ |
    ⟨inner, name, place, word, last, starts, _, marks, null, met, _⟩
  · exact ⟨.text name, Tree.read_eq_ok_iff.mpr (.text starts text)⟩
  · rcases exists_level shallow with ⟨limit, rfl, _⟩
    apply Tree.exists_object starts marks
    intro member only
    obtain rfl : member = (name, place) := List.mem_singleton.mp only
    exact ⟨.null, last, Tree.read_eq_ok_iff.mpr (.null null met)⟩

theorem Shape.readable_dictionary {entry : Shape} (readable : entry.Readable) :
    (Shape.dictionary entry).Readable := by
  intro limit depth input after entries shallow read knows
  rcases Shape.read_dictionary_iff_places.mp read with
    ⟨inner, below, places, starts, _, marks, folds⟩
  change entry.depth + 1 < limit at shallow
  rcases exists_level shallow with ⟨limit, rfl, fits⟩
  change ((membersOf input).all fun member => entry.knows member.2) = true at knows
  rw [membersOf_eq starts marks, List.all_eq_true] at knows
  apply Tree.exists_object starts marks
  intro place member
  rcases folds.exists_step place member with ⟨before, next, value, last, direct, _⟩
  rcases readable fits direct (knows place member) with ⟨tree, held⟩
  exact ⟨tree, last, held⟩

theorem Shape.readable_record {title : String} {fields : Fields} (member : fields.ReadableMember)
    (elements : fields.ReadableElements) : (Shape.record title fields).Readable := by
  intro limit depth input after values shallow read knows
  change fields.depth + 1 < limit at shallow
  rcases exists_level shallow with ⟨limit, rfl, fits⟩
  rw [Shape.knows, Bool.and_eq_true] at knows
  rcases Shape.read_record_iff_places.mp read with
    ⟨inner, below, places, slots, starts, _, marks, folds, _⟩ |
    ⟨inner, below, places, starts, _, marks, reads⟩
  · rw [membersOf_eq starts marks, List.all_eq_true] at knows
    apply Tree.exists_object starts marks
    intro place met
    rcases folds.exists_step place met with ⟨before, next, stepped⟩
    exact member fits stepped (knows.1 place met)
  · rw [elementsOf_eq starts marks] at knows
    exact Tree.exists_list starts marks (elements fits reads knows.2)

theorem Fields.readableMember_cons {key : String} {presence : Presence} {shape : Shape}
    {rest : Fields} (first : shape.Readable) (later : rest.ReadableMember) :
    (Fields.cons key presence shape rest).ReadableMember := by
  intro limit depth slots next name place shallow stepped knows
  rcases stepped with ⟨last, placed⟩
  rw [Fields.depth, Nat.max_lt] at shallow
  rw [Fields.knowsMember] at knows
  rcases Fields.placeMember_cons_eq_ok_iff.mp placed with
    ⟨own, _, found, value, colon, direct, _⟩ | ⟨different, others, along, _⟩
  · rw [if_pos own] at knows
    rw [expectColon_colon] at colon
    cases colon
    rcases first shallow.1 direct knows with ⟨tree, held⟩
    exact ⟨tree, last, held⟩
  · rw [if_neg different] at knows
    exact later shallow.2 ⟨last, along⟩ knows

theorem Fields.readableElements_cons {key : String} {presence : Presence} {shape : Shape}
    {rest : Fields} (first : shape.Readable) (later : rest.ReadableElements) :
    (Fields.cons key presence shape rest).ReadableElements := by
  rintro limit depth places ⟨value, values⟩ shallow reads knows
  rw [Fields.depth, Nat.max_lt] at shallow
  cases places with
  | nil => exact fun _ member => absurd member List.not_mem_nil
  | cons place places =>
    rcases reads with ⟨⟨last, direct⟩, reads⟩
    rw [Fields.knowsElements, Bool.and_eq_true] at knows
    rcases first shallow.1 direct knows.1 with ⟨tree, held⟩
    exact List.forall_mem_cons.mpr ⟨⟨tree, last, held⟩, later shallow.2 reads knows.2⟩

mutual

theorem Shape.readable : (shape : Shape) → shape.untagged = true → shape.Readable
  | .text, _ => fun _ _ _ _ _ _ read _ => by
    rcases readString_eq_ok_iff.mp (here_eq_ok_iff.mp read) with ⟨rest, starts, text⟩
    exact ⟨.text _, Tree.read_eq_ok_iff.mpr (.text starts text)⟩
  | .real, _ | .int64, _ | .nat64, _ => fun _ _ _ _ _ _ read _ =>
    exists_tree_of_number (here_eq_ok_iff.mp read)
  | .optional inner, untagged => Shape.readable_optional (Shape.readable inner untagged)
  | .list item, untagged => Shape.readable_list (Shape.readable item untagged)
  | .choice first others, _ => Shape.readable_choice first others
  | .dictionary entry, untagged => Shape.readable_dictionary (Shape.readable entry untagged)
  | .record _ fields, untagged =>
    Shape.readable_record (Fields.readableMember fields untagged)
      (Fields.readableElements fields untagged)
  | .tagged _ _ _, impossible => nomatch impossible

theorem Fields.readableMember : (fields : Fields) → fields.untagged = true →
    fields.ReadableMember
  | .nil, _ => fun _ _ _ _ _ _ _ _ impossible => nomatch impossible
  | .cons _ _ shape rest, untagged => by
    rw [Fields.untagged, Bool.and_eq_true] at untagged
    exact Fields.readableMember_cons (Shape.readable shape untagged.1)
      (Fields.readableMember rest untagged.2)

theorem Fields.readableElements : (fields : Fields) → fields.untagged = true →
    fields.ReadableElements
  | .nil, _ => fun _ _ _ _ _ none _ place member => absurd (none ▸ member) List.not_mem_nil
  | .cons _ _ shape rest, untagged => by
    rw [Fields.untagged, Bool.and_eq_true] at untagged
    exact Fields.readableElements_cons (Shape.readable shape untagged.1)
      (Fields.readableElements rest untagged.2)

end

/-! ## Whole documents -/

theorem Shape.parse_eq_ok_iff {shape : Shape} {input : Input} {value : shape.Value} :
    shape.parse input = .ok value ↔
      ∃ rest, shape.read nestingLimit input = .ok (value, rest) ∧ skipGap rest = [] := by
  constructor
  · intro parsed
    rcases bind_eq_ok_iff.mp parsed with ⟨⟨found, rest⟩, read, done⟩
    dsimp only at done
    split at done
    · rename_i ended
      cases done
      exact ⟨rest, read, List.isEmpty_iff.mp ended⟩
    · cases done
  · rintro ⟨rest, read, ended⟩
    exact bind_eq_ok_iff.mpr ⟨(value, rest), read, if_pos (List.isEmpty_iff.mpr ended)⟩

/-- Whether no name of a choice stands beside an empty object in a document. -/
def Shape.plainText (shape : Shape) (text : Input) : Bool :=
  match Tree.read nestingLimit text with
  | .ok (tree, _) => shape.plain tree
  | .error _ => true

section Documents

variable {shape : Shape} {limit : Nat} {text : Input}

/-- A document without unknown members has a tree, also some levels down in another one, and
the tree holds the value of the document. -/
theorem Shape.exists_tree_of_parse (untagged : shape.untagged = true)
    (shallow : shape.depth < limit) (lower : limit ≤ nestingLimit) {value : shape.Value}
    (parsed : shape.parse text = .ok value) (knows : shape.knows text = true) :
    ∃ tree gap, Tree.read limit text = .ok (tree, gap) ∧ skipGap gap = [] ∧
      shape.ofTree tree = .ok value := by
  rcases Shape.parse_eq_ok_iff.mp parsed with ⟨gap, direct, ended⟩
  rcases Shape.readable shape untagged shallow direct knows with ⟨tree, read⟩
  have agrees := Shape.agrees shape untagged limit nestingLimit lower read value
  exact ⟨tree, gap, read, ended, (agrees.mp ⟨gap, direct⟩).1⟩

/-- A document with a tree has the value of its tree, as long as it is plain. -/
theorem Shape.parse_iff_of_readTree (untagged : shape.untagged = true)
    (lower : limit ≤ nestingLimit) {tree : Tree} (read : Tree.read limit text = .ok (tree, []))
    (value : shape.Value) :
    shape.parse text = .ok value ↔ shape.ofTree tree = .ok value ∧ shape.plainText text = true := by
  have plain : shape.plainText text = shape.plain tree := by
    rw [Shape.plainText, Tree.read_deeper lower read]
  rw [plain, ← Shape.agrees shape untagged limit nestingLimit lower read value,
    Shape.parse_eq_ok_iff]
  constructor
  · rintro ⟨rest, direct, _⟩
    exact ⟨rest, direct⟩
  · rintro ⟨last, direct⟩
    obtain rfl : [] = last := (skipped_of_readTree read).unique (Shape.skipped_of_read shape direct)
    exact ⟨[], direct, rfl⟩

end Documents

theorem Wire.decode_eq_ok_iff {α : Type} [Wire α] {input : Input} {result : α} :
    Wire.decode α input = .ok result ↔
      ∃ value, (Wire.shape α).parse input = .ok value ∧ Wire.ofValue value = result := by
  constructor
  · intro decoded
    rcases bind_eq_ok_iff.mp decoded with ⟨value, parsed, done⟩
    exact ⟨value, parsed, Except.ok.inj done⟩
  · rintro ⟨value, parsed, rfl⟩
    exact bind_eq_ok_iff.mpr ⟨value, parsed, rfl⟩

end Json
end LendingGateway
