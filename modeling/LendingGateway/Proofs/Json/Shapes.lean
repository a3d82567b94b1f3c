import LendingGateway.Proofs.Json.RoundTrip
import LendingGateway.Proofs.Json.Skipping

namespace LendingGateway
namespace Json

open Traversal

/-!
# What the direct reader has met

The direct reader decides by the first octet after a gap, as the reader of trees does.  Its
inversion laws are given for each kind of shape, and with them that it takes one value off
the input and nothing else: whatever it reads can be skipped to the same end.
-/

/-! ## Choices -/

/-- How a choice is read: as a name, or as an object with null under that name. -/
inductive ReadsChoice (first : String) (others : List String) (depth : Nat)
    (input after : Input) (position : Fin (others.length + 1)) : Prop where
  | name {rest : Input} {name : String} (starts : skipGap input = 0x22 :: rest)
    (text : readText rest = .ok (name, after))
    (chosen : chooseName first others name = .ok position)
  | object {inner beyond place word last : Input} {name : String}
    (starts : skipGap input = 0x7b :: inner) (room : depth ≠ 0)
    (key : readString .variantName inner = .ok (name, beyond))
    (chosen : chooseName first others name = .ok position)
    (colon : expectColon beyond = .ok place) (null : skipGap place = 0x6e :: word)
    (met : expectText "ull" word = .ok last) (closes : closeObject last = .ok after)

theorem readChoice_eq_ok_iff {first : String} {others : List String} {depth : Nat}
    {input after : Input} {position : Fin (others.length + 1)} :
    readChoice first others depth input = .ok (position, after) ↔
      ReadsChoice first others depth input after position := by
  constructor
  · intro read
    unfold readChoice at read
    split at read
    · cases read
    · rename_i octet rest starts
      split at read
      · rename_i quote
        subst quote
        rcases bind_eq_ok_iff.mp read with ⟨⟨name, last⟩, text, read⟩
        rcases bind_eq_ok_iff.mp read with ⟨found, chosen, done⟩
        cases done
        exact .name starts text chosen
      split at read
      · rename_i brace
        subst brace
        split at read
        · cases read
        · rename_i room
          rcases bind_eq_ok_iff.mp read with ⟨⟨name, beyond⟩, key, read⟩
          rcases bind_eq_ok_iff.mp read with ⟨found, chosen, read⟩
          rcases bind_eq_ok_iff.mp read with ⟨place, colon, read⟩
          dsimp only at read
          split at read
          · rename_i word null
            rcases bind_eq_ok_iff.mp read with ⟨last, met, closes⟩
            split at closes
            · cases closes
            · rename_i octet behind ends
              split at closes
              · rename_i brace
                subst brace
                cases closes
                exact .object starts room key chosen colon null met
                  (closeObject_eq_ok_iff.mpr ends)
              · cases closes
          · rcases bind_eq_ok_iff.mp read with ⟨_, impossible, _⟩
            exact absurd impossible misfit_ne_ok
      · cases read
  · intro view
    cases view with
    | name starts text chosen =>
      rw [readChoice, starts]
      exact bind_eq_ok_iff.mpr ⟨_, text, bind_eq_ok_iff.mpr ⟨_, chosen, rfl⟩⟩
    | object starts room key chosen colon null met closes =>
      rw [readChoice, starts]
      dsimp only
      rw [if_neg (by decide), if_pos rfl, if_neg room]
      refine bind_eq_ok_iff.mpr ⟨_, key, bind_eq_ok_iff.mpr ⟨_, chosen, ?_⟩⟩
      refine bind_eq_ok_iff.mpr ⟨_, colon, ?_⟩
      rw [null]
      refine bind_eq_ok_iff.mpr ⟨_, met, ?_⟩
      rw [closeObject_eq_ok_iff.mp closes]
      rfl

/-! ## Containers -/

theorem Shape.read_optional_eq_ok_iff {inner : Shape} {depth : Nat} {input after : Input}
    {held : Option inner.Value} :
    (Shape.optional inner).read depth input = .ok (held, after) ↔
      (∃ rest, skipGap input = 0x6e :: rest ∧ expectText "ull" rest = .ok after ∧ held = none) ∨
      ((skipGap input).head? ≠ some 0x6e ∧
        ∃ value, inner.read depth input = .ok (value, after) ∧ held = some value) := by
  rw [Shape.read]
  split
  · rename_i rest starts
    constructor
    · intro read
      rcases bind_eq_ok_iff.mp read with ⟨last, word, done⟩
      cases done
      exact Or.inl ⟨rest, starts, here_eq_ok_iff.mp word, rfl⟩
    · rintro (⟨other, same, word, rfl⟩ | ⟨present, _⟩)
      · rw [starts] at same
        cases same
        exact bind_eq_ok_iff.mpr ⟨_, here_eq_ok_iff.mpr word, rfl⟩
      · rw [starts] at present
        exact absurd rfl present
  · rename_i present
    constructor
    · intro read
      rcases bind_eq_ok_iff.mp read with ⟨⟨value, last⟩, read, done⟩
      cases done
      refine Or.inr ⟨?_, value, read, rfl⟩
      intro letter
      rcases List.head?_eq_some_iff.mp letter with ⟨rest, starts⟩
      exact present rest starts
    · rintro (⟨rest, starts, _⟩ | ⟨_, value, read, rfl⟩)
      · exact absurd starts (present rest)
      · exact bind_eq_ok_iff.mpr ⟨_, read, rfl⟩

theorem Shape.read_list_eq_ok_iff {item : Shape} {depth : Nat} {input after : Input}
    {values : List item.Value} :
    (Shape.list item).read depth input = .ok (values, after) ↔
      ∃ inner below, skipGap input = 0x5b :: inner ∧ depth = below + 1 ∧
        readList (item.read below) inner = .ok (values, after) := by
  rw [Shape.read]
  split
  · rename_i inner starts
    cases depth with
    | zero =>
      constructor
      · intro impossible
        cases impossible
      · rintro ⟨_, _, _, impossible, _⟩
        cases impossible
    | succ below =>
      constructor
      · exact fun read => ⟨inner, below, starts, rfl, read⟩
      · rintro ⟨other, lower, same, room, read⟩
        rw [starts] at same
        cases same
        cases room
        exact read
  · rename_i different
    constructor
    · exact fun read => absurd (here_eq_ok_iff.mp read) misfit_ne_ok
    · rintro ⟨inner, _, starts, _⟩
      exact absurd starts (different inner)

theorem Shape.read_dictionary_eq_ok_iff {entry : Shape} {depth : Nat} {input after : Input}
    {entries : Dictionary entry.Value} :
    (Shape.dictionary entry).read depth input = .ok (entries, after) ↔
      ∃ inner below rest, skipGap input = 0x7b :: inner ∧ depth = below + 1 ∧
        readMembers (readEntry entry below) (inner.length + 1) true Dictionary.empty inner =
          .ok (entries, rest) ∧ closeObject rest = .ok after := by
  rw [Shape.read]
  split
  · rename_i inner starts
    cases depth with
    | zero =>
      constructor
      · intro impossible
        cases impossible
      · rintro ⟨_, _, _, _, impossible, _⟩
        cases impossible
    | succ below =>
      constructor
      · intro read
        rcases bind_eq_ok_iff.mp read with ⟨⟨found, rest⟩, gathered, read⟩
        rcases bind_eq_ok_iff.mp read with ⟨last, closes, done⟩
        cases done
        exact ⟨inner, below, rest, starts, rfl, gathered, here_eq_ok_iff.mp closes⟩
      · rintro ⟨other, lower, rest, same, room, gathered, closes⟩
        rw [starts] at same
        cases same
        cases room
        refine bind_eq_ok_iff.mpr ⟨_, gathered, ?_⟩
        exact bind_eq_ok_iff.mpr ⟨_, here_eq_ok_iff.mpr closes, rfl⟩
  · rename_i different
    constructor
    · exact fun read => absurd (here_eq_ok_iff.mp read) misfit_ne_ok
    · rintro ⟨inner, _, _, starts, _⟩
      exact absurd starts (different inner)

/-- How a record is read: from an object, or from a list of its fields. -/
inductive ReadsRecord (title : String) (fields : Fields) : (depth : Nat) → (input after : Input) →
    fields.Value → Prop where
  | object {below : Nat} {input inner rest after : Input} {slots : fields.Slots}
    {values : fields.Value} (starts : skipGap input = 0x7b :: inner)
    (gathered : readMembers (fields.placeMember below) (inner.length + 1) true fields.noSlots inner =
      .ok (slots, rest))
    (filled : fields.fill slots = .ok values) (closes : closeObject rest = .ok after) :
    ReadsRecord title fields (below + 1) input after values
  | list {below : Nat} {input inner rest after : Input} {values : fields.Value}
    (starts : skipGap input = 0x5b :: inner)
    (elements : fields.readElements title fields.count below 0 inner = .ok (values, rest))
    (closes : closeList rest = .ok after) :
    ReadsRecord title fields (below + 1) input after values

theorem Shape.read_record_eq_ok_iff {title : String} {fields : Fields} {depth : Nat}
    {input after : Input} {values : fields.Value} :
    (Shape.record title fields).read depth input = .ok (values, after) ↔
      ReadsRecord title fields depth input after values := by
  constructor
  · intro read
    rw [Shape.read] at read
    split at read
    · rename_i inner starts
      cases depth with
      | zero => cases read
      | succ below =>
        rcases bind_eq_ok_iff.mp read with ⟨⟨slots, rest⟩, gathered, read⟩
        rcases bind_eq_ok_iff.mp read with ⟨found, filled, read⟩
        rcases bind_eq_ok_iff.mp read with ⟨last, closes, done⟩
        cases done
        exact .object starts gathered (here_eq_ok_iff.mp filled) (here_eq_ok_iff.mp closes)
    · rename_i inner starts
      cases depth with
      | zero => cases read
      | succ below =>
        rcases bind_eq_ok_iff.mp read with ⟨⟨found, rest⟩, elements, read⟩
        rcases bind_eq_ok_iff.mp read with ⟨last, closes, done⟩
        cases done
        exact .list starts elements (here_eq_ok_iff.mp closes)
    · exact absurd (here_eq_ok_iff.mp read) misfit_ne_ok
  · intro view
    cases view with
    | object starts gathered filled closes =>
      rw [Shape.read, starts]
      refine bind_eq_ok_iff.mpr ⟨_, gathered, bind_eq_ok_iff.mpr ⟨_, here_eq_ok_iff.mpr filled, ?_⟩⟩
      exact bind_eq_ok_iff.mpr ⟨_, here_eq_ok_iff.mpr closes, rfl⟩
    | list starts elements closes =>
      rw [Shape.read, starts]
      refine bind_eq_ok_iff.mpr ⟨_, elements, ?_⟩
      exact bind_eq_ok_iff.mpr ⟨_, here_eq_ok_iff.mpr closes, rfl⟩

/-! ## Members and elements of a record -/

theorem Fields.placeMember_nil_eq_ok_iff {depth : Nat} {name : String} {input after : Input}
    {slots next : Fields.nil.Slots} :
    Fields.nil.placeMember depth slots name input = .ok (next, after) ↔
      ∃ place, expectColon input = .ok place ∧ skipValue place = .ok after ∧ next = slots := by
  rw [placeMember, Fields.place]
  constructor
  · intro placed
    rcases bind_eq_ok_iff.mp placed with ⟨place, colon, placed⟩
    rcases bind_eq_ok_iff.mp placed with ⟨rest, skipped, done⟩
    cases done
    exact ⟨place, here_eq_ok_iff.mp colon, here_eq_ok_iff.mp (inside_eq_ok_iff.mp skipped), rfl⟩
  · rintro ⟨place, colon, skipped, rfl⟩
    refine bind_eq_ok_iff.mpr ⟨place, here_eq_ok_iff.mpr colon, ?_⟩
    exact bind_eq_ok_iff.mpr
      ⟨after, inside_eq_ok_iff.mpr (here_eq_ok_iff.mpr skipped), rfl⟩

/-- A member is the value of the first field, which has none yet, or it belongs to the
others. -/
theorem Fields.placeMember_cons_eq_ok_iff {key : String} {presence : Presence} {shape : Shape}
    {rest : Fields} {depth : Nat} {name : String} {input after : Input}
    {slots next : (Fields.cons key presence shape rest).Slots} :
    (Fields.cons key presence shape rest).placeMember depth slots name input = .ok (next, after) ↔
      (name = key ∧ slots.1 = none ∧ ∃ place value, expectColon input = .ok place ∧
        shape.read depth place = .ok (value, after) ∧ next = (some value, slots.2)) ∨
      (name ≠ key ∧ ∃ others, rest.placeMember depth slots.2 name input = .ok (others, after) ∧
        next = (slots.1, others)) := by
  rcases slots with ⟨slot, slots⟩
  by_cases own : name = key
  · subst own
    constructor
    · intro placed
      cases slot with
      | some met =>
        rw [placeMember_again] at placed
        cases placed
      | none =>
        rw [placeMember_own] at placed
        rcases bind_eq_ok_iff.mp placed with ⟨place, colon, placed⟩
        rcases bind_eq_ok_iff.mp placed with ⟨⟨value, last⟩, read, done⟩
        cases done
        exact Or.inl
          ⟨rfl, rfl, place, value, here_eq_ok_iff.mp colon, inside_eq_ok_iff.mp read, rfl⟩
    · rintro (⟨_, rfl, place, value, colon, read, rfl⟩ | ⟨other, _⟩)
      · rw [placeMember_own]
        refine bind_eq_ok_iff.mpr ⟨place, here_eq_ok_iff.mpr colon, ?_⟩
        exact bind_eq_ok_iff.mpr ⟨_, inside_eq_ok_iff.mpr read, rfl⟩
      · exact absurd rfl other
  · rw [placeMember_other own]
    constructor
    · intro placed
      rcases bind_eq_ok_iff.mp placed with ⟨⟨others, last⟩, later, done⟩
      cases done
      exact Or.inr ⟨own, others, later, rfl⟩
    · rintro (⟨same, _⟩ | ⟨_, others, placed, rfl⟩)
      · exact absurd same own
      · exact bind_eq_ok_iff.mpr ⟨_, placed, rfl⟩

theorem Fields.readElements_cons_eq_ok_iff {title : String} {total : Nat} {key : String}
    {presence : Presence} {shape : Shape} {rest : Fields} {depth index : Nat}
    {input after : Input} {found : (Fields.cons key presence shape rest).Value} :
    (Fields.cons key presence shape rest).readElements title total depth index input =
        .ok (found, after) ↔
      (∃ place value between values, nextElement (index == 0) input = .ok (true, place) ∧
        shape.read depth place = .ok (value, between) ∧
        rest.readElements title total depth (index + 1) between = .ok (values, after) ∧
          found = (value, values)) ∨
      (∃ place values, nextElement (index == 0) input = .ok (false, place) ∧
        presence ≠ .required ∧
        rest.readElements title total depth (index + 1) place = .ok (values, after) ∧
          found = (shape.blank, values)) := by
  rw [Fields.readElements]
  constructor
  · intro read
    rcases bind_eq_ok_iff.mp read with ⟨⟨more, place⟩, next, read⟩
    rw [here_eq_ok_iff] at next
    cases more with
    | true =>
      rcases bind_eq_ok_iff.mp read with ⟨⟨value, between⟩, element, read⟩
      rcases bind_eq_ok_iff.mp read with ⟨⟨values, last⟩, others, done⟩
      cases done
      exact Or.inl ⟨place, value, between, values, next, inside_eq_ok_iff.mp element, others, rfl⟩
    | false =>
      cases presence with
      | required => cases read
      | defaulted =>
        rcases bind_eq_ok_iff.mp read with ⟨⟨values, last⟩, others, done⟩
        cases done
        exact Or.inr ⟨place, values, next, nofun, others, rfl⟩
      | elided =>
        rcases bind_eq_ok_iff.mp read with ⟨⟨values, last⟩, others, done⟩
        cases done
        exact Or.inr ⟨place, values, next, nofun, others, rfl⟩
  · rintro (⟨place, value, between, values, next, element, others, rfl⟩ |
      ⟨place, values, next, optional, others, rfl⟩)
    · rw [next]
      refine bind_eq_ok_iff.mpr ⟨(true, place), rfl, ?_⟩
      refine bind_eq_ok_iff.mpr ⟨_, inside_eq_ok_iff.mpr element, ?_⟩
      exact bind_eq_ok_iff.mpr ⟨_, others, rfl⟩
    · rw [next]
      refine bind_eq_ok_iff.mpr ⟨(false, place), rfl, ?_⟩
      cases presence with
      | required => exact absurd rfl optional
      | defaulted => exact bind_eq_ok_iff.mpr ⟨_, others, rfl⟩
      | elided => exact bind_eq_ok_iff.mpr ⟨_, others, rfl⟩

/-- At the end of a list the fields that are left take nothing. -/
theorem Fields.readElements_at_close {title : String} {total : Nat} {behind : Input} :
    (fields : Fields) → {depth index : Nat} → {input after : Input} → {values : fields.Value} →
      fields.readElements title total depth index input = .ok (values, after) →
        skipGap input = 0x5d :: behind → skipGap after = 0x5d :: behind
  | .nil, _, _, _, _, _, read, ends => by
    cases read
    exact ends
  | .cons key presence shape rest, _, _, _, _, _, read, ends => by
    rcases Fields.readElements_cons_eq_ok_iff.mp read with
      ⟨place, value, between, values, next, element, read, _⟩ |
      ⟨place, values, next, _, read, _⟩
    · cases nextElement_eq_ok_iff.mp next with
      | opening _ starts different =>
        rw [ends] at starts
        exact absurd (List.cons.inj starts).1.symm different
      | comma _ starts _ _ =>
        rw [ends] at starts
        exact absurd (List.cons.inj starts).1 (by decide)
    · cases nextElement_eq_ok_iff.mp next with
      | close starts =>
        rw [ends] at starts
        cases starts
        exact Fields.readElements_at_close rest read (skipGap_cons (by decide) _)

theorem readEntry_eq_ok_iff {entry : Shape} {depth : Nat} {entries next : Dictionary entry.Value}
    {key : String} {input after : Input} :
    readEntry entry depth entries key input = .ok (next, after) ↔
      ∃ place value, expectColon input = .ok place ∧
        entry.read depth place = .ok (value, after) ∧ next = entries.insert key value := by
  constructor
  · intro read
    rcases bind_eq_ok_iff.mp read with ⟨place, colon, read⟩
    rcases bind_eq_ok_iff.mp read with ⟨⟨value, last⟩, read, done⟩
    cases done
    exact ⟨place, value, here_eq_ok_iff.mp colon, inside_eq_ok_iff.mp read, rfl⟩
  · rintro ⟨place, value, colon, read, rfl⟩
    refine bind_eq_ok_iff.mpr ⟨place, here_eq_ok_iff.mpr colon, ?_⟩
    exact bind_eq_ok_iff.mpr ⟨_, inside_eq_ok_iff.mpr read, rfl⟩

/-! ## Tagged records -/

theorem readVariantName_eq_ok_iff {names : List String} {input after : Input} {name : String} :
    readVariantName names input = .ok (name, after) ↔
      name ∈ names ∧ ∃ rest, skipGap input = 0x22 :: rest ∧ readText rest = .ok (name, after) := by
  rw [← @readString_eq_ok_iff .variantName]
  constructor
  · intro read
    rcases bind_eq_ok_iff.mp read with ⟨⟨found, last⟩, text, read⟩
    dsimp only at read
    split at read
    · rename_i known
      cases read
      exact ⟨known, text⟩
    · cases read
  · rintro ⟨known, text⟩
    exact bind_eq_ok_iff.mpr ⟨_, text, if_pos known⟩

/-- A member of a tagged record is the tag, which has not been met yet, or it is kept as a
tree. -/
theorem readTaggedMember_eq_ok_iff {tag : String} {names : List String} {depth : Nat}
    {gathered next : Option String × List (String × Tree)} {key : String} {input after : Input} :
    readTaggedMember tag names depth gathered key input = .ok (next, after) ↔
      (key = tag ∧ gathered.1 = none ∧ ∃ place name, expectColon input = .ok place ∧
        readVariantName names place = .ok (name, after) ∧ next = (some name, gathered.2)) ∨
      (key ≠ tag ∧ ∃ place tree, expectColon input = .ok place ∧
        Tree.read depth place = .ok (tree, after) ∧
          next = (gathered.1, (key, tree) :: gathered.2)) := by
  rcases gathered with ⟨name?, others⟩
  rw [readTaggedMember]
  by_cases own : key = tag
  · rw [if_pos own]
    constructor
    · intro taken
      cases name? with
      | some met => cases taken
      | none =>
        rcases bind_eq_ok_iff.mp taken with ⟨place, colon, taken⟩
        rcases bind_eq_ok_iff.mp taken with ⟨⟨name, last⟩, named, done⟩
        cases done
        exact Or.inl ⟨own, rfl, place, name, here_eq_ok_iff.mp colon,
          here_eq_ok_iff.mp (inside_eq_ok_iff.mp named), rfl⟩
    · rintro (⟨_, rfl, place, name, colon, named, rfl⟩ | ⟨other, _⟩)
      · refine bind_eq_ok_iff.mpr ⟨place, here_eq_ok_iff.mpr colon, ?_⟩
        exact bind_eq_ok_iff.mpr
          ⟨_, inside_eq_ok_iff.mpr (here_eq_ok_iff.mpr named), rfl⟩
      · exact absurd own other
  · rw [if_neg own]
    constructor
    · intro taken
      rcases bind_eq_ok_iff.mp taken with ⟨place, colon, taken⟩
      rcases bind_eq_ok_iff.mp taken with ⟨⟨tree, last⟩, read, done⟩
      cases done
      exact Or.inr
        ⟨own, place, tree, here_eq_ok_iff.mp colon, inside_eq_ok_iff.mp read, rfl⟩
    · rintro (⟨same, _⟩ | ⟨_, place, tree, colon, read, rfl⟩)
      · exact absurd same own
      · refine bind_eq_ok_iff.mpr ⟨place, here_eq_ok_iff.mpr colon, ?_⟩
        exact bind_eq_ok_iff.mpr ⟨_, inside_eq_ok_iff.mpr read, rfl⟩

/-- How a tagged record is read: from an object that has its tag among its members, or from
a list with the name of the variant first. -/
inductive ReadsTagged (tag : String) (names : List String) : (depth : Nat) →
    (input after : Input) → String × Tree → Prop where
  | object {below : Nat} {input inner rest after : Input} {name : String}
    {others : List (String × Tree)} (starts : skipGap input = 0x7b :: inner)
    (gathered : readMembers (readTaggedMember tag names below) (inner.length + 1) true (none, [])
      inner = .ok ((some name, others), rest))
    (closes : closeObject rest = .ok after) :
    ReadsTagged tag names (below + 1) input after (name, .object others.reverse)
  | list {below : Nat} {input inner place between rest after : Input} {name : String}
    {items : List Tree} (starts : skipGap input = 0x5b :: inner)
    (next : nextElement true inner = .ok (true, place))
    (named : readVariantName names place = .ok (name, between))
    (elements : readItems (Tree.read below) (between.length + 1) 1 [] between = .ok (items, rest))
    (closes : closeList rest = .ok after) :
    ReadsTagged tag names (below + 1) input after (name, .list items)

theorem readTagged_eq_ok_iff {title tag : String} {names : List String} {depth : Nat}
    {input after : Input} {found : String × Tree} :
    readTagged title tag names depth input = .ok (found, after) ↔
      ReadsTagged tag names depth input after found := by
  constructor
  · intro read
    unfold readTagged at read
    split at read
    · cases read
    rename_i octet inner starts
    split at read
    · rename_i brace
      subst brace
      cases depth with
      | zero => cases read
      | succ below =>
        rcases bind_eq_ok_iff.mp read with ⟨⟨⟨name?, others⟩, rest⟩, gathered, read⟩
        cases name? with
        | none => cases read
        | some name =>
          rcases bind_eq_ok_iff.mp read with ⟨last, closes, done⟩
          cases done
          exact .object starts gathered (here_eq_ok_iff.mp closes)
    split at read
    · rename_i bracket
      subst bracket
      cases depth with
      | zero => cases read
      | succ below =>
        rcases bind_eq_ok_iff.mp read with ⟨⟨more, place⟩, next, read⟩
        cases more with
        | false => cases read
        | true =>
          rcases bind_eq_ok_iff.mp read with ⟨⟨name, between⟩, named, read⟩
          rcases bind_eq_ok_iff.mp read with ⟨⟨items, rest⟩, elements, read⟩
          rcases bind_eq_ok_iff.mp read with ⟨last, closes, done⟩
          cases done
          exact .list starts (here_eq_ok_iff.mp next)
            (here_eq_ok_iff.mp (inside_eq_ok_iff.mp named)) elements (here_eq_ok_iff.mp closes)
    · exact absurd (here_eq_ok_iff.mp read) misfit_ne_ok
  · intro view
    cases view with
    | object starts gathered closes =>
      rw [readTagged, starts]
      refine bind_eq_ok_iff.mpr ⟨_, gathered, ?_⟩
      exact bind_eq_ok_iff.mpr ⟨_, here_eq_ok_iff.mpr closes, rfl⟩
    | list starts next named elements closes =>
      rw [readTagged, starts]
      refine bind_eq_ok_iff.mpr ⟨_, here_eq_ok_iff.mpr next, ?_⟩
      refine bind_eq_ok_iff.mpr ⟨_, inside_eq_ok_iff.mpr (here_eq_ok_iff.mpr named), ?_⟩
      refine bind_eq_ok_iff.mpr ⟨_, elements, ?_⟩
      exact bind_eq_ok_iff.mpr ⟨_, here_eq_ok_iff.mpr closes, rfl⟩

/-! ## Whatever is read can be skipped -/

theorem skipped_of_readTagged {title tag : String} {names : List String} {depth : Nat}
    {input after : Input} {found : String × Tree}
    (read : readTagged title tag names depth input = .ok (found, after)) : Skipped input after := by
  cases readTagged_eq_ok_iff.mp read with
  | object starts gathered closes =>
    refine skipped_object starts fun frames => runs_of_readMembers ?_ frames gathered closes
    intro before key beyond next rest taken
    rcases readTaggedMember_eq_ok_iff.mp taken with
      ⟨_, _, place, name, colon, named, _⟩ | ⟨_, place, tree, colon, value, _⟩
    · rcases readVariantName_eq_ok_iff.mp named with ⟨_, quoted, opening, text⟩
      exact ⟨place, colon, skipped_text opening text⟩
    · exact ⟨place, colon, skipped_of_readTree value⟩
  | list starts next named elements closes =>
    rcases readVariantName_eq_ok_iff.mp named with ⟨_, quoted, opening, text⟩
    refine skipped_list starts fun frames => ?_
    exact (runs_element (nextElement_eq_ok_iff.mp next) (skipped_text opening text) frames).trans
      (runs_of_readItems skipped_of_readTree frames elements closes)

mutual

/-- What is read as a value of a shape can be skipped. -/
theorem Shape.skipped_of_read : (shape : Shape) → {depth : Nat} → {input after : Input} →
    {value : shape.Value} → shape.read depth input = .ok (value, after) → Skipped input after
  | .text, _, _, _, _, read => by
    rcases readString_eq_ok_iff.mp (here_eq_ok_iff.mp read) with ⟨rest, starts, text⟩
    exact skipped_text starts text
  | .real, _, _, _, _, read => by
    rcases readNumber_eq_ok_iff.mp (here_eq_ok_iff.mp read) with
      ⟨octet, rest, number, starts, begins, numeral, _⟩
    exact skipped_number starts begins numeral
  | .int64, _, _, _, _, read => by
    rcases readNumber_eq_ok_iff.mp (here_eq_ok_iff.mp read) with
      ⟨octet, rest, number, starts, begins, numeral, _⟩
    exact skipped_number starts begins numeral
  | .nat64, _, _, _, _, read => by
    rcases readNumber_eq_ok_iff.mp (here_eq_ok_iff.mp read) with
      ⟨octet, rest, number, starts, begins, numeral, _⟩
    exact skipped_number starts begins numeral
  | .optional inner, _, _, _, _, read => by
    rcases Shape.read_optional_eq_ok_iff.mp read with
      ⟨rest, starts, word, _⟩ | ⟨_, value, read, _⟩
    · exact skipped_word starts (by decide) word
    · exact Shape.skipped_of_read inner read
  | .list item, _, _, _, _, read => by
    rcases Shape.read_list_eq_ok_iff.mp read with ⟨inner, below, starts, _, elements⟩
    rcases readList_eq_ok_iff.mp elements with ⟨rest, elements, closes⟩
    exact skipped_list starts fun frames =>
      runs_of_readItems (Shape.skipped_of_read item) frames elements closes
  | .choice first others, _, _, _, _, read => by
    cases readChoice_eq_ok_iff.mp (here_eq_ok_iff.mp read) with
    | name starts text _ => exact skipped_text starts text
    | object starts _ key _ colon null met closes =>
      rcases readString_eq_ok_iff.mp key with ⟨quoted, opening, text⟩
      refine skipped_object starts fun frames => ?_
      refine .step (skipStep_key (.opening rfl opening text) colon frames) ?_
      refine (skipped_word null (by decide) met (.object :: frames)).trans ?_
      exact .step (skipStep_close false .object (closeObject_eq_ok_iff.mp closes))
        (.refl _ _)
  | .dictionary entry, _, _, _, _, read => by
    rcases Shape.read_dictionary_eq_ok_iff.mp read with
      ⟨inner, below, rest, starts, _, gathered, closes⟩
    refine skipped_object starts fun frames => runs_of_readMembers ?_ frames gathered closes
    intro entries key beyond next rest taken
    rcases readEntry_eq_ok_iff.mp taken with ⟨place, value, colon, read, _⟩
    exact ⟨place, colon, Shape.skipped_of_read entry read⟩
  | .record title fields, _, _, _, _, read => by
    cases Shape.read_record_eq_ok_iff.mp read with
    | object starts gathered _ closes =>
      exact skipped_object starts fun frames =>
        runs_of_readMembers (Fields.skipped_of_placeMember fields) frames gathered closes
    | list starts elements closes =>
      exact skipped_list starts fun frames =>
        Fields.runs_of_readElements fields elements closes frames
  | .tagged title tag variants, _, _, _, _, read => by
    rw [Shape.read] at read
    rcases bind_eq_ok_iff.mp read with ⟨⟨found, last⟩, tagged, read⟩
    rcases bind_eq_ok_iff.mp read with ⟨value, _, done⟩
    cases done
    exact skipped_of_readTagged tagged

theorem Fields.skipped_of_placeMember : (fields : Fields) → {depth : Nat} →
    {slots : fields.Slots} → {key : String} → {beyond : Input} → {next : fields.Slots} →
      {after : Input} → fields.placeMember depth slots key beyond = .ok (next, after) →
        ∃ place, expectColon beyond = .ok place ∧ Skipped place after
  | .nil, _, _, _, _, _, _, placed => by
    rcases Fields.placeMember_nil_eq_ok_iff.mp placed with ⟨place, colon, skipped, _⟩
    exact ⟨place, colon, skipped_iff.mpr skipped⟩
  | .cons key presence shape rest, _, _, _, _, _, _, placed => by
    rcases Fields.placeMember_cons_eq_ok_iff.mp placed with
      ⟨_, _, place, value, colon, read, _⟩ | ⟨_, others, placed, _⟩
    · exact ⟨place, colon, Shape.skipped_of_read shape read⟩
    · exact Fields.skipped_of_placeMember rest placed

theorem Fields.runs_of_readElements {title : String} {total : Nat} : (fields : Fields) →
    {depth index : Nat} → {input rest after : Input} → {values : fields.Value} →
      fields.readElements title total depth index input = .ok (values, rest) →
        closeList rest = .ok after → ∀ frames,
          Runs ⟨.list :: frames, dueBefore (index == 0)⟩ input ⟨frames, .next⟩ after
  | .nil, _, _, _, _, _, _, read, closes, frames => by
    cases read
    exact .step (skipStep_close _ .list (closeList_eq_ok_iff.mp closes)) (.refl _ _)
  | .cons key presence shape rest, _, _, _, _, _, _, read, closes, frames => by
    rcases Fields.readElements_cons_eq_ok_iff.mp read with
      ⟨place, value, between, values, next, element, read, _⟩ |
      ⟨place, values, next, _, read, _⟩
    · have one := runs_element (nextElement_eq_ok_iff.mp next)
        (Shape.skipped_of_read shape element) frames
      exact one.trans (Fields.runs_of_readElements rest read closes frames)
    · cases nextElement_eq_ok_iff.mp next with
      | close starts =>
        have ends := Fields.readElements_at_close rest read (skipGap_cons (by decide) _)
        rw [closeList_eq_ok_iff.mp closes] at ends
        cases ends
        exact .step (skipStep_close _ .list starts) (.refl _ _)

end

end Json
end LendingGateway
