import LendingGateway.Proofs.Json.Restoring

namespace LendingGateway
namespace Json

open Traversal

/-!
# What is not there is not written

A tree is solid if no tree in it, at any depth, is written as null, and none is an empty object.
Whether the tree of every value of a shape is solid can be read off the shape: what may be
missing must be a field that is left out when it is, and an object whose fields may all be left
out must itself be such a field.
-/

/-! ## Solid trees -/

/-- A tree stands in another one, or is it. -/
inductive Tree.PartOf (part : Tree) : Tree → Prop where
  | self : PartOf part part
  | item {items : List Tree} {item : Tree} (held : item ∈ items) (inner : PartOf part item) :
    PartOf part (.list items)
  | member {members : List (String × Tree)} {member : String × Tree} (held : member ∈ members)
    (inner : PartOf part member.2) : PartOf part (.object members)

/-- Every part of a tree says something. -/
def Tree.Solid (tree : Tree) : Prop :=
  ∀ part : Tree, part.PartOf tree → part.render ≠ "null" ∧ part ≠ .object []

/-- A text that begins with another letter is not null. -/
theorem ne_null_of_octets {text : String} {octet : UInt8} {others : Input}
    (begins : Text.octets text = octet :: others) (other : octet ≠ 0x6e) : text ≠ "null" := by
  rintro rfl
  have letter : Text.octets "null" = [0x6e, 0x75, 0x6c, 0x6c] := rfl
  rw [letter] at begins
  exact other (List.cons.inj begins).1.symm

theorem Tree.solid_text (text : String) : (Tree.text text).Solid := by
  intro part inside
  cases inside with
  | self =>
    have begins := octets_render_text text []
    rw [List.append_nil] at begins
    exact ⟨ne_null_of_octets begins (by decide), nofun⟩

theorem Tree.solid_number {number restored : Numeral} (restores : number.RestoresTo restored) :
    (Tree.number number).Solid := by
  intro part inside
  cases inside with
  | self =>
    rcases restores.head with ⟨octet, others, begins, head⟩
    exact ⟨ne_null_of_octets begins (number_head head).2.2.2.2.2.1, nofun⟩

theorem restoresTo_of_isFinite {real : Float} (finite : real.isFinite = true) :
    (Numeral.real real).RestoresTo (.real (reread real)) := by
  have written : renderNumeral (.real real) =
    if real.isNaN || real.isInf then "null" else Decimal.writeReal real := rfl
  rw [Decimal.isFinite_iff.mp finite] at written
  rw [Numeral.RestoresTo, written]
  exact readNumeral_writeReal finite

theorem Tree.solid_list {items : List Tree} (each : ∀ item ∈ items, item.Solid) :
    (Tree.list items).Solid := by
  intro part inside
  cases inside with
  | self =>
    have begins := octets_render_list items []
    rw [List.append_nil] at begins
    exact ⟨ne_null_of_octets begins (by decide), nofun⟩
  | item held inner => exact each _ held part inner

theorem Tree.solid_object {members : List (String × Tree)} (nonempty : members ≠ [])
    (each : ∀ member ∈ members, member.2.Solid) : (Tree.object members).Solid := by
  intro part inside
  cases inside with
  | self =>
    have begins := octets_render_object members []
    rw [List.append_nil] at begins
    exact ⟨ne_null_of_octets begins (by decide), fun empty => nonempty (Tree.object.inj empty)⟩
  | member held inner => exact each _ held part inner

/-! ## Places in a tree -/

/-- What stands one step into a tree.  A key may be repeated, and then leads to several trees. -/
def Tree.behind (tree : Tree) : Segment → List Tree
  | .key name =>
    match tree with
    | .object members => (members.filter fun member => member.1 = name).map Prod.snd
    | _ => []
  | .index position =>
    match tree with
    | .list items => items[position]?.toList
    | _ => []

/-- What stands at the end of a path into a tree. -/
def Tree.follow : List Segment → Tree → List Tree
  | [], tree => [tree]
  | segment :: path, tree => (tree.behind segment).flatMap (Tree.follow path)

theorem Tree.follow_of_behind {tree next : Tree} {segment : Segment}
    (leads : tree.behind segment = [next]) (path : List Segment) :
    tree.follow (segment :: path) = next.follow path := by
  rw [Tree.follow, leads, List.flatMap_singleton]

theorem Tree.follow_index {α : Type} (write : α → Tree) (values : List α) (position : Nat)
    (path : List Segment) :
    (Tree.list (values.map write)).follow (.index position :: path) =
      values[position]?.toList.flatMap fun value => (write value).follow path := by
  change ((values.map write)[position]?).toList.flatMap (Tree.follow path) = _
  rw [List.getElem?_map, Option.toList_map, List.flatMap_map]

theorem Tree.ne_of_follow_eq_nil {members : List (String × Tree)} {name : String}
    (nothing : (Tree.object members).follow [.key name] = []) :
    ∀ member ∈ members, member.1 ≠ name := by
  intro member held same
  have found : member.2 ∈ (Tree.object members).behind (.key name) :=
    List.mem_map_of_mem (List.mem_filter.mpr ⟨held, decide_eq_true same⟩)
  have followed : member.2 ∈ (Tree.object members).follow [.key name] :=
    List.mem_flatMap.mpr ⟨member.2, found, List.mem_cons_self⟩
  rw [nothing] at followed
  cases followed

/-! ## Shapes with solid trees -/

/-- Whether some field of a record is always written. -/
def Fields.someStays : Fields → Bool
  | .nil => false
  | .cons _ presence _ rest => decide (presence ≠ .elided) || rest.someStays

mutual

/-- Whether the tree of every value of a shape is solid; where a blank value is left out, only
of every value that says something. -/
def Shape.solid : Shape → (leftOut : Bool) → Bool
  | .text, _ | .real, _ | .int64, _ | .nat64, _ | .choice _ _, _ => true
  | .optional inner, leftOut => leftOut && inner.solid false
  | .list item, _ => item.solid false
  | .dictionary entry, leftOut => leftOut && entry.solid false
  | .record _ fields, leftOut => (leftOut || fields.someStays) && fields.solid
  | .tagged _ _ variants, _ => variants.solid

def Fields.solid : Fields → Bool
  | .nil => true
  | .cons _ presence shape rest => shape.solid (decide (presence = .elided)) && rest.solid

def Variants.solid : Variants → Bool
  | .one _ _ fields => fields.solid
  | .more _ _ fields rest => fields.solid && rest.solid

end

/-- A record is written with some member if one of its fields stays or says something. -/
theorem Fields.toMembers_ne_nil : (fields : Fields) → (values : fields.Value) →
    fields.someStays = true ∨ fields.isBlank values = false → fields.toMembers values ≠ []
  | .nil, _, tells => by simp [Fields.someStays, Fields.isBlank] at tells
  | .cons key presence shape rest, (value, values), tells => by
    rw [Fields.toMembers]
    split
    · rename_i omitted
      refine Fields.toMembers_ne_nil rest values (tells.imp ?_ ?_)
      · intro stays
        rw [Fields.someStays, Bool.or_eq_true, decide_eq_true_eq] at stays
        exact stays.resolve_left fun written => written omitted.1
      · intro told
        rw [Fields.isBlank, omitted.2, Bool.true_and] at told
        exact told
    · exact List.cons_ne_nil _ _

/-- The reals of a value are finite, so that each of them has a literal. -/
abbrev Shape.Finite (shape : Shape) (value : shape.Value) : Prop :=
  shape.EveryReal (fun real => real.isFinite = true) value

mutual

theorem Shape.solid_toTree : (shape : Shape) → {leftOut : Bool} → shape.solid leftOut = true →
    (value : shape.Value) → shape.Finite value →
      (leftOut = true → shape.isBlank value = false) → (shape.toTree value).Solid
  | .text, _, _, text, _, _ => Tree.solid_text text
  | .real, _, _, _, finite, _ => Tree.solid_number (restoresTo_of_isFinite finite)
  | .int64, _, _, number, _, _ => Tree.solid_number (legible_int64 number)
  | .nat64, _, _, number, _, _ => Tree.solid_number (legible_nat64 number)
  | .choice _ _, _, _, _, _, _ => Tree.solid_text _
  | .optional inner, leftOut, solid, held, finite, tells => by
    rw [Shape.solid, Bool.and_eq_true] at solid
    have present := tells solid.1
    cases held with
    | none => cases present
    | some value => exact Shape.solid_toTree inner solid.2 value (finite value rfl) nofun
  | .list item, _, solid, items, finite, _ => by
    refine Tree.solid_list fun tree member => ?_
    rcases List.mem_map.mp member with ⟨value, held, rfl⟩
    exact Shape.solid_toTree item solid value (finite value held) nofun
  | .dictionary entry, leftOut, solid, entries, finite, tells => by
    rw [Shape.solid, Bool.and_eq_true] at solid
    have present := tells solid.1
    refine Tree.solid_object ?_ fun member held => ?_
    · intro empty
      rw [Shape.isBlank, Dictionary.isEmpty, List.map_eq_nil_iff.mp empty] at present
      cases present
    · rcases List.mem_map.mp held with ⟨pair, found, rfl⟩
      exact Shape.solid_toTree entry solid.2 pair.2 (finite pair found) nofun
  | .record _ fields, leftOut, solid, values, finite, tells => by
    rw [Shape.solid, Bool.and_eq_true, Bool.or_eq_true] at solid
    refine Tree.solid_object (Fields.toMembers_ne_nil fields values ?_)
      (Fields.solid_toMembers fields solid.2 values finite)
    exact solid.1.symm.imp_right tells
  | .tagged _ tag variants, _, solid, value, finite, _ => by
    have written := Variants.solid_toMembers tag variants solid value finite
    exact Tree.solid_object written.1 written.2

theorem Fields.solid_toMembers : (fields : Fields) → fields.solid = true →
    (values : fields.Value) → fields.EveryReal (fun real => real.isFinite = true) values →
      ∀ member ∈ fields.toMembers values, member.2.Solid
  | .nil, _, _, _ => fun _ held => absurd held List.not_mem_nil
  | .cons key presence shape rest, solid, (value, values), finite => by
    rw [Fields.solid, Bool.and_eq_true] at solid
    have others := Fields.solid_toMembers rest solid.2 values finite.2
    rw [Fields.toMembers]
    split
    · exact others
    · rename_i written
      refine List.forall_mem_cons.mpr ⟨?_, others⟩
      refine Shape.solid_toTree shape solid.1 value finite.1 fun leftOut => ?_
      rw [decide_eq_true_eq] at leftOut
      exact Bool.eq_false_iff.mpr fun blank => written ⟨leftOut, blank⟩

theorem Variants.solid_toMembers (tag : String) : (variants : Variants) →
    variants.solid = true → (value : variants.Value) →
      variants.EveryReal (fun real => real.isFinite = true) value →
        variants.toMembers tag value ≠ [] ∧
          ∀ member ∈ variants.toMembers tag value, member.2.Solid
  | .one name _ fields, solid, values, finite => by
    refine ⟨List.cons_ne_nil _ _, List.forall_mem_cons.mpr ⟨Tree.solid_text name, ?_⟩⟩
    exact Fields.solid_toMembers fields solid values finite
  | .more name _ fields rest, solid, .inl values, finite => by
    rw [Variants.solid, Bool.and_eq_true] at solid
    refine ⟨List.cons_ne_nil _ _, List.forall_mem_cons.mpr ⟨Tree.solid_text name, ?_⟩⟩
    exact Fields.solid_toMembers fields solid.1 values finite
  | .more name _ fields rest, solid, .inr value, finite => by
    rw [Variants.solid, Bool.and_eq_true] at solid
    exact Variants.solid_toMembers tag rest solid.2 value finite

end

end Json
end LendingGateway
