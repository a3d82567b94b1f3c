import LendingGateway.Proofs.Json.RoundTrip
import LendingGateway.Proofs.Json.WrittenNumbers

namespace LendingGateway
namespace Json

/-!
# Values with other reals

A finite real need not read back as itself, but it reads back as some real.  So the text of a
value with finite reals is read as a value that differs from it in its reals only.  A real that
is not finite is written as null, which is no real.
-/

/-! ## What is read for a real -/

/-- The real that is read from the text of a finite one. -/
def reread (real : Float) : Float :=
  match readNumeral (Text.octets (Decimal.writeReal real)) with
  | .ok (.real read, _) => read
  | _ => real

/-- What is read where a number was written. -/
def Numeral.restored : Numeral → Tree
  | .integer value => .number (.integer value)
  | .real value => if value.isNaN || value.isInf then .null else .number (.real (reread value))

theorem restored_of_isFinite {real : Float} (finite : real.isFinite = true) :
    Numeral.restored (.real real) = .number (.real (reread real)) := by
  rw [Numeral.restored, Decimal.isFinite_iff.mp finite]
  rfl

theorem readNumeral_writeReal {real : Float} (finite : real.isFinite = true) :
    readNumeral (Text.octets (Decimal.writeReal real)) = .ok (.real (reread real), []) := by
  rcases (isModerateText_writeReal finite).read with ⟨value, read⟩
  rcases real_of_readNumeral read with ⟨meant, rfl⟩
  rw [reread, read]

/-- Every number is read as something from its text. -/
theorem restores_restored : Restores Numeral.restored fun _ => True where
  integer _ := rfl
  real real _ := by
    have text : renderNumeral (.real real) =
      if real.isNaN || real.isInf then "null" else Decimal.writeReal real := rfl
    by_cases finite : real.isFinite = true
    · rw [restored_of_isFinite finite]
      rw [Decimal.isFinite_iff.mp finite] at text
      refine .number ?_
      rw [Numeral.RestoresTo, text]
      exact readNumeral_writeReal finite
    · rw [Decimal.isFinite_iff, Bool.not_eq_false] at finite
      rw [Numeral.restored, finite]
      rw [finite] at text
      exact .null text

/-! ## Changing the reals of a value -/

mutual

/-- A value with other reals. -/
def Shape.mapReals (change : Float → Float) : (shape : Shape) → shape.Value → shape.Value
  | .real, (real : Float) => change real
  | .optional inner, held => held.map (inner.mapReals change)
  | .list item, items => items.map (item.mapReals change)
  | .dictionary entry, entries => entries.map (entry.mapReals change)
  | .record _ fields, values => fields.mapReals change values
  | .tagged _ _ variants, value => variants.mapReals change value
  | .text, text => text
  | .int64, number => number
  | .nat64, number => number
  | .choice _ _, position => position

def Fields.mapReals (change : Float → Float) : (fields : Fields) → fields.Value → fields.Value
  | .nil, _ => ()
  | .cons _ _ shape rest, (value, values) =>
    (shape.mapReals change value, rest.mapReals change values)

def Variants.mapReals (change : Float → Float) : (variants : Variants) → variants.Value →
    variants.Value
  | .one _ _ fields, values => fields.mapReals change values
  | .more _ _ fields rest, value =>
    match value with
    | .inl values => .inl (fields.mapReals change values)
    | .inr value => .inr (rest.mapReals change value)

end

section Changing

variable {change : Float → Float} {restore : Numeral → Tree}

mutual

/-- Reals always say something, so other reals leave nothing out. -/
theorem Shape.isBlank_mapReals : (shape : Shape) → (value : shape.Value) →
    shape.isBlank (shape.mapReals change value) = shape.isBlank value
  | .real, _ => rfl
  | .optional _, held => by cases held <;> rfl
  | .list _, items => by cases items <;> rfl
  | .dictionary _, entries => by
    rcases entries with ⟨entries, distinct⟩
    cases entries <;> rfl
  | .record _ fields, values => Fields.isBlank_mapReals fields values
  | .tagged _ _ _, _ => rfl
  | .text, _ | .int64, _ | .nat64, _ | .choice _ _, _ => rfl

theorem Fields.isBlank_mapReals : (fields : Fields) → (values : fields.Value) →
    fields.isBlank (fields.mapReals change values) = fields.isBlank values
  | .nil, _ => rfl
  | .cons _ _ shape rest, (value, values) => by
    rw [Fields.mapReals, Fields.isBlank, Fields.isBlank, Shape.isBlank_mapReals shape value,
      Fields.isBlank_mapReals rest values]

end

/-- Where a number was written another one is read: the same integer, or the changed real if the
real has a property. -/
structure Changes (change : Float → Float) (restore : Numeral → Tree) (holds : Float → Prop) :
    Prop where
  integer : ∀ value, restore (.integer value) = .number (.integer value)
  real : ∀ real, holds real → restore (.real real) = .number (.real (change real))

variable {holds : Float → Prop}

mutual

/-- The tree of a value with other reals is the tree of the value with other numbers. -/
theorem Shape.toTree_mapReals (changes : Changes change restore holds) : (shape : Shape) →
    (value : shape.Value) → shape.EveryReal holds value →
      shape.toTree (shape.mapReals change value) = (shape.toTree value).mapNumbers restore
  | .real, real, each => (changes.real real each).symm
  | .optional inner, held, each => by
    cases held with
    | none => rfl
    | some value => exact Shape.toTree_mapReals changes inner value (each value rfl)
  | .list item, items, each => by
    have same : ∀ value ∈ items, item.toTree (item.mapReals change value) =
        (item.toTree value).mapNumbers restore :=
      fun value member => Shape.toTree_mapReals changes item value (each value member)
    rw [Shape.toTree, Shape.toTree, Shape.mapReals, Tree.mapNumbers, mapItems_eq_map, List.map_map,
      List.map_map, Tree.list.injEq]
    exact List.map_congr_left same
  | .dictionary entry, entries, each => by
    have same : ∀ held ∈ entries.entries, (held.1, entry.toTree (entry.mapReals change held.2)) =
        mapMember restore (held.1, entry.toTree held.2) := fun held member =>
      congrArg (Prod.mk held.1) (Shape.toTree_mapReals changes entry held.2 (each held member))
    rw [Shape.toTree, Shape.toTree, Shape.mapReals, Tree.mapNumbers, mapMembers_eq_map,
      Dictionary.map, List.map_map, List.map_map, Tree.object.injEq]
    exact List.map_congr_left same
  | .record _ fields, values, each => by
    rw [Shape.toTree, Shape.toTree, Shape.mapReals, Tree.mapNumbers, mapMembers_eq_map,
      Fields.toMembers_mapReals changes fields values each]
  | .tagged _ tag variants, value, each => by
    rw [Shape.toTree, Shape.toTree, Shape.mapReals, Tree.mapNumbers, mapMembers_eq_map,
      Variants.toMembers_mapReals changes tag variants value each]
  | .text, _, _ => rfl
  | .int64, number, _ => (changes.integer _).symm
  | .nat64, number, _ => (changes.integer _).symm
  | .choice _ _, _, _ => rfl

theorem Fields.toMembers_mapReals (changes : Changes change restore holds) : (fields : Fields) →
    (values : fields.Value) → fields.EveryReal holds values →
      fields.toMembers (fields.mapReals change values) =
        (fields.toMembers values).map (mapMember restore)
  | .nil, _, _ => rfl
  | .cons key presence shape rest, (value, values), each => by
    have later := Fields.toMembers_mapReals changes rest values each.2
    rw [Fields.mapReals, Fields.toMembers, Fields.toMembers, Shape.isBlank_mapReals]
    split
    · exact later
    · rw [List.map_cons, later, Shape.toTree_mapReals changes shape value each.1, mapMember]

theorem Variants.toMembers_mapReals (changes : Changes change restore holds) (tag : String) :
    (variants : Variants) → (value : variants.Value) → variants.EveryReal holds value →
      variants.toMembers tag (variants.mapReals change value) =
        (variants.toMembers tag value).map (mapMember restore)
  | .one name _ fields, values, each =>
    congrArg (List.cons (tag, Tree.text name))
      (Fields.toMembers_mapReals changes fields values each)
  | .more name _ fields _, .inl values, each =>
    congrArg (List.cons (tag, Tree.text name))
      (Fields.toMembers_mapReals changes fields values each)
  | .more _ _ _ rest, .inr value, each =>
    Variants.toMembers_mapReals changes tag rest value each

end

end Changing

/-! ## Tagged records -/

theorem changes_restored : Changes reread Numeral.restored fun real => real.isFinite = true where
  integer _ := rfl
  real _ finite := restored_of_isFinite finite

/-- A variant with finite reals is found in what its members are read as. -/
theorem Variants.ofTree_restored {tag name : String} {variants : Variants}
    {value : variants.Value} {body : List (String × Tree)} (formed : variants.wellFormed tag = true)
    (written : variants.toMembers tag value = (tag, .text name) :: body)
    (finite : variants.EveryReal (fun real => real.isFinite = true) value) :
    variants.ofTree name (.object (body.map (mapMember Numeral.restored))) =
      .ok (variants.mapReals reread value) := by
  rcases Variants.ofTree_toMembers tag variants formed (variants.mapReals reread value) with
    ⟨chosen, members, changed, _, _, read⟩
  rw [Variants.toMembers_mapReals changes_restored tag variants value finite, written,
    List.map_cons] at changed
  rcases List.cons.inj changed with ⟨first, rfl⟩
  have named := Tree.text.inj (congrArg Prod.snd first)
  rwa [← named] at read

end Json
end LendingGateway
