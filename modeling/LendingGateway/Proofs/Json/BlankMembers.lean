import LendingGateway.Proofs.Json.Variation

namespace LendingGateway
namespace Json

/-!
# Members that say nothing

A field that may be missing is blank when it is.  So a member that can only stand for the blank
value may be written or not: an object with it has the values of the object without it, and so
has every document in which the one object takes the place of the other.
-/

/-- One of the fields has a key and a shape, and need not be given. -/
def Fields.MayLack (key : String) (shape : Shape) : Fields → Prop
  | .nil => False
  | .cons name presence first rest =>
    (name = key ∧ first = shape ∧ presence ≠ .required) ∨ rest.MayLack key shape

theorem Fields.has_of_mayLack {key : String} {shape : Shape} : (fields : Fields) →
    fields.MayLack key shape → fields.Has key shape
  | .cons _ _ _ _, .inl ⟨same, alike, _⟩ => Or.inl ⟨same, alike⟩
  | .cons _ _ _ rest, .inr later => Or.inr (Fields.has_of_mayLack rest later)

/-- A document has no value by a shape but the blank one. -/
def Shape.MeansBlank (shape : Shape) (document : Document) : Prop :=
  ∀ value, shape.Means document value ↔ value = shape.blank

section LeftOut

variable {key : String} {shape : Shape} {member : Member Document}
  {before after : List (Member Document)}

theorem membersNamed_insert_alone (named : member.name? = some key)
    (alone : membersNamed key (before ++ after) = []) :
    membersNamed key (before ++ member :: after) = [member] := by
  rw [membersNamed, List.filter_append, List.append_eq_nil_iff] at alone
  rw [membersNamed, List.filter_append, alone.1, List.filter_cons,
    if_pos (decide_eq_true named), alone.2]
  rfl

/-- A member that says nothing may be left out of the members of a record. -/
theorem Fields.holds_leftOut_iff (named : member.name? = some key)
    (alone : membersNamed key (before ++ after) = [])
    (blank : shape.MeansBlank member.element.value) :
    (fields : Fields) → fields.wellFormed = true → fields.MayLack key shape →
      (values : fields.Value) →
        (fields.Holds (before ++ after) values ↔ fields.Holds (before ++ member :: after) values)
  | .cons name presence first rest, formed, .inl ⟨same, alike, free⟩, (value, values) => by
    subst same alike
    have later := Fields.holds_insert_iff named before after rest
      (Fields.wellFormed_cons formed).1 values
    rw [Fields.Holds, Fields.Holds, membersNamed_insert_alone named alone, alone, later]
    refine and_congr_left' ⟨?_, ?_⟩
    · rintro (⟨_, _, nothing⟩ | ⟨_, impossible, _⟩)
      · exact Or.inr ⟨member, rfl, (blank value).mpr nothing⟩
      · cases impossible
    · rintro (⟨impossible, _⟩ | ⟨other, only, means⟩)
      · cases impossible
      · cases only
        exact Or.inl ⟨rfl, free, (blank value).mp means⟩
  | .cons name presence first rest, formed, .inr later, (value, values) => by
    rcases Fields.wellFormed_cons formed with ⟨fresh, _, others⟩
    have different : key ≠ name := by
      rintro rfl
      exact fresh (Fields.mem_keys_of_has rest (Fields.has_of_mayLack rest later))
    rw [Fields.Holds, Fields.Holds, membersNamed_insert named different,
      Fields.holds_leftOut_iff named alone blank rest others later values]

theorem sameMeaning_of_leftOut {fields : Fields} (formed : fields.wellFormed = true)
    (field : fields.MayLack key shape) (named : member.name? = some key)
    (alone : membersNamed key (before ++ after) = [])
    (blank : shape.MeansBlank member.element.value) (title : String) (opening : Gap) :
    (Shape.record title fields).SameMeaning (.object opening (before ++ after))
      (.object opening (before ++ member :: after)) := by
  intro values
  rw [Shape.means_object_iff, Shape.means_object_iff]
  refine and_congr ?_ (Fields.holds_leftOut_iff named alone blank fields formed field values)
  rw [List.forall_mem_append, List.forall_mem_append, List.forall_mem_cons]
  exact and_congr_right' (and_iff_right ⟨key, named⟩).symm

end LeftOut

theorem Shape.meansBlank_null (inner : Shape) : (Shape.optional inner).MeansBlank .null := by
  intro held
  constructor
  · rintro (⟨_, nothing⟩ | ⟨present, _⟩)
    · exact nothing
    · exact absurd rfl present
  · exact fun nothing => Or.inl ⟨rfl, nothing⟩

/-- Whether no field of a record has to be given. -/
def Fields.free : Fields → Bool
  | .nil => true
  | .cons _ presence _ rest => decide (presence ≠ .required) && rest.free

theorem Fields.holds_nil_iff : (fields : Fields) → fields.free = true →
    (values : fields.Value) → (fields.Holds [] values ↔ values = fields.blank)
  | .nil, _, _ => iff_of_true trivial rfl
  | .cons key presence shape rest, free, (value, values) => by
    rw [Fields.free, Bool.and_eq_true, decide_eq_true_eq] at free
    rw [Fields.Holds, Fields.holds_nil_iff rest free.2 values, Fields.blank, Prod.mk.injEq]
    refine and_congr_left' ⟨?_, fun nothing => Or.inl ⟨rfl, free.1, nothing⟩⟩
    rintro (⟨_, _, nothing⟩ | ⟨_, impossible, _⟩)
    · exact nothing
    · cases impossible

/-- An object without members is blank where no field has to be given. -/
theorem Shape.meansBlank_empty {title : String} {fields : Fields} (free : fields.free = true)
    (opening : Gap) : (Shape.record title fields).MeansBlank (.object opening []) := by
  intro values
  rw [Shape.means_object_iff, Fields.holds_nil_iff fields free values]
  exact and_iff_right fun _ impossible => absurd impossible List.not_mem_nil

theorem Shape.MeansBlank.of_sameMeaning {shape : Shape} {first second : Document}
    (blank : shape.MeansBlank first) (same : shape.SameMeaning first second) :
    shape.MeansBlank second :=
  fun value => (same value).symm.trans (blank value)

end Json
end LendingGateway
