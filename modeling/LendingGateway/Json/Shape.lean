import LendingGateway.Json.Dictionary

namespace LendingGateway
namespace Json

/-!
# Shapes

A shape says which documents a type of the gateway is written as.  It is data, so one
reader and one writer serve every type, and a law about them is proved once for all
shapes.  `Shape.Value` gives the type of what a document of a shape holds; a record
holds the values of its fields in the order of their declaration.
-/

/-- What becomes of a field whose value is missing or says nothing. -/
inductive Presence where
  /-- A document without the field is at fault. -/
  | required
  /-- A missing field has the blank value; the field is always written. -/
  | defaulted
  /-- A missing field has the blank value; a blank field is not written. -/
  | elided
deriving DecidableEq, Repr

mutual

/-- The shapes of documents. -/
inductive Shape where
  | text
  | real
  | int64
  | nat64
  /-- A value or null. -/
  | optional (inner : Shape)
  | list (item : Shape)
  /-- One of some names, of which there is at least one. -/
  | choice (first : String) (others : List String)
  /-- An object with arbitrary keys. -/
  | dictionary (entry : Shape)
  /-- An object with known keys.  The title is how messages call the record. -/
  | record (title : String) (fields : Fields)
  /-- One of several records, told apart by a member that names the variant. -/
  | tagged (title tag : String) (variants : Variants)

/-- The fields of a record in the order of their declaration. -/
inductive Fields where
  | nil
  | cons (key : String) (presence : Presence) (shape : Shape) (rest : Fields)

/-- The variants of a tagged choice, of which there is at least one. -/
inductive Variants where
  | one (name title : String) (fields : Fields)
  | more (name title : String) (fields : Fields) (rest : Variants)

end

mutual

/-- What a document of a shape holds. -/
@[reducible]
def Shape.Value : Shape → Type
  | .text => String
  | .real => Float
  | .int64 => Int64
  | .nat64 => UInt64
  | .optional inner => Option inner.Value
  | .list item => List item.Value
  | .choice _ others => Fin (others.length + 1)
  | .dictionary entry => Dictionary entry.Value
  | .record _ fields => fields.Value
  | .tagged _ _ variants => variants.Value

/-- What a record holds: the values of its fields. -/
@[reducible]
def Fields.Value : Fields → Type
  | .nil => Unit
  | .cons _ _ shape rest => shape.Value × rest.Value

/-- What a tagged choice holds: the fields of one of its variants. -/
@[reducible]
def Variants.Value : Variants → Type
  | .one _ _ fields => fields.Value
  | .more _ _ fields rest => fields.Value ⊕ rest.Value

end

mutual

/-- The value of a shape that says nothing. -/
def Shape.blank : (shape : Shape) → shape.Value
  | .text => ""
  | .real => (0.0 : Float)
  | .int64 => (0 : Int64)
  | .nat64 => (0 : UInt64)
  | .optional _ => none
  | .list _ => []
  | .choice _ others => (0 : Fin (others.length + 1))
  | .dictionary _ => Dictionary.empty
  | .record _ fields => fields.blank
  | .tagged _ _ variants => variants.blank

/-- The record whose fields all say nothing. -/
def Fields.blank : (fields : Fields) → fields.Value
  | .nil => ()
  | .cons _ _ shape rest => (shape.blank, rest.blank)

/-- The first variant with fields that say nothing. -/
def Variants.blank : (variants : Variants) → variants.Value
  | .one _ _ fields => fields.blank
  | .more _ _ fields _ => .inl fields.blank

end

mutual

/-- Whether a value may be left out because it says nothing.  Reals and choices always
say something. -/
def Shape.isBlank : (shape : Shape) → shape.Value → Bool
  | .text, text => decide (text = "")
  | .real, _ => false
  | .int64, number => decide (number = (0 : Int64))
  | .nat64, number => decide (number = (0 : UInt64))
  | .optional _, held => held.isNone
  | .list _, items => items.isEmpty
  | .choice _ _, _ => false
  | .dictionary _, entries => entries.isEmpty
  | .record _ fields, values => fields.isBlank values
  | .tagged _ _ _, _ => false

/-- Whether every field of a record says nothing. -/
def Fields.isBlank : (fields : Fields) → fields.Value → Bool
  | .nil, _ => true
  | .cons _ _ shape rest, (value, values) => shape.isBlank value && rest.isBlank values

end

mutual

/-- A value that may be left out is the one that takes its place. -/
theorem Shape.eq_blank_of_isBlank :
    (shape : Shape) → (value : shape.Value) → shape.isBlank value = true →
      value = shape.blank
  | .text, text, blank => by simpa [Shape.isBlank, Shape.blank] using blank
  | .real, _, blank => by simp [Shape.isBlank] at blank
  | .int64, number, blank => by simpa [Shape.isBlank, Shape.blank] using blank
  | .nat64, number, blank => by simpa [Shape.isBlank, Shape.blank] using blank
  | .optional _, held, blank => by simpa [Shape.isBlank, Shape.blank] using blank
  | .list _, items, blank => by simpa [Shape.isBlank, Shape.blank] using blank
  | .choice _ _, _, blank => by simp [Shape.isBlank] at blank
  | .dictionary _, entries, blank => by
    apply Dictionary.ext
    simpa [Shape.isBlank, Shape.blank, Dictionary.isEmpty, Dictionary.empty] using blank
  | .record _ fields, values, blank => Fields.eq_blank_of_isBlank fields values blank
  | .tagged _ _ _, _, blank => by simp [Shape.isBlank] at blank

/-- A record whose fields may all be left out is the blank record. -/
theorem Fields.eq_blank_of_isBlank :
    (fields : Fields) → (values : fields.Value) → fields.isBlank values = true →
      values = fields.blank
  | .nil, _, _ => rfl
  | .cons _ _ shape rest, (value, values), blank => by
    simp only [Fields.isBlank, Bool.and_eq_true] at blank
    exact Prod.ext (Shape.eq_blank_of_isBlank shape value blank.1)
      (Fields.eq_blank_of_isBlank rest values blank.2)

end

def Fields.count : Fields → Nat
  | .nil => 0
  | .cons _ _ _ rest => rest.count + 1

def Fields.keys : Fields → List String
  | .nil => []
  | .cons key _ _ rest => key :: rest.keys

def Variants.names : Variants → List String
  | .one name _ _ => [name]
  | .more name _ _ rest => name :: rest.names

end Json
end LendingGateway
