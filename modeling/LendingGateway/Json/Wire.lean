import LendingGateway.Json.Decode
import LendingGateway.Json.Encode

namespace LendingGateway
namespace Json

/-!
# Types with a document form

A type of the gateway has a document form when its values are the values of a shape.
Its text is then written and read by the shape alone, and the type only says how its
fields correspond to those of the record.
-/

/-- A type whose values are written as documents of a shape. -/
class Wire (α : Type) where
  shape : Shape
  toValue : α → shape.Value
  ofValue : shape.Value → α
  /-- Nothing is lost on the way to the shape. -/
  ofValue_toValue : ∀ value, ofValue (toValue value) = value

namespace Wire

variable {α : Type} [Wire α]

def tree (value : α) : Tree :=
  (shape α).toTree (toValue value)

def encode (value : α) : String :=
  (tree value).render

def decode (α : Type) [Wire α] (input : Input) : Except Fault α := do
  let value ← (shape α).parse input
  .ok (ofValue value)

end Wire

/-- A list is written as a list of what its elements are written as. -/
instance {α : Type} [Wire α] : Wire (List α) where
  shape := .list (Wire.shape α)
  toValue items := items.map Wire.toValue
  ofValue (items : List (Wire.shape α).Value) := items.map Wire.ofValue
  ofValue_toValue items := by
    rw [List.map_map]
    exact List.map_id'' Wire.ofValue_toValue items

/-- A dictionary is written with what its values are written as. -/
instance {α : Type} [Wire α] : Wire (Dictionary α) where
  shape := .dictionary (Wire.shape α)
  toValue entries := entries.map Wire.toValue
  ofValue (entries : Dictionary (Wire.shape α).Value) := entries.map Wire.ofValue
  ofValue_toValue entries := Dictionary.map_inverse Wire.ofValue_toValue entries

end Json
end LendingGateway
