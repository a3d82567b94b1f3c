import LendingGateway.Json.Shape
import LendingGateway.Json.Tree

namespace LendingGateway
namespace Json

/-!
# Writing a value by its shape

The tree of a value has the fields of a record in the order of their declaration, less
those that are elided and say nothing.  A tagged record has its tag in front.
-/

mutual

def Shape.toTree : (shape : Shape) → shape.Value → Tree
  | .text, text => .text text
  | .real, (number : Float) => .number (.real number)
  | .int64, (number : Int64) => .number (.integer number.toInt)
  | .nat64, (number : UInt64) => .number (.integer number.toNat)
  | .optional inner, held =>
    match held with
    | none => .null
    | some value => inner.toTree value
  | .list item, items => .list (items.map item.toTree)
  | .choice first others, (name : Fin (others.length + 1)) => .text ((first :: others).get name)
  | .dictionary entry, entries =>
    .object (entries.entries.map fun (key, value) => (key, entry.toTree value))
  | .record _ fields, values => .object (fields.toMembers values)
  | .tagged _ tag variants, value => .object (variants.toMembers tag value)

/-- The members that hold the fields of a record. -/
def Fields.toMembers : (fields : Fields) → fields.Value → List (String × Tree)
  | .nil, _ => []
  | .cons key presence shape rest, (value, values) =>
    if presence = .elided ∧ shape.isBlank value = true then rest.toMembers values
    else (key, shape.toTree value) :: rest.toMembers values

def Variants.toMembers (tag : String) : (variants : Variants) → variants.Value →
    List (String × Tree)
  | .one name _ fields, values => (tag, .text name) :: fields.toMembers values
  | .more name _ fields rest, value =>
    match value with
    | .inl values => (tag, .text name) :: fields.toMembers values
    | .inr value => rest.toMembers tag value

end

end Json
end LendingGateway
