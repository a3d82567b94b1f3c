import LendingGateway.Proofs.Json.Cutting
import LendingGateway.Proofs.Json.Grammar
import LendingGateway.Proofs.Json.Readability

namespace LendingGateway
namespace Json

open Traversal

/-!
# Cutting a document short

A list or an object ends with its own closing mark.  Where the whole of a text is such a
document, nothing but a gap can be taken off its end, and nothing but a gap can be put there,
without making it something that is no document any more.
-/

/-- A shape whose values are written between brackets or braces. -/
def Shape.encloses : Shape → Bool
  | .list _ | .dictionary _ | .record _ _ | .tagged _ _ _ => true
  | .text | .real | .int64 | .nat64 | .optional _ | .choice _ _ => false

/-- A text begins, behind any gap, with an opening bracket or brace. -/
def Bracketed (input : Input) : Prop :=
  ∃ mark inner, skipGap input = mark :: inner ∧ (mark = 0x5b ∨ mark = 0x7b)

theorem Shape.bracketed_of_read {shape : Shape} (encloses : shape.encloses = true) {depth : Nat}
    {input after : Input} {value : shape.Value}
    (read : shape.read depth input = .ok (value, after)) : Bracketed input := by
  cases shape with
  | list item =>
    rcases Shape.read_list_eq_ok_iff.mp read with ⟨inner, _, starts, _⟩
    exact ⟨_, inner, starts, Or.inl rfl⟩
  | dictionary entry =>
    rcases Shape.read_dictionary_eq_ok_iff.mp read with ⟨inner, _, _, starts, _⟩
    exact ⟨_, inner, starts, Or.inr rfl⟩
  | record title fields =>
    cases Shape.read_record_eq_ok_iff.mp read with
    | object starts => exact ⟨_, _, starts, Or.inr rfl⟩
    | list starts => exact ⟨_, _, starts, Or.inl rfl⟩
  | tagged title tag variants =>
    rw [Shape.read] at read
    rcases bind_eq_ok_iff.mp read with ⟨⟨found, last⟩, tagged, _⟩
    cases readTagged_eq_ok_iff.mp tagged with
    | object starts => exact ⟨_, _, starts, Or.inr rfl⟩
    | list starts => exact ⟨_, _, starts, Or.inl rfl⟩
  | text | real | int64 | nat64 | optional | choice => cases encloses

/-- A value between brackets or braces ends where it ends, whatever is put behind it. -/
theorem Skipped.append {input after : Input} (skipped : Skipped input after)
    (bracketed : Bracketed input) (rest : Input) : Skipped (input ++ rest) (after ++ rest) := by
  rcases skipped.exists_document with ⟨gap, document, rfl⟩
  rcases bracketed with ⟨mark, inner, starts, opening⟩
  have container : document.isContainer = true := by
    rw [skipGap_document] at starts
    cases document with
    | list => rfl
    | object => rfl
    | null | text =>
      rcases opening with rfl | rfl <;> cases starts
    | boolean value =>
      cases value <;> rcases opening with rfl | rfl <;> cases starts
    | number number =>
      rcases number.formed.head with ⟨octet, others, same, begins⟩
      have head := number_head begins
      rw [Document.octets, same] at starts
      obtain rfl : octet = mark := (List.cons.inj starts).1
      rcases opening with bracket | brace
      · exact absurd bracket head.2.2.1
      · exact absurd brace head.2.2.2.2.2.2.2
  rw [List.append_assoc, List.append_assoc]
  exact skipped_gap gap (Document.skipped_container container (after ++ rest))

/-- If a text and a longer one are both whole documents, then the longer one has no more than
a gap behind the other. -/
theorem Shape.blank_of_parse_append {shape : Shape} (encloses : shape.encloses = true)
    {text rest : Input} {value other : shape.Value} (parsed : shape.parse text = .ok value)
    (longer : shape.parse (text ++ rest) = .ok other) : skipGap rest = [] := by
  rcases Shape.parse_eq_ok_iff.mp parsed with ⟨behind, read, blank⟩
  rcases Shape.parse_eq_ok_iff.mp longer with ⟨last, again, ended⟩
  have skipped := (Shape.skipped_of_read shape read).append
    (shape.bracketed_of_read encloses read) rest
  obtain rfl := skipped.unique (Shape.skipped_of_read shape again)
  rw [skipGap_append blank] at ended
  exact ended

/-- An empty text is no document. -/
theorem Shape.parse_nil_ne_ok {shape : Shape} {value : shape.Value} :
    shape.parse [] ≠ .ok value := by
  intro parsed
  rcases Shape.parse_eq_ok_iff.mp parsed with ⟨rest, read, _⟩
  exact absurd (Shape.skipped_of_read shape read).length_lt (Nat.not_lt_zero _)

namespace Wire

variable {α : Type} [Wire α] {text rest : Input} {value : α}

theorem blank_of_decode_append (encloses : (Wire.shape α).encloses = true) {other : α}
    (decoded : Wire.decode α text = .ok value)
    (longer : Wire.decode α (text ++ rest) = .ok other) : skipGap rest = [] := by
  rcases Wire.decode_eq_ok_iff.mp decoded with ⟨found, parsed, _⟩
  rcases Wire.decode_eq_ok_iff.mp longer with ⟨another, again, _⟩
  exact Shape.blank_of_parse_append encloses parsed again

theorem decode_nil_ne_ok : Wire.decode α [] ≠ .ok value := by
  intro decoded
  rcases Wire.decode_eq_ok_iff.mp decoded with ⟨found, parsed, _⟩
  exact Shape.parse_nil_ne_ok parsed

end Wire

end Json
end LendingGateway
