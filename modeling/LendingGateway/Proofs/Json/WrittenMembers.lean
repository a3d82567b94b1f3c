import LendingGateway.Proofs.Json.Meaning
import LendingGateway.Proofs.Json.RoundTrip

namespace LendingGateway
namespace Json

/-!
# The documents that are written

What is written for a tree is a document.  The members of the object that is written for a
record have the keys of the record for names, so a key that is left out names no member.
-/

section Written

variable {restore : Numeral → Tree} {depth : Nat}

theorem Tree.Legible.exists_element {tree : Tree} (legible : tree.Legible restore depth) :
    ∃ element : Element Document, element.octets = Text.octets tree.render := by
  have read := legible.read [] delimited_nil
  rw [List.append_nil] at read
  rcases (skipped_of_readTree read).exists_document with ⟨gap, document, written⟩
  exact ⟨⟨gap, document, .none⟩, written.symm⟩

theorem isQuotation_escapedOctets (text : String) :
    IsQuotation (escapedOctets text ++ [0x22]) := by
  have skipped := skipText_of_readText (readText_escapedOctets text [])
  rcases exists_quotation_of_skipText skipped with ⟨quotation, written⟩
  rw [written, List.append_nil]
  exact quotation.formed

/-- A text as it is written. -/
def Quotation.ofText (text : String) : Quotation :=
  ⟨escapedOctets text ++ [0x22], isQuotation_escapedOctets text⟩

theorem Quotation.text?_ofText (text : String) : (Quotation.ofText text).text? = some text := by
  have read : readText ((Quotation.ofText text).octets ++ []) = .ok (text, []) := by
    rw [List.append_nil]
    exact readText_escapedOctets text []
  exact (readText_quotation_iff.mp read).1

theorem exists_written_member {entry : String × Tree} (legible : entry.2.Legible restore depth) :
    ∃ member : Member Document, member.octets = memberOctets entry ∧
      member.name? = some entry.1 := by
  rcases legible.exists_element with ⟨element, written⟩
  refine ⟨⟨.none, .ofText entry.1, .none, element⟩, ?_, Quotation.text?_ofText entry.1⟩
  change 0x22 :: ((escapedOctets entry.1 ++ [0x22]) ++ 0x3a :: element.octets) = _
  rw [memberOctets, keyOctets_append, written, List.append_assoc]
  rfl

/-- The members of an object are written as members that are named by its keys, in their
order. -/
theorem exists_written_members {entries : List (String × Tree)}
    (legible : ∀ entry ∈ entries, entry.2.Legible restore depth) :
    ∃ members : List (Member Document), memberTexts members = entries.map memberOctets ∧
      members.map Member.name? = entries.map fun entry => some entry.1 := by
  induction entries with
  | nil => exact ⟨[], rfl, rfl⟩
  | cons entry entries inductionHypothesis =>
    rw [List.forall_mem_cons] at legible
    rcases exists_written_member legible.1 with ⟨member, written, named⟩
    rcases inductionHypothesis legible.2 with ⟨members, texts, names⟩
    refine ⟨member :: members, ?_, ?_⟩
    · rw [memberTexts_eq_map, List.map_cons, written, ← memberTexts_eq_map, texts, List.map_cons]
    · rw [List.map_cons, named, names, List.map_cons]

theorem octets_object_of_memberTexts {entries : List (String × Tree)}
    {members : List (Member Document)} (texts : memberTexts members = entries.map memberOctets) :
    (Document.object .none members).octets = Text.octets (Tree.object entries).render := by
  rw [← List.append_nil (Text.octets _), octets_render_object, ← texts]
  rfl

/-- A key that is not written names no member. -/
theorem membersNamed_eq_nil {entries : List (String × Tree)} {members : List (Member Document)}
    (names : members.map Member.name? = entries.map fun entry => some entry.1) {name : String}
    (missing : ∀ entry ∈ entries, entry.1 ≠ name) : membersNamed name members = [] := by
  refine List.filter_eq_nil_iff.mpr fun member held => ?_
  rw [decide_eq_true_eq]
  intro named
  have listed : some name ∈ members.map Member.name? := List.mem_map.mpr ⟨member, held, named⟩
  rw [names] at listed
  rcases List.mem_map.mp listed with ⟨entry, written, same⟩
  exact missing entry written (Option.some.inj same)

end Written

end Json
end LendingGateway
