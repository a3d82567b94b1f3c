import LendingGateway.Lending.Account
import LendingGateway.Lending.Provider
import LendingGateway.Lending.Query
import LendingGateway.Proofs.Json.Variation

namespace LendingGateway

open Lending Json

/-!
# Known members

Providers, assets, rates, accounts and the two requests are read from their known members
alone.  None of them is told apart by a tag, so what holds of all such shapes holds of them, and
of every record inside them.
-/

/-- What a text of one of these types decodes to is decided by its known members.  The text is
laid out as a document, with another order of members, other unknown members or other gaps it
decodes to the same value, and no record in it has a known member twice. -/
theorem decode_by_known_members :
    Wire.ReadsKnownMembers Provider ∧ Wire.ReadsKnownMembers Asset ∧
    Wire.ReadsKnownMembers Rate ∧ Wire.ReadsKnownMembers Account ∧
    Wire.ReadsKnownMembers RatesQuery ∧ Wire.ReadsKnownMembers AccountsQuery := by
  refine ⟨?_, ?_, ?_, ?_, ?_, ?_⟩
  all_goals exact Wire.readsKnownMembers (by decide) (by decide) (by decide)

/-- A request with its members in the reverse order of their declaration, and with unknown
members whose values have known ones. -/
example :
    Wire.decode AccountsQuery (Text.octets <|
      " \x7b\"assets\" : [\"A\"],\"new\":[\x7b\"assets\":null\x7d],\"addresses\":[\"a\" ] ,"
        ++ "\"new\":0 \x7d") =
      .ok ⟨["a"], ["A"]⟩ :=
  rfl

example :
    Wire.decode AccountsQuery (Text.octets "\x7b\"assets\":[],\"assets\":[]\x7d") =
      .error ⟨.duplicateField "assets", []⟩ :=
  rfl

end LendingGateway
