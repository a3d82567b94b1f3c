import LendingGateway.Json.Wire

namespace LendingGateway
namespace Lending

open Json

/-!
# Queries

Two queries take a request: one for rates and one for accounts.  An empty list of
assets stands for all of them.  What a query yields is handed out inside an envelope
with a single member.
-/

/-- Asset symbols to get the rates of. -/
structure RatesQuery where
  assets : List String
deriving DecidableEq

/-- Addresses to get the deposits of, and the assets to narrow them to. -/
structure AccountsQuery where
  addresses : List String
  assets : List String
deriving DecidableEq

/-- Whether a request is the one that an empty object stands for. -/
def RatesQuery.isBlank (request : RatesQuery) : Bool :=
  request.assets.isEmpty

def AccountsQuery.isBlank (request : AccountsQuery) : Bool :=
  request.addresses.isEmpty && request.assets.isEmpty

/-- The envelope of what a query yields. -/
structure Envelope (α : Type) where
  docs : α

/-! ## Document forms -/

instance : Wire RatesQuery where
  shape := .record "struct RatesRequest" <|
    .cons "assets" .defaulted (.list .text) .nil
  toValue request := (request.assets, ())
  ofValue := fun (assets, _) => ⟨assets⟩
  ofValue_toValue _ := rfl

instance : Wire AccountsQuery where
  shape := .record "struct AccountRequest" <|
    .cons "addresses" .defaulted (.list .text) <|
    .cons "assets" .defaulted (.list .text) .nil
  toValue request := (request.addresses, request.assets, ())
  ofValue := fun (addresses, assets, _) => ⟨addresses, assets⟩
  ofValue_toValue _ := rfl

instance {α : Type} [Wire α] : Wire (Envelope α) where
  shape := .record "struct DocsResponse" <|
    .cons "docs" .required (Wire.shape α) .nil
  toValue envelope := (Wire.toValue envelope.docs, ())
  ofValue := fun (docs, _) => ⟨Wire.ofValue docs⟩
  ofValue_toValue envelope := by
    cases envelope
    simp only [Wire.ofValue_toValue]

end Lending
end LendingGateway
