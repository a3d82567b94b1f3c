import LendingGateway.Lending.Provider

namespace LendingGateway
namespace Registry

open Json Lending

/-!
# The provider file

The provider file lists the providers that the gateway answers for.  A provider is
either described by the file itself, together with the deposits of some addresses, or
it is served by another gateway.
-/

/-- A deposit of one asset of the catalog. -/
structure Position where
  symbol : String
  currentAmount : String
deriving DecidableEq

/-- The deposits of each address. -/
abbrev Positions := Dictionary (List Position)

/-- One entry of the provider file. -/
inductive Entry where
  /-- A provider described by the file. -/
  | catalog (provider : Provider) (positions : Positions)
  /-- A provider served by another gateway; the timeout is in milliseconds. -/
  | remote (id baseUrl : String) (timeout : Option UInt64)

def Entry.id : Entry → String
  | .catalog provider _ => provider.id
  | .remote id _ _ => id

/-- The contents of the provider file. -/
structure Configuration where
  providers : List Entry

/-! ## Document forms -/

instance : Wire Position where
  shape := .record "struct StaticPosition" <|
    .cons "symbol" .required .text <|
    .cons "current_amount" .required .text .nil
  toValue position := (position.symbol, position.currentAmount, ())
  ofValue := fun (symbol, currentAmount, _) => ⟨symbol, currentAmount⟩
  ofValue_toValue _ := rfl

instance : Wire Entry where
  shape := .tagged "internally tagged enum ProviderConfig" "kind" <|
    .more "static" "struct variant ProviderConfig::Static"
      (.cons "provider" .required (Wire.shape Provider) <|
        .cons "positions" .defaulted (Wire.shape Positions) .nil) <|
    .one "remote" "struct variant ProviderConfig::Remote"
      (.cons "id" .required .text <|
        .cons "base_url" .required .text <|
        .cons "timeout_ms" .elided (.optional .nat64) .nil)
  toValue
    | .catalog provider positions => .inl (Wire.toValue provider, Wire.toValue positions, ())
    | .remote id baseUrl timeout => .inr (id, baseUrl, timeout, ())
  ofValue
    | .inl (provider, positions, _) => .catalog (Wire.ofValue provider) (Wire.ofValue positions)
    | .inr (id, baseUrl, timeout, _) => .remote id baseUrl timeout
  ofValue_toValue entry := by
    cases entry with
    | catalog provider positions => simp only [Wire.ofValue_toValue]
    | remote id baseUrl timeout => rfl

instance : Wire Configuration where
  shape := .record "struct RegistryConfig" <|
    .cons "providers" .defaulted (Wire.shape (List Entry)) .nil
  toValue configuration := (Wire.toValue configuration.providers, ())
  ofValue := fun (providers, _) => ⟨Wire.ofValue providers⟩
  ofValue_toValue configuration := by
    cases configuration
    simp only [Wire.ofValue_toValue]

end Registry
end LendingGateway
