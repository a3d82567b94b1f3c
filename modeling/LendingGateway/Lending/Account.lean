import LendingGateway.Lending.Asset

namespace LendingGateway
namespace Lending

open Json

/-!
# Accounts

An address holds deposits at a provider.  Each deposit is a contract: the asset as the
catalog has it, and the amount deposited.
-/

/-- A deposit of one asset. -/
structure Contract where
  asset : Asset
  currentAmount : String

/-- The deposits of one address. -/
structure Account where
  address : String
  contracts : List Contract

def Account.empty (address : String) : Account :=
  ⟨address, []⟩

def Account.isEmpty (account : Account) : Bool :=
  account.contracts.isEmpty

/-! ## Document forms -/

instance : Wire Contract where
  shape := .record "struct LendingContract" <|
    .cons "asset" .required (Wire.shape Asset) <|
    .cons "current_amount" .required .text .nil
  toValue contract := (Wire.toValue contract.asset, contract.currentAmount, ())
  ofValue := fun (asset, currentAmount, _) => ⟨Wire.ofValue asset, currentAmount⟩
  ofValue_toValue contract := by
    cases contract
    simp only [Wire.ofValue_toValue]

instance : Wire Account where
  shape := .record "struct AccountLendingContracts" <|
    .cons "address" .required .text <|
    .cons "contracts" .required (Wire.shape (List Contract)) .nil
  toValue account := (account.address, Wire.toValue account.contracts, ())
  ofValue := fun (address, contracts, _) => ⟨address, Wire.ofValue contracts⟩
  ofValue_toValue account := by
    cases account
    simp only [Wire.ofValue_toValue]

end Lending
end LendingGateway
