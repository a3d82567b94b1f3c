import LendingGateway.Lending.Asset
import LendingGateway.Text.AsciiCase

namespace LendingGateway
namespace Lending

open Json

/-!
# Providers

A provider describes itself by some information for display and by its catalog of
assets.  The catalog may repeat a symbol, also in another case; the first asset that
matches is then the one that counts.
-/

/-- What a provider pays for. -/
inductive ProviderKind where
  | lending
  | staking
deriving DecidableEq, Repr

/-- Information on a provider for display. -/
structure ProviderInfo where
  id : String
  description : String
  /-- Where the logo is found. -/
  image : String
  website : String

/-- A provider and its catalog.  The identifier is the one it goes by in queries. -/
structure Provider where
  id : String
  info : ProviderInfo
  kind : ProviderKind
  assets : List Asset

/-- The first asset of the catalog with a symbol, up to ASCII case. -/
def Provider.asset? (provider : Provider) (symbol : String) : Option Asset :=
  provider.assets.find? fun asset => Text.sameFold asset.symbol symbol

/-! ## Document forms -/

instance : Wire ProviderKind where
  shape := .choice "lending" ["staking"]
  toValue
    | .lending => (0 : Fin 2)
    | .staking => (1 : Fin 2)
  ofValue (position : Fin 2) := if position = 0 then .lending else .staking
  ofValue_toValue kind := by cases kind <;> rfl

instance : Wire ProviderInfo where
  shape := .record "struct LendingProviderInfo" <|
    .cons "id" .required .text <|
    .cons "description" .required .text <|
    .cons "image" .required .text <|
    .cons "website" .required .text .nil
  toValue info := (info.id, info.description, info.image, info.website, ())
  ofValue := fun (id, description, image, website, _) => ⟨id, description, image, website⟩
  ofValue_toValue _ := rfl

instance : Wire Provider where
  shape := .record "struct LendingProvider" <|
    .cons "id" .required .text <|
    .cons "info" .required (Wire.shape ProviderInfo) <|
    .cons "type" .required (Wire.shape ProviderKind) <|
    .cons "assets" .required (Wire.shape (List Asset)) .nil
  toValue provider :=
    (provider.id, Wire.toValue provider.info, Wire.toValue provider.kind,
      Wire.toValue provider.assets, ())
  ofValue := fun (id, info, kind, assets, _) =>
    ⟨id, Wire.ofValue info, Wire.ofValue kind, Wire.ofValue assets⟩
  ofValue_toValue provider := by
    cases provider
    simp only [Wire.ofValue_toValue]

end Lending
end LendingGateway
