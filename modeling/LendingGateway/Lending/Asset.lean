import LendingGateway.Json.Wire

namespace LendingGateway
namespace Lending

open Json

/-!
# Assets

An asset of a provider's catalog says what it yields, how much of it there is and how
little of it may be deposited.  Amounts are decimal strings that the gateway never reads
as numbers: they pass through it as they came.
-/

structure Token where
  symbol : String
  chain : String
  /-- The contract that issues the token; native coins have none. -/
  contractAddress : Option String

/-- The tokens behind an asset of a decentralised protocol: the one deposited, and the
one that stands for the deposit. -/
structure TokenPair where
  asset : Token
  technical : Token

structure AssetDetails where
  tokens : Option TokenPair

structure Asset where
  symbol : String
  description : String
  /-- The annual yield as a fraction. -/
  apy : Float
  /-- Seconds for which the yield stays as it is; zero when it may change at any time. -/
  yieldPeriod : Int64
  /-- Seconds from one payment of the yield to the next. -/
  yieldFrequency : Int64
  totalSupply : String
  minimumAmount : String
  details : AssetDetails

structure Rate where
  symbol : String
  apy : Float
  yieldPeriod : Int64
  yieldFrequency : Int64

/-- Whether nothing further is known of an asset. -/
def AssetDetails.isEmpty (details : AssetDetails) : Bool :=
  details.tokens.isNone

/-- The part of an asset that concerns its yield. -/
def Asset.rate (asset : Asset) : Rate :=
  ⟨asset.symbol, asset.apy, asset.yieldPeriod, asset.yieldFrequency⟩

/-! ## Document forms -/

instance : Wire Token where
  shape := .record "struct DefiTokenInfo" <|
    .cons "symbol" .required .text <|
    .cons "chain" .required .text <|
    .cons "contract_address" .elided (.optional .text) .nil
  toValue token := (token.symbol, token.chain, token.contractAddress, ())
  ofValue := fun (symbol, chain, contractAddress, _) => ⟨symbol, chain, contractAddress⟩
  ofValue_toValue _ := rfl

instance : Wire TokenPair where
  shape := .record "struct DefiAssetInfo" <|
    .cons "asset_token" .required (Wire.shape Token) <|
    .cons "technical_token" .required (Wire.shape Token) .nil
  toValue pair := (Wire.toValue pair.asset, Wire.toValue pair.technical, ())
  ofValue := fun (asset, technical, _) => ⟨Wire.ofValue asset, Wire.ofValue technical⟩
  ofValue_toValue _ := rfl

instance : Wire AssetDetails where
  shape := .record "struct AssetMetaInfo" <|
    .cons "defi_info" .elided (.optional (Wire.shape TokenPair)) .nil
  toValue details := (details.tokens.map Wire.toValue, ())
  ofValue := fun (tokens, _) => ⟨tokens.map Wire.ofValue⟩
  ofValue_toValue details := by
    cases details with
    | mk tokens => cases tokens <;> rfl

instance : Wire Asset where
  shape := .record "struct AssetInfo" <|
    .cons "symbol" .required .text <|
    .cons "description" .required .text <|
    .cons "apy" .required .real <|
    .cons "yield_period" .required .int64 <|
    .cons "yield_freq" .required .int64 <|
    .cons "total_supply" .required .text <|
    .cons "minimum_amount" .required .text <|
    .cons "meta_info" .elided (Wire.shape AssetDetails) .nil
  toValue asset :=
    (asset.symbol, asset.description, asset.apy, asset.yieldPeriod, asset.yieldFrequency,
      asset.totalSupply, asset.minimumAmount, Wire.toValue asset.details, ())
  ofValue := fun (symbol, description, apy, yieldPeriod, yieldFrequency, totalSupply,
      minimumAmount, details, _) =>
    ⟨symbol, description, apy, yieldPeriod, yieldFrequency, totalSupply, minimumAmount,
      Wire.ofValue details⟩
  ofValue_toValue asset := by
    cases asset
    simp only [Wire.ofValue_toValue]

instance : Wire Rate where
  shape := .record "struct LendingAssetRates" <|
    .cons "symbol" .required .text <|
    .cons "apy" .required .real <|
    .cons "yield_period" .defaulted .int64 <|
    .cons "yield_freq" .defaulted .int64 .nil
  toValue rate := (rate.symbol, rate.apy, rate.yieldPeriod, rate.yieldFrequency, ())
  ofValue := fun (symbol, apy, yieldPeriod, yieldFrequency, _) =>
    ⟨symbol, apy, yieldPeriod, yieldFrequency⟩
  ofValue_toValue _ := rfl

end Lending
end LendingGateway
