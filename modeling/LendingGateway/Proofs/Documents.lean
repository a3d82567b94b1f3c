import LendingGateway.Lending.Account
import LendingGateway.Lending.Query
import LendingGateway.Proofs.Json.RoundTrip
import LendingGateway.Registry.Configuration

namespace LendingGateway

open Json Lending Registry

/-!
# The documents of the gateway

Every type of the gateway has a well-formed shape, so decoding undoes encoding for all of
them.  The only numbers that may be lost are yields whose literals do not read back.
-/

/-! ## Yields -/

section EveryReal

variable {holds : Float → Prop}

theorem everyReal_asset {asset : Asset} (each : holds asset.apy) :
    (Wire.shape Asset).EveryReal holds (Wire.toValue asset) := by
  have details : (Wire.shape AssetDetails).EveryReal holds (Wire.toValue asset.details) :=
    Shape.everyReal_of_none rfl _
  exact ⟨trivial, trivial, each, trivial, trivial, trivial, trivial, details, trivial⟩

theorem everyReal_assets {assets : List Asset}
    (each : ∀ asset ∈ assets, holds asset.apy) :
    (Wire.shape (List Asset)).EveryReal holds (Wire.toValue assets) := by
  intro value member
  rcases List.mem_map.mp member with ⟨asset, held, rfl⟩
  exact everyReal_asset (each asset held)

theorem everyReal_provider {provider : Provider}
    (each : ∀ asset ∈ provider.assets, holds asset.apy) :
    (Wire.shape Provider).EveryReal holds (Wire.toValue provider) := by
  have info : (Wire.shape ProviderInfo).EveryReal holds (Wire.toValue provider.info) :=
    Shape.everyReal_of_none rfl _
  exact ⟨trivial, info, trivial, everyReal_assets each, trivial⟩

theorem everyReal_rate {rate : Rate} (each : holds rate.apy) :
    (Wire.shape Rate).EveryReal holds (Wire.toValue rate) :=
  ⟨trivial, each, trivial, trivial, trivial⟩

theorem everyReal_contract {contract : Contract} (each : holds contract.asset.apy) :
    (Wire.shape Contract).EveryReal holds (Wire.toValue contract) :=
  ⟨everyReal_asset each, trivial, trivial⟩

theorem everyReal_account {account : Account}
    (each : ∀ contract ∈ account.contracts, holds contract.asset.apy) :
    (Wire.shape Account).EveryReal holds (Wire.toValue account) := by
  refine ⟨trivial, ?_, trivial⟩
  intro value member
  rcases List.mem_map.mp member with ⟨contract, held, rfl⟩
  exact everyReal_contract (each contract held)

theorem everyReal_accounts {accounts : List Account}
    (each : ∀ account ∈ accounts, ∀ contract ∈ account.contracts,
      holds contract.asset.apy) :
    (Wire.shape (List Account)).EveryReal holds (Wire.toValue accounts) := by
  intro value member
  rcases List.mem_map.mp member with ⟨account, held, rfl⟩
  exact everyReal_account (each account held)

theorem everyReal_rates {rates : List Rate} (each : ∀ rate ∈ rates, holds rate.apy) :
    (Wire.shape (List Rate)).EveryReal holds (Wire.toValue rates) := by
  intro value member
  rcases List.mem_map.mp member with ⟨rate, held, rfl⟩
  exact everyReal_rate (each rate held)

theorem everyReal_entry {entry : Entry}
    (each : ∀ provider positions, entry = .catalog provider positions →
      ∀ asset ∈ provider.assets, holds asset.apy) :
    (Wire.shape Entry).EveryReal holds (Wire.toValue entry) := by
  cases entry with
  | catalog provider positions =>
    have unreal : (Wire.shape Positions).EveryReal holds (Wire.toValue positions) :=
      Shape.everyReal_of_none rfl _
    exact ⟨everyReal_provider (each provider positions rfl), unreal, trivial⟩
  | remote id baseUrl timeout => exact ⟨trivial, trivial, fun _ _ => trivial, trivial⟩

end EveryReal

/-- The yields in the catalogs of a provider file read back. -/
def Registry.Configuration.YieldsReadBack (configuration : Configuration) : Prop :=
  ∀ provider positions, Entry.catalog provider positions ∈ configuration.providers →
    ∀ asset ∈ provider.assets, ReadsBack asset.apy

theorem everyReal_configuration {configuration : Configuration}
    (readBack : configuration.YieldsReadBack) :
    (Wire.shape Configuration).EveryReal ReadsBack (Wire.toValue configuration) := by
  refine ⟨?_, trivial⟩
  intro value member
  rcases List.mem_map.mp member with ⟨entry, held, rfl⟩
  exact everyReal_entry fun provider positions same => readBack provider positions (same ▸ held)

/-! ## The order of addresses -/

/-- An entry of the provider file says the same as another.  The deposits are a map from
addresses; the order in which addresses are written has no meaning. -/
def Registry.Entry.SameAs : Entry → Entry → Prop
  | .catalog provider positions, .catalog other held =>
    other = provider ∧ ∀ address, held.get? address = positions.get? address
  | .remote id baseUrl timeout, .remote other otherBase otherTimeout =>
    other = id ∧ otherBase = baseUrl ∧ otherTimeout = timeout
  | _, _ => False

/-- A provider file says the same as another, entry by entry. -/
def Registry.Configuration.SameAs (configuration other : Configuration) : Prop :=
  List.Forall₂ Entry.SameAs configuration.providers other.providers

theorem yieldsReadBack_of_sameAs {configuration other : Configuration}
    (same : configuration.SameAs other) (readBack : configuration.YieldsReadBack) :
    other.YieldsReadBack := by
  intro provider positions member
  rcases Traversal.exists_of_mem same.flip member with ⟨entry, held, alike⟩
  cases entry with
  | catalog original deposits =>
    rcases alike with ⟨rfl, _⟩
    exact readBack _ deposits held
  | remote id baseUrl timeout => exact alike.elim

/-! ## Decoding undoes encoding -/

/-- Decoding undoes encoding for the whole data model, for every value whose yields read
back from their literals.  A provider file may be written with its addresses in any order;
what is read says the same. -/
theorem decode_encode :
    (∀ provider : Provider, (∀ asset ∈ provider.assets, ReadsBack asset.apy) →
      Wire.RoundTrips provider) ∧
    (∀ asset : Asset, ReadsBack asset.apy → Wire.RoundTrips asset) ∧
    (∀ details : AssetDetails, Wire.RoundTrips details) ∧
    (∀ rate : Rate, ReadsBack rate.apy → Wire.RoundTrips rate) ∧
    (∀ contract : Contract, ReadsBack contract.asset.apy → Wire.RoundTrips contract) ∧
    (∀ account : Account, (∀ contract ∈ account.contracts, ReadsBack contract.asset.apy) →
      Wire.RoundTrips account) ∧
    (∀ request : RatesQuery, Wire.RoundTrips request) ∧
    (∀ request : AccountsQuery, Wire.RoundTrips request) ∧
    (∀ position : Position, Wire.RoundTrips position) ∧
    (∀ envelope : Envelope (List Rate), (∀ rate ∈ envelope.docs, ReadsBack rate.apy) →
      Wire.RoundTrips envelope) ∧
    (∀ configuration written : Configuration, configuration.SameAs written →
      configuration.YieldsReadBack →
        ∃ decoded, Wire.decode Configuration (Text.octets (Wire.encode written)) = .ok decoded ∧
          configuration.SameAs decoded) := by
  refine ⟨?_, ?_, ?_, ?_, ?_, ?_, ?_, ?_, ?_, ?_, ?_⟩
  · exact fun provider readBack =>
      Wire.roundTrips_of_shape (by decide) (by decide) (everyReal_provider readBack)
  · exact fun asset readBack =>
      Wire.roundTrips_of_shape (by decide) (by decide) (everyReal_asset readBack)
  · exact fun details => Wire.roundTrips_of_shape (by decide) (by decide)
      (Shape.everyReal_of_none rfl _)
  · exact fun rate readBack =>
      Wire.roundTrips_of_shape (by decide) (by decide) (everyReal_rate readBack)
  · exact fun contract readBack =>
      Wire.roundTrips_of_shape (by decide) (by decide) (everyReal_contract readBack)
  · exact fun account readBack =>
      Wire.roundTrips_of_shape (by decide) (by decide) (everyReal_account readBack)
  · exact fun request => Wire.roundTrips_of_shape (by decide) (by decide)
      (Shape.everyReal_of_none rfl _)
  · exact fun request => Wire.roundTrips_of_shape (by decide) (by decide)
      (Shape.everyReal_of_none rfl _)
  · exact fun position => Wire.roundTrips_of_shape (by decide) (by decide)
      (Shape.everyReal_of_none rfl _)
  · exact fun envelope readBack =>
      Wire.roundTrips_of_shape (by decide) (by decide) ⟨everyReal_rates readBack, trivial⟩
  · intro configuration written same readBack
    refine ⟨written, ?_, same⟩
    exact Wire.roundTrips_of_shape (by decide) (by decide)
      (everyReal_configuration (yieldsReadBack_of_sameAs same readBack))

/-- An asset whose description has a quote, a control character and one beyond ASCII, and
whose yield period is the least there is. -/
def oddAsset : Asset :=
  ⟨"ETH", "\x01\"é", 0.05, Int64.minValue, 1, "7", "0", ⟨none⟩⟩

/-- A provider file with two addresses in a given order. -/
def oddFile (first second : String × List Position) (distinct : first.1 ≠ second.1) :
    Configuration :=
  ⟨[.catalog ⟨"pool", ⟨"pool", "", "", ""⟩, .staking, [oddAsset]⟩
      ⟨[first, second], by simpa using distinct⟩,
    .remote "far" "http://far/" (some 18446744073709551615)]⟩

/-- The odd asset survives wherever it stands, also in a file written with its addresses in
another order than they were read in. -/
theorem decode_encode_odd :
    ReadsBack oddAsset.apy ∧ Wire.RoundTrips oddAsset ∧ Wire.RoundTrips oddAsset.rate ∧
      Wire.RoundTrips (Account.mk "0x1" [⟨oddAsset, "3"⟩]) ∧
      Wire.RoundTrips (Envelope.mk [oddAsset.rate]) ∧
      (oddFile ("b", []) ("a", [⟨"eth", "1"⟩]) (by decide)).SameAs
        (oddFile ("a", [⟨"eth", "1"⟩]) ("b", []) (by decide)) ∧
      ∃ decoded, Wire.decode Configuration (Text.octets (Wire.encode
        (oddFile ("a", [⟨"eth", "1"⟩]) ("b", []) (by decide)))) = .ok decoded ∧
          (oddFile ("b", []) ("a", [⟨"eth", "1"⟩]) (by decide)).SameAs decoded := by
  rcases decode_encode with ⟨_, asset, _, rate, _, account, _, _, _, envelope, file⟩
  have readBack : ReadsBack oddAsset.apy := by decide +kernel
  have same : (oddFile ("b", []) ("a", [⟨"eth", "1"⟩]) (by decide)).SameAs
      (oddFile ("a", [⟨"eth", "1"⟩]) ("b", []) (by decide)) := by
    refine List.Forall₂.cons ⟨rfl, ?_⟩ (List.Forall₂.cons ⟨rfl, rfl, rfl⟩ List.Forall₂.nil)
    intro address
    simp only [Dictionary.get?, List.lookup_cons, List.lookup_nil]
    by_cases first : address = "a"
    · subst first
      rfl
    · rw [beq_eq_false_iff_ne.mpr first]
  have yields : (oddFile ("b", []) ("a", [⟨"eth", "1"⟩]) (by decide)).YieldsReadBack := by
    intro provider positions member
    rcases List.mem_cons.mp member with first | impossible
    · cases first
      intro other held
      exact List.mem_singleton.mp held ▸ readBack
    · rcases List.mem_cons.mp impossible with impossible | impossible <;> cases impossible
  refine ⟨readBack, asset oddAsset readBack, rate oddAsset.rate readBack, ?_, ?_, same,
    file _ _ same yields⟩
  · exact account _ fun contract held => List.mem_singleton.mp held ▸ readBack
  · exact envelope _ fun other held => List.mem_singleton.mp held ▸ readBack

end LendingGateway
