import LendingGateway.Proofs.Backend.Rates

namespace LendingGateway
namespace Backend

open Lending Registry

/-!
# How the queries to a catalog fit together

What an address holds does not depend on the request: each of its deposits has an asset, the
one that counts for its symbol, and a filter only leaves some of these contracts out.  The
asset of a contract is the one that counts for its own symbol too, however often the catalog
repeats the symbol.  So it can be asked for by that symbol, and every query means the same
asset.
-/

/-! ## What an address holds -/

/-- The account without the contracts of other assets than those of a symbol. -/
def narrow (symbol : String) (account : Account) : Account :=
  { account with contracts := account.contracts.filter (·.asset.symbol == symbol) }

/-- The symbols of a catalog as it is listed. -/
def symbolsOf (provider : Provider) : List String :=
  provider.assets.map Asset.symbol

namespace Catalog

/-- All contracts of some deposits. -/
def settle (catalog : Catalog) (held : List Position) : List Contract :=
  held.filterMap fun position =>
    (catalog.provider.asset? position.symbol).map fun asset => ⟨asset, position.currentAmount⟩

/-- All contracts of an address. -/
def held (catalog : Catalog) (address : String) : List Contract :=
  catalog.settle (catalog.positionsOf address)

/-- The account of an address, narrowed to some assets. -/
def accountFor (catalog : Catalog) (filter : List Asset) (address : String) : Account :=
  ⟨address, (catalog.held address).filter fun contract => wanted filter contract.asset⟩

variable {catalog : Catalog}

theorem contractsOf_eq (filter : List Asset) {held : List Position}
    (covered : ∀ position ∈ held, (catalog.provider.asset? position.symbol).isSome = true) :
    catalog.contractsOf filter held =
      .ok ((catalog.settle held).filter fun contract => wanted filter contract.asset) := by
  induction held with
  | nil => rfl
  | cons position held inductionHypothesis =>
    rw [List.forall_mem_cons] at covered
    rcases Option.isSome_iff_exists.mp covered.1 with ⟨asset, found⟩
    have settled : catalog.settle (position :: held) =
        ⟨asset, position.currentAmount⟩ :: catalog.settle held := by
      rw [settle, List.filterMap_cons, found]
      rfl
    rw [contractsOf, asset_eq_ok_iff.mpr found, inductionHypothesis covered.2, settled,
      List.filter_cons]
    rfl

theorem contracts_eq (catalog : Catalog) (filter : List Asset) (address : String) :
    catalog.contracts filter address = .ok (catalog.accountFor filter address).contracts :=
  contractsOf_eq filter (catalog.covers_positionsOf address)

/-- The asset of a contract counts for its own symbol. -/
theorem asset?_of_held {address : String} {contract : Contract}
    (holds : contract ∈ catalog.held address) :
    catalog.provider.asset? contract.asset.symbol = some contract.asset := by
  rcases List.mem_filterMap.mp holds with ⟨position, _, settled⟩
  rcases Option.map_eq_some_iff.mp settled with ⟨asset, found, rfl⟩
  rw [asset?_congr catalog.provider (sameFold_of_asset? found)]
  exact found

theorem mem_assets_of_asset? {provider : Provider} {symbol : String} {asset : Asset}
    (found : provider.asset? symbol = some asset) : asset ∈ provider.assets :=
  List.mem_of_find?_eq_some found

/-! ## The accounts of several addresses -/

theorem accountsOf_cons (filter : List Asset) {address : String} {addresses : List String}
    (sound : Text.isBlank address = false) :
    catalog.accountsOf filter (address :: addresses) =
      ((catalog.accountsOf filter addresses).1.map (catalog.accountFor filter address :: ·),
        catalog.accountEvent (catalog.accountFor filter address) ::
          (catalog.accountsOf filter addresses).2) := by
  rw [accountsOf, sound, contracts_eq]
  rfl

/-- A filter counts only by what it leaves of the accounts. -/
theorem accountsOf_congr {filter other : List Asset}
    (same : ∀ address, catalog.accountFor filter address = catalog.accountFor other address)
    (addresses : List String) :
    catalog.accountsOf filter addresses = catalog.accountsOf other addresses := by
  induction addresses with
  | nil => rfl
  | cons address addresses inductionHypothesis =>
    cases blank : Text.isBlank address with
    | true => rw [accountsOf, accountsOf, blank, if_pos rfl, if_pos rfl]
    | false =>
      rw [accountsOf_cons filter blank, accountsOf_cons other blank, same, inductionHypothesis]

theorem accountsOf_eq_ok_iff {filter : List Asset} {addresses : List String}
    {accounts : List Account} :
    (catalog.accountsOf filter addresses).1 = .ok accounts ↔
      (∀ address ∈ addresses, Text.isBlank address = false) ∧
        accounts = addresses.map (catalog.accountFor filter) := by
  induction addresses generalizing accounts with
  | nil =>
    constructor
    · rintro ⟨⟩
      exact ⟨fun _ member => absurd member List.not_mem_nil, rfl⟩
    · rintro ⟨_, rfl⟩
      rfl
  | cons address addresses inductionHypothesis =>
    rw [List.forall_mem_cons, List.map_cons]
    cases blank : Text.isBlank address with
    | true =>
      rw [accountsOf, blank, if_pos rfl]
      refine iff_of_false (by rintro ⟨⟩) ?_
      rintro ⟨⟨impossible, _⟩, _⟩
      cases impossible
    | false =>
      rw [accountsOf_cons filter blank]
      cases later : (catalog.accountsOf filter addresses).1 with
      | error error =>
        refine iff_of_false (by rintro ⟨⟩) ?_
        rintro ⟨⟨_, sound⟩, _⟩
        have answered := inductionHypothesis.mpr ⟨sound, rfl⟩
        rw [later] at answered
        cases answered
      | ok others =>
        rcases inductionHypothesis.mp later with ⟨sound, rfl⟩
        constructor
        · rintro ⟨⟩
          exact ⟨⟨rfl, sound⟩, rfl⟩
        · rintro ⟨_, rfl⟩
          rfl

theorem accounts_eq_ok_iff {request : AccountsQuery} {accounts : List Account} :
    (catalog.accounts request).1 = .ok accounts ↔
      ∃ filter, request.assets.mapM catalog.asset = .ok filter ∧
        (∀ address ∈ request.addresses, Text.isBlank address = false) ∧
          accounts = request.addresses.map (catalog.accountFor filter) := by
  cases named : request.assets.mapM catalog.asset with
  | error error =>
    rw [accounts_of_unknown named]
    refine iff_of_false (by rintro ⟨⟩) ?_
    rintro ⟨filter, impossible, _⟩
    cases impossible
  | ok filter =>
    rw [accounts_of_known named, accountsOf_eq_ok_iff]
    constructor
    · exact fun answered => ⟨filter, rfl, answered⟩
    · rintro ⟨_, ⟨⟩, answered⟩
      exact answered

/-! ## Filters -/

/-- A filter of the assets that some symbols stand for wants every asset that counts for one
of the symbols. -/
theorem wanted_of_named {symbols : List String} {filter : List Asset}
    (named : symbols.mapM catalog.asset = .ok filter) {asset : Asset}
    (listed : asset.symbol ∈ symbols)
    (counts : catalog.provider.asset? asset.symbol = some asset) : wanted filter asset = true := by
  rcases Traversal.exists_of_mem (Traversal.mapM_eq_ok_iff.mp named) listed with
    ⟨chosen, member, found⟩
  have same : asset = chosen := by
    rw [asset_eq_ok_iff, counts] at found
    exact Option.some.inj found
  rw [wanted, Bool.or_eq_true, List.any_eq_true]
  exact Or.inr ⟨chosen, member, beq_iff_eq.mpr (congrArg Asset.symbol same.symm)⟩

/-- To ask for one asset of an account is to ask again and take this asset alone. -/
theorem accountFor_single {filter : List Asset} {asset : Asset}
    (asked : wanted filter asset = true) (address : String) :
    catalog.accountFor [asset] address =
      narrow asset.symbol (catalog.accountFor filter address) := by
  have chosen : ∀ contract : Contract, wanted [asset] contract.asset =
      (contract.asset.symbol == asset.symbol && wanted filter contract.asset) := by
    intro contract
    have single : wanted [asset] contract.asset = (asset.symbol == contract.asset.symbol) :=
      Bool.or_false _
    by_cases same : contract.asset.symbol = asset.symbol
    · have asked : wanted filter contract.asset = true := by
        rw [wanted, same]
        exact asked
      rw [single, same, asked, beq_self_eq_true, Bool.and_true]
    · rw [single, beq_eq_false_iff_ne.mpr same, beq_eq_false_iff_ne.mpr (Ne.symm same),
        Bool.false_and]
  simp only [accountFor, narrow, List.filter_filter, chosen]

end Catalog

/-! ## All assets -/

/-- The symbols of the whole catalog ask for every contract, like no symbols at all. -/
theorem accounts_of_all_symbols (catalog : Catalog) (addresses : List String) :
    catalog.accounts ⟨addresses, symbolsOf catalog.provider⟩ = catalog.accounts ⟨addresses, []⟩ := by
  have known : ∀ symbol ∈ symbolsOf catalog.provider, ∃ asset, catalog.asset symbol = .ok asset := by
    intro symbol member
    rcases List.mem_map.mp member with ⟨asset, listed, rfl⟩
    exact Catalog.asset_of_hasAsset ⟨asset, listed, Text.sameFold_refl asset.symbol⟩
  rcases Traversal.mapM_isOk known with ⟨filter, named⟩
  have explicit : catalog.accounts ⟨addresses, symbolsOf catalog.provider⟩ =
      catalog.accountsOf filter addresses := Catalog.accounts_of_known named
  have implicit : catalog.accounts ⟨addresses, []⟩ = catalog.accountsOf [] addresses :=
    Catalog.accounts_of_known rfl
  rw [explicit, implicit]
  apply Catalog.accountsOf_congr
  intro address
  have all : ∀ contract ∈ catalog.held address,
      Catalog.wanted filter contract.asset = Catalog.wanted [] contract.asset := by
    intro contract holds
    have counts := Catalog.asset?_of_held holds
    have listed := Catalog.mem_assets_of_asset? counts
    exact Catalog.wanted_of_named named (List.mem_map_of_mem listed) counts
  rw [Catalog.accountFor, Catalog.accountFor, List.filter_congr all]

/-- The symbols of the whole catalog get the rates of all assets exactly if assets whose
symbols agree up to case do not differ in their rates. -/
theorem rates_of_all_symbols_iff (catalog : Catalog) :
    catalog.rates (symbolsOf catalog.provider) = catalog.rates [] ↔
      ∀ asset ∈ catalog.provider.assets, ∀ other ∈ catalog.provider.assets,
        Text.sameFold asset.symbol other.symbol = true → asset.rate = other.rate := by
  have pointwise : catalog.rates (symbolsOf catalog.provider) = catalog.rates [] ↔
      ∀ asset ∈ catalog.provider.assets, Quotes catalog.provider asset.symbol asset.rate := by
    by_cases empty : catalog.provider.assets = []
    · simp [symbolsOf, empty]
    · have named : symbolsOf catalog.provider ≠ [] := by simpa [symbolsOf] using empty
      rw [catalog.rates_of_none_named, Catalog.rates_eq_ok_iff named, symbolsOf,
        List.forall₂_map_left_iff, List.forall₂_map_right_iff, List.forall₂_same]
  rw [pointwise]
  constructor
  · intro quoted asset listed other otherListed same
    rcases quoted asset listed with ⟨first, counts, rate⟩
    rcases quoted other otherListed with ⟨otherFirst, otherCounts, otherRate⟩
    -- Both symbols stand for the same asset.
    rw [← asset?_eq_some_iff, asset?_congr catalog.provider same,
      asset?_eq_some_iff.mpr otherCounts] at counts
    rw [rate, otherRate, Option.some.inj counts]
  · intro alike asset listed
    have known : HasAsset catalog.provider asset.symbol :=
      ⟨asset, listed, Text.sameFold_refl asset.symbol⟩
    rcases Option.isSome_iff_exists.mp (hasAsset_iff.mp known) with ⟨first, found⟩
    have same := sameFold_of_asset? found
    have rate := alike first (Catalog.mem_assets_of_asset? found) asset listed same
    exact ⟨first, asset?_eq_some_iff.mp found, rate.symm⟩

/-- No symbols ask for all assets.  For accounts they always do.  For rates they do exactly
if no two assets with the same symbol up to case differ in their rates, and so in a catalog
that does not repeat a symbol. -/
theorem none_named_means_all {provider : Provider} {positions : Positions} {catalog : Catalog}
    (made : Catalog.make provider positions = .ok catalog) (addresses : List String) :
    catalog.accounts ⟨addresses, []⟩ = catalog.accounts ⟨addresses, symbolsOf provider⟩ ∧
    (catalog.rates [] = catalog.rates (symbolsOf provider) ↔
      ∀ asset ∈ provider.assets, ∀ other ∈ provider.assets,
        Text.sameFold asset.symbol other.symbol = true → asset.rate = other.rate) ∧
    (provider.assets.Pairwise (fun asset other =>
        Text.sameFold asset.symbol other.symbol = false) →
      catalog.rates [] = catalog.rates (symbolsOf provider)) := by
  rcases catalog_of_make made with ⟨rfl, -⟩
  have exactly := rates_of_all_symbols_iff catalog
  refine ⟨(accounts_of_all_symbols catalog addresses).symm, eq_comm.trans exactly, ?_⟩
  intro distinct
  refine (exactly.mpr ?_).symm
  have apart : catalog.provider.assets.Pairwise fun asset other =>
      Text.sameFold asset.symbol other.symbol = true → asset.rate = other.rate := by
    apply distinct.imp
    intro asset other different same
    rw [different] at same
    cases same
  have backward : catalog.provider.assets.Pairwise fun asset other =>
      Text.sameFold other.symbol asset.symbol = true → other.rate = asset.rate := by
    apply distinct.imp
    intro asset other different same
    rw [Text.sameFold_comm, different] at same
    cases same
  exact List.Pairwise.forall_of_forall_of_flip (fun _ _ _ => rfl) apart backward

/-- The provider of distinct symbols that is left without the first asset. -/
def distinctive : Provider :=
  { repetitive with assets := repetitive.assets.tail }

/-- Accounts with all assets are the same in either way of asking, also when a symbol is
repeated and an address is blank; the rates are the same for a catalog of distinct symbols. -/
theorem none_named_means_all_repetitive :
    Catalog.make repetitive repetitiveDeposits = .ok repetitiveCatalog ∧
    repetitiveCatalog.accounts ⟨["0x1", " "], []⟩ =
      repetitiveCatalog.accounts ⟨["0x1", " "], ["ETH", "eth", "é"]⟩ ∧
    ∃ catalog, Catalog.make distinctive ⟨[], .nil⟩ = .ok catalog ∧
      catalog.rates [] = catalog.rates ["eth", "é"] := by
  have made : Catalog.make repetitive repetitiveDeposits = .ok repetitiveCatalog := rfl
  have distinctMade : Catalog.make distinctive ⟨[], .nil⟩ =
      .ok ⟨distinctive, ⟨[], .nil⟩, by decide, covers_of_firstUnknown? rfl⟩ := rfl
  have distinct : distinctive.assets.Pairwise fun asset other =>
      Text.sameFold asset.symbol other.symbol = false := by decide
  refine ⟨made, (none_named_means_all made ["0x1", " "]).1, ?_⟩
  exact ⟨_, distinctMade, (none_named_means_all distinctMade []).2.2 distinct⟩

/-- A symbol that is repeated in another case gets the rate of the first asset twice, while
without symbols each asset comes with its own rate. -/
theorem repeated_symbol_hides_asset :
    Catalog.make repetitive repetitiveDeposits = .ok repetitiveCatalog ∧
    repetitiveCatalog.rates [] ≠ repetitiveCatalog.rates (symbolsOf repetitive) := by
  refine ⟨rfl, ?_⟩
  intro same
  have listed : (repetitiveCatalog.rates []).map (List.map Rate.symbol) =
      .ok ["ETH", "eth", "é"] := rfl
  have asked : (repetitiveCatalog.rates (symbolsOf repetitive)).map (List.map Rate.symbol) =
      .ok ["ETH", "ETH", "é"] := rfl
  rw [same, asked] at listed
  exact absurd (Except.ok.inj listed) (by decide)

/-! ## One asset -/

/-- Every contract of an answer is about one asset for all queries.  The asset is in the
catalog that the provider shows, its symbol gets the rate of just this asset, and asking again
for this symbol gets the same accounts with the contracts of this asset. -/
theorem queries_agree {provider : Provider} {positions : Positions} {catalog : Catalog}
    (made : Catalog.make provider positions = .ok catalog) {request : AccountsQuery}
    {accounts : List Account} {events : List Log.Event}
    (answered : catalog.toBackend.accounts request = .atOnce (.ok accounts) events)
    {account : Account} (member : account ∈ accounts) {contract : Contract}
    (holds : contract ∈ account.contracts) {symbol : String}
    (same : Text.sameFold symbol contract.asset.symbol = true) :
    (∃ described, catalog.toBackend.info = .atOnce (.ok described) [] ∧
      described = provider ∧ contract.asset ∈ described.assets) ∧
    catalog.toBackend.rates [symbol] = .atOnce (.ok [contract.asset.rate]) [] ∧
    (∃ events, catalog.toBackend.accounts ⟨request.addresses, [symbol]⟩ =
      .atOnce (.ok (accounts.map (narrow contract.asset.symbol))) events) ∧
    contract ∈ (narrow contract.asset.symbol account).contracts := by
  rcases catalog_of_make made with ⟨rfl, rfl⟩
  have outcome : (catalog.accounts request).1 = .ok accounts := by
    injection answered
  rcases Catalog.accounts_eq_ok_iff.mp outcome with ⟨filter, named, sound, rfl⟩
  rcases List.mem_map.mp member with ⟨address, asked, rfl⟩
  rcases List.mem_filter.mp holds with ⟨held, wanted⟩
  have counts := Catalog.asset?_of_held held
  have found : catalog.asset symbol = .ok contract.asset := by
    rw [Catalog.asset_eq_ok_iff, asset?_congr catalog.provider same]
    exact counts
  have single : [symbol].mapM catalog.asset = .ok [contract.asset] := by
    rw [Traversal.mapM_cons_ok found]
    rfl
  refine ⟨⟨catalog.provider, rfl, rfl, Catalog.mem_assets_of_asset? counts⟩, ?_, ?_, ?_⟩
  · have quoted : catalog.rates [symbol] = .ok [contract.asset.rate] := by
      rw [Catalog.rates_eq_ok_iff (List.cons_ne_nil symbol [])]
      exact .cons ⟨contract.asset, asset?_eq_some_iff.mp (Catalog.asset_eq_ok_iff.mp found), rfl⟩ .nil
    exact congrArg (Reply.atOnce · []) quoted
  · have again : (catalog.accounts ⟨request.addresses, [symbol]⟩).1 =
        .ok (request.addresses.map (catalog.accountFor [contract.asset])) :=
      Catalog.accounts_eq_ok_iff.mpr ⟨[contract.asset], single, sound, rfl⟩
    have narrowed : catalog.accountFor [contract.asset] =
        narrow contract.asset.symbol ∘ catalog.accountFor filter :=
      funext (Catalog.accountFor_single wanted)
    rw [List.map_map, ← narrowed]
    exact ⟨_, congrArg (Reply.atOnce · _) again⟩
  · exact List.mem_filter.mpr ⟨holds, beq_self_eq_true contract.asset.symbol⟩

/-- A deposit of an asset whose symbol is repeated in another case. -/
theorem queries_agree_repetitive :
    let contract : Contract := ⟨⟨"ETH", "one", 0.05, 0, 1, "7", "0", ⟨none⟩⟩, "1"⟩
    let other : Contract := ⟨⟨"é", "", 0.05, 0, 1, "7", "0", ⟨none⟩⟩, "2"⟩
    Catalog.make repetitive repetitiveDeposits = .ok repetitiveCatalog ∧
    (∃ events, repetitiveCatalog.toBackend.accounts ⟨["0x1", "0x2"], ["é", "eTH"]⟩ =
      .atOnce (.ok [⟨"0x1", [contract, other]⟩, ⟨"0x2", []⟩]) events) ∧
    repetitiveCatalog.toBackend.rates ["etH"] = .atOnce (.ok [contract.asset.rate]) [] ∧
    (∃ events, repetitiveCatalog.toBackend.accounts ⟨["0x1", "0x2"], ["etH"]⟩ =
      .atOnce (.ok [⟨"0x1", [contract]⟩, ⟨"0x2", []⟩]) events) := by
  intro contract other
  have answered : repetitiveCatalog.toBackend.accounts ⟨["0x1", "0x2"], ["é", "eTH"]⟩ =
      .atOnce (.ok [⟨"0x1", [contract, other]⟩, ⟨"0x2", []⟩]) _ := rfl
  have made : Catalog.make repetitive repetitiveDeposits = .ok repetitiveCatalog := rfl
  have same : Text.sameFold "etH" contract.asset.symbol = true := by decide
  rcases queries_agree made answered List.mem_cons_self List.mem_cons_self same with
    ⟨_, quoted, narrowed, _⟩
  exact ⟨made, ⟨_, answered⟩, quoted, narrowed⟩

end Backend
end LendingGateway
