import LendingGateway.Backend.Catalog
import LendingGateway.Proofs.Traversal

namespace LendingGateway

/-!
# Amounts are not looked at

The amounts of assets and deposits are texts that nobody reads.  Replacing every one of them
by its image under any function changes neither whether a catalog is accepted nor what is
selected from it: the answers are the old ones with their amounts replaced in the same way.
-/

/-! ## Replacing the amounts -/

namespace Lending

def Asset.mapAmounts (image : String → String) (asset : Asset) : Asset :=
  { asset with
    totalSupply := image asset.totalSupply
    minimumAmount := image asset.minimumAmount }

def Provider.mapAmounts (image : String → String) (provider : Provider) : Provider :=
  { provider with assets := provider.assets.map (Asset.mapAmounts image) }

def Contract.mapAmounts (image : String → String) (contract : Contract) : Contract :=
  ⟨contract.asset.mapAmounts image, image contract.currentAmount⟩

def Account.mapAmounts (image : String → String) (account : Account) : Account :=
  { account with contracts := account.contracts.map (Contract.mapAmounts image) }

theorem Provider.asset?_mapAmounts (image : String → String) (provider : Provider)
    (symbol : String) :
    (provider.mapAmounts image).asset? symbol =
      (provider.asset? symbol).map (Asset.mapAmounts image) :=
  List.find?_map

end Lending

open Lending

namespace Registry

def Position.mapAmounts (image : String → String) (position : Position) : Position :=
  { position with currentAmount := image position.currentAmount }

def mapPositions (image : String → String) (positions : Positions) : Positions :=
  positions.map (List.map (Position.mapAmounts image))

end Registry

open Registry

namespace Backend

/-- A reply with its value replaced, at the same time and with the same errors and events. -/
def Reply.map {α β : Type} (image : α → β) : Reply α → Reply β
  | .after ticks outcome events => .after ticks (outcome.map image) events
  | .never => .never

end Backend

/-- A backend whose answers have their amounts replaced. -/
def Backend.mapAmounts (image : String → String) (backend : Backend) : Backend where
  id := backend.id
  info := backend.info.map (Provider.mapAmounts image)
  rates := backend.rates
  accounts request := (backend.accounts request).map (List.map (Account.mapAmounts image))

namespace Backend

/-! ## Accepting a catalog -/

theorem unknownDeposit?_mapAmounts (image : String → String) (provider : Provider)
    (held : List Position) :
    unknownDeposit? (provider.mapAmounts image) (held.map (Position.mapAmounts image)) =
      (unknownDeposit? provider held).map (Position.mapAmounts image) := by
  unfold unknownDeposit?
  rw [List.find?_map]
  congr 2
  funext position
  change (((provider.mapAmounts image).asset? position.symbol).isNone) = _
  rw [Provider.asset?_mapAmounts, Option.isNone_map]

theorem firstUnknown?_mapAmounts (image : String → String) (provider : Provider)
    (positions : Positions) :
    firstUnknown? (provider.mapAmounts image) (mapPositions image positions).entries =
      firstUnknown? provider positions.entries := by
  change List.findSome? _ (positions.entries.map _) = _
  rw [List.findSome?_map]
  unfold firstUnknown?
  congr 1
  funext entry
  change (unknownDeposit? (provider.mapAmounts image)
    (entry.2.map (Position.mapAmounts image))).map _ = _
  rw [unknownDeposit?_mapAmounts, Option.map_map]
  rfl

namespace Catalog

def mapAmounts (image : String → String) (catalog : Catalog) : Catalog where
  provider := catalog.provider.mapAmounts image
  positions := mapPositions image catalog.positions
  named := catalog.named
  covered := by
    intro entry member position held
    rcases List.mem_map.mp member with ⟨original, kept, rfl⟩
    rcases List.mem_map.mp held with ⟨deposit, known, rfl⟩
    change ((catalog.provider.mapAmounts image).asset? deposit.symbol).isSome = true
    rw [Provider.asset?_mapAmounts, Option.isSome_map]
    exact catalog.covered original kept deposit known

/-- A catalog is accepted with its amounts replaced exactly if it is accepted, and refused
for the same reason otherwise. -/
theorem make_mapAmounts (image : String → String) (provider : Provider)
    (positions : Positions) :
    make (provider.mapAmounts image) (mapPositions image positions) =
      (make provider positions).map (mapAmounts image) := by
  have unchanged := firstUnknown?_mapAmounts image provider positions
  unfold make
  by_cases named : Text.isBlank provider.id = false
  · have same : Text.isBlank (provider.mapAmounts image).id = false := named
    rw [dif_pos named, dif_pos same]
    split
    · rename_i address symbol unknown
      rw [unchanged] at unknown
      split
      · rename_i known
        rw [unknown] at known
        cases known
        rfl
      · rename_i known
        rw [unknown] at known
        cases known
    · rename_i known
      rw [unchanged] at known
      split
      · rename_i unknown
        rw [known] at unknown
        cases unknown
      · rfl
  · have same : ¬ Text.isBlank (provider.mapAmounts image).id = false := named
    rw [dif_neg named, dif_neg same]
    rfl

/-! ## Answering from a catalog -/

theorem asset_mapAmounts (image : String → String) (catalog : Catalog) (symbol : String) :
    (catalog.mapAmounts image).asset symbol =
      (catalog.asset symbol).map (Asset.mapAmounts image) := by
  have found : (catalog.mapAmounts image).provider.asset? symbol =
      (catalog.provider.asset? symbol).map (Asset.mapAmounts image) :=
    catalog.provider.asset?_mapAmounts image symbol
  unfold asset
  rw [found]
  cases catalog.provider.asset? symbol <;> rfl

theorem rates_mapAmounts (image : String → String) (catalog : Catalog)
    (symbols : List String) : (catalog.mapAmounts image).rates symbols = catalog.rates symbols := by
  have listed : (catalog.mapAmounts image).provider.assets.map Asset.rate =
      catalog.provider.assets.map Asset.rate := by
    change (catalog.provider.assets.map _).map _ = _
    rw [List.map_map]
    rfl
  have single : (fun symbol => ((catalog.mapAmounts image).asset symbol).map Asset.rate) =
      fun symbol => (catalog.asset symbol).map Asset.rate := by
    funext symbol
    rw [asset_mapAmounts]
    cases catalog.asset symbol <;> rfl
  unfold rates
  rw [listed, single]

theorem wanted_mapAmounts (image : String → String) (filter : List Asset) (asset : Asset) :
    wanted (filter.map (Asset.mapAmounts image)) (asset.mapAmounts image) =
      wanted filter asset := by
  unfold wanted
  rw [List.isEmpty_map, List.any_map]
  rfl

theorem positionsOf_mapAmounts (image : String → String) (catalog : Catalog)
    (address : String) :
    (catalog.mapAmounts image).positionsOf address =
      (catalog.positionsOf address).map (Position.mapAmounts image) := by
  change ((mapPositions image catalog.positions).get? address).getD [] = _
  rw [positionsOf, mapPositions, Json.Dictionary.get?_map]
  cases catalog.positions.get? address <;> rfl

theorem contractsOf_mapAmounts (image : String → String) (catalog : Catalog)
    (filter : List Asset) (held : List Position) :
    (catalog.mapAmounts image).contractsOf (filter.map (Asset.mapAmounts image))
        (held.map (Position.mapAmounts image)) =
      (catalog.contractsOf filter held).map (List.map (Contract.mapAmounts image)) := by
  induction held with
  | nil => rfl
  | cons position held inductionHypothesis =>
    have found := catalog.asset_mapAmounts image position.symbol
    change ((catalog.mapAmounts image).asset position.symbol >>= fun asset =>
      (catalog.mapAmounts image).contractsOf _ (held.map _) >>= fun contracts => _) = _
    rw [found, inductionHypothesis, contractsOf]
    cases catalog.asset position.symbol with
    | error error => rfl
    | ok asset =>
      cases catalog.contractsOf filter held with
      | error error => rfl
      | ok contracts =>
        change Except.ok (if wanted _ (asset.mapAmounts image) then _ else _) =
          Except.ok (List.map _ (if _ then _ else _))
        rw [wanted_mapAmounts]
        cases wanted filter asset <;> rfl

theorem contracts_mapAmounts (image : String → String) (catalog : Catalog)
    (filter : List Asset) (address : String) :
    (catalog.mapAmounts image).contracts (filter.map (Asset.mapAmounts image)) address =
      (catalog.contracts filter address).map (List.map (Contract.mapAmounts image)) := by
  unfold contracts
  rw [positionsOf_mapAmounts, contractsOf_mapAmounts]

theorem accountEvent_mapAmounts (image : String → String) (catalog : Catalog)
    (account : Account) :
    (catalog.mapAmounts image).accountEvent (account.mapAmounts image) =
      catalog.accountEvent account := by
  unfold accountEvent
  have count : (account.mapAmounts image).contracts.length = account.contracts.length :=
    List.length_map _
  rw [count]
  rfl

theorem accountsOf_mapAmounts (image : String → String) (catalog : Catalog)
    (filter : List Asset) (addresses : List String) :
    (catalog.mapAmounts image).accountsOf (filter.map (Asset.mapAmounts image)) addresses =
      ((catalog.accountsOf filter addresses).1.map (List.map (Account.mapAmounts image)),
        (catalog.accountsOf filter addresses).2) := by
  induction addresses with
  | nil => rfl
  | cons address addresses inductionHypothesis =>
    rw [accountsOf, accountsOf, contracts_mapAmounts, inductionHypothesis]
    cases Text.isBlank address with
    | true => rfl
    | false =>
      cases catalog.contracts filter address with
      | error error => rfl
      | ok contracts =>
        have told := catalog.accountEvent_mapAmounts image ⟨address, contracts⟩
        rcases catalog.accountsOf filter addresses with ⟨outcome, events⟩
        cases outcome with
        | error error => exact Prod.ext rfl (congrArg (· :: events) told)
        | ok accounts => exact Prod.ext rfl (congrArg (· :: events) told)

/-- The accounts of a request are those of the catalog with their amounts replaced, or the
same error; what is told on the way is the same. -/
theorem accounts_mapAmounts (image : String → String) (catalog : Catalog)
    (request : AccountsQuery) :
    (catalog.mapAmounts image).accounts request =
      ((catalog.accounts request).1.map (List.map (Account.mapAmounts image)),
        (catalog.accounts request).2) := by
  unfold accounts
  rw [Traversal.mapM_map_image (catalog.asset_mapAmounts image)]
  cases request.assets.mapM catalog.asset with
  | error error => rfl
  | ok filter => exact catalog.accountsOf_mapAmounts image filter request.addresses

theorem toBackend_mapAmounts (image : String → String) (catalog : Catalog) :
    (catalog.mapAmounts image).toBackend = catalog.toBackend.mapAmounts image := by
  unfold toBackend Backend.mapAmounts
  simp only [rates_mapAmounts, accounts_mapAmounts]
  rfl

end Catalog
end Backend
end LendingGateway
