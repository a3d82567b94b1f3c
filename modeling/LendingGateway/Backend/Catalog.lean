import LendingGateway.Backend.Basic
import LendingGateway.Registry.Configuration
import LendingGateway.Registry.AssemblyError
import LendingGateway.Text.Blank

namespace LendingGateway
namespace Backend

open Lending Registry

/-!
# Catalogs

A catalog answers from the provider file alone.  It is accepted only if its identifier
says something and every deposit is of an asset that it has, so no query about a deposit
can fail for want of the asset.  Addresses are compared exactly, symbols up to ASCII
case.
-/

/-- The first deposit of an asset that a provider does not have. -/
def unknownDeposit? (provider : Provider) (held : List Position) : Option Position :=
  held.find? fun position => (provider.asset? position.symbol).isNone

/-- The first address with a deposit of an asset that a provider does not have, and the
symbol of that asset. -/
def firstUnknown? (provider : Provider) (entries : List (String × List Position)) :
    Option (String × String) :=
  entries.findSome? fun (address, held) =>
    (unknownDeposit? provider held).map fun position => (address, position.symbol)

/-- Whether a provider has the asset of every deposit. -/
def Covers (provider : Provider) (positions : Positions) : Prop :=
  ∀ entry ∈ positions.entries, ∀ position ∈ entry.2,
    (provider.asset? position.symbol).isSome = true

theorem covers_of_firstUnknown? {provider : Provider} {positions : Positions}
    (none_unknown : firstUnknown? provider positions.entries = none) :
    Covers provider positions := by
  intro entry member position held
  have clear := List.findSome?_eq_none_iff.mp none_unknown entry member
  rw [Option.map_eq_none_iff] at clear
  have known := List.find?_eq_none.mp clear position held
  cases found : provider.asset? position.symbol with
  | none => simp [found] at known
  | some asset => rfl

/-- A provider described by the provider file. -/
structure Catalog where
  provider : Provider
  positions : Positions
  named : Text.isBlank provider.id = false
  covered : Covers provider positions

namespace Catalog

def make (provider : Provider) (positions : Positions) : Except EntryError Catalog :=
  if named : Text.isBlank provider.id = false then
    match unknown : firstUnknown? provider positions.entries with
    | some (address, symbol) => .error (.unknownAsset provider.id address symbol)
    | none => .ok ⟨provider, positions, named, covers_of_firstUnknown? unknown⟩
  else .error .blankCatalogId

def asset (catalog : Catalog) (symbol : String) : Except QueryError Asset :=
  match catalog.provider.asset? symbol with
  | some asset => .ok asset
  | none => .error (.invalidAsset catalog.provider.id symbol)

/-- The rates of some assets, or of the whole catalog when none are named. -/
def rates (catalog : Catalog) (symbols : List String) : Except QueryError (List Rate) :=
  if symbols.isEmpty then .ok (catalog.provider.assets.map Asset.rate)
  else symbols.mapM fun symbol => (catalog.asset symbol).map Asset.rate

/-- Whether a deposit of an asset is wanted: no filter wants them all. -/
def wanted (filter : List Asset) (asset : Asset) : Bool :=
  filter.isEmpty || filter.any fun chosen => chosen.symbol == asset.symbol

def positionsOf (catalog : Catalog) (address : String) : List Position :=
  (catalog.positions.get? address).getD []

/-- The contracts of some deposits, narrowed to some assets. -/
def contractsOf (catalog : Catalog) (filter : List Asset) :
    List Position → Except QueryError (List Contract)
  | [] => .ok []
  | position :: held => do
    let asset ← catalog.asset position.symbol
    let contracts ← catalog.contractsOf filter held
    .ok (if wanted filter asset then ⟨asset, position.currentAmount⟩ :: contracts else contracts)

def contracts (catalog : Catalog) (filter : List Asset) (address : String) :
    Except QueryError (List Contract) :=
  catalog.contractsOf filter (catalog.positionsOf address)

def accountEvent (catalog : Catalog) (account : Account) : Log.Event where
  level := .debug
  target := "lendgate_lending::provider::static_catalog"
  message := "Provider '" ++ catalog.provider.id ++ "': " ++ toString account.contracts.length
    ++ " contracts for " ++ account.address

/-- The accounts of some addresses, one after the other, and what is told of them.  A blank
address fails the request after the addresses before it have been answered. -/
def accountsOf (catalog : Catalog) (filter : List Asset) :
    List String → Except QueryError (List Account) × List Log.Event
  | [] => (.ok [], [])
  | address :: addresses =>
    if Text.isBlank address then (.error (.invalidAddress catalog.provider.id address), [])
    else
      match catalog.contracts filter address with
      | .error error => (.error error, [])
      | .ok contracts =>
        let account := Account.mk address contracts
        let (outcome, events) := catalog.accountsOf filter addresses
        (outcome.map (account :: ·), catalog.accountEvent account :: events)

/-- The accounts of a request.  The assets are looked at before the addresses. -/
def accounts (catalog : Catalog) (request : AccountsQuery) :
    Except QueryError (List Account) × List Log.Event :=
  match request.assets.mapM catalog.asset with
  | .error error => (.error error, [])
  | .ok filter => catalog.accountsOf filter request.addresses

def toBackend (catalog : Catalog) : Backend where
  id := catalog.provider.id
  info := .atOnce (.ok catalog.provider) []
  rates symbols := .atOnce (catalog.rates symbols) []
  accounts request :=
    let (outcome, events) := catalog.accounts request
    .atOnce outcome events

end Catalog

end Backend
end LendingGateway
