import Mathlib.Data.List.Nodup
import LendingGateway.Proofs.Backend.Holdings

namespace LendingGateway

/-!
# The deposits that a catalog is made with

A catalog checks the symbols of its deposits when it is made, and the address when it is
asked.  Between the two no deposit is lost: under an address that says something each one
is found, in its place.  A blank address may be a key all the same, and nothing can be
asked for under it.
-/

/-- Every entry of a dictionary is found under its key. -/
theorem Json.Dictionary.get?_of_mem {α : Type} (dictionary : Json.Dictionary α) {key : String}
    {value : α} (member : (key, value) ∈ dictionary.entries) :
    dictionary.get? key = some value := by
  rcases List.mem_iff_append.mp member with ⟨before, after, split⟩
  apply List.lookup_eq_some_iff.mpr
  refine ⟨before, after, split, ?_⟩
  have distinct := dictionary.distinct
  rw [split, List.map_append, List.map_cons, List.nodup_middle, List.nodup_cons] at distinct
  intro earlier early
  rw [bne_iff_ne]
  intro same
  apply distinct.1
  change key ∈ _
  rw [same]
  exact List.mem_append_left _ (List.mem_map_of_mem early)

namespace Backend

open Lending Registry

/-- A contract shows a deposit: the amount is the same, the symbol is the same up to ASCII
case, and the asset is the first one of the catalog with such a symbol. -/
structure Shows (provider : Provider) (position : Position) (contract : Contract) : Prop where
  amount : contract.currentAmount = position.currentAmount
  symbol : List.Forall₂ Text.SameLetter contract.asset.symbol.toList position.symbol.toList
  asset : FirstMatch provider position.symbol contract.asset

theorem shows_of_settles {provider : Provider} {position : Position} {contract : Contract}
    (settles : Settles provider position contract) : Shows provider position contract where
  amount := settles.2
  symbol := Text.sameFold_iff_sameLetters.mp (sameFold_of_asset? (asset?_eq_some_iff.mpr settles.1))
  asset := settles.1

namespace Catalog

variable {catalog : Catalog}

theorem positionsOf_of_mem {address : String} {held : List Position}
    (kept : (address, held) ∈ catalog.positions.entries) : catalog.positionsOf address = held := by
  rw [positionsOf, catalog.positions.get?_of_mem kept]
  rfl

/-- Without a filter the account of an address has all its deposits. -/
theorem shows_accountFor {address : String} {held : List Position}
    (kept : (address, held) ∈ catalog.positions.entries) :
    List.Forall₂ (Shows catalog.provider) held (catalog.accountFor [] address).contracts := by
  have settled : catalog.contractsOf [] held = .ok (catalog.accountFor [] address).contracts := by
    rw [← positionsOf_of_mem kept]
    exact catalog.contracts_eq [] address
  have unnamed : (⟨[address], []⟩ : AccountsQuery).assets.mapM catalog.asset = .ok [] := rfl
  have each := settles_of_contractsOf unnamed settled
  have unfiltered : held.filter (asksFor ⟨[address], []⟩) = held :=
    List.filter_eq_self.mpr fun _ _ => rfl
  rw [unfiltered] at each
  exact each.imp fun _ _ => shows_of_settles

theorem accounts_toBackend (catalog : Catalog) (request : AccountsQuery) :
    catalog.toBackend.accounts request =
      .atOnce (catalog.accounts request).1 (catalog.accounts request).2 :=
  rfl

end Catalog

/-- A request for one address of a catalog's deposits and for all assets.  If the address
says something, it gets the one account of this address, with a contract for each deposit
that the catalog was made with, in the same order.  A blank address is refused. -/
theorem own_deposits_exact {provider : Provider} {positions : Positions} {catalog : Catalog}
    (made : Catalog.make provider positions = .ok catalog) {address : String}
    {held : List Position} (kept : (address, held) ∈ positions.entries) :
    (SaysSomething address →
      ∃ contracts events,
        catalog.toBackend.accounts ⟨[address], []⟩ = .atOnce (.ok [⟨address, contracts⟩]) events ∧
          List.Forall₂ (Shows provider) held contracts) ∧
    (¬ SaysSomething address →
      catalog.toBackend.accounts ⟨[address], []⟩ =
        .atOnce (.error (.invalidAddress provider.id address)) []) := by
  rcases catalog_of_make made with ⟨rfl, rfl⟩
  have unfiltered : catalog.accounts ⟨[address], []⟩ = catalog.accountsOf [] [address] :=
    Catalog.accounts_of_known rfl
  rw [Catalog.accounts_toBackend, unfiltered]
  constructor
  · intro sound
    refine ⟨(catalog.accountFor [] address).contracts,
      [catalog.accountEvent (catalog.accountFor [] address)], ?_, Catalog.shows_accountFor kept⟩
    rw [Catalog.accountsOf_cons [] (saysSomething_iff.mp sound)]
    rfl
  · intro blank
    rw [Catalog.accountsOf, if_pos (isBlank_iff.mpr blank)]

/-- Two deposits of one address, the first under a symbol in small letters, come back as two
contracts. -/
theorem own_deposits_exact_repetitive :
    Catalog.make repetitive repetitiveDeposits = .ok repetitiveCatalog ∧
    ("0x1", [⟨"eth", "1"⟩, ⟨"é", "2"⟩]) ∈ repetitiveDeposits.entries ∧
    ∃ contracts events,
      repetitiveCatalog.toBackend.accounts ⟨["0x1"], []⟩ =
        .atOnce (.ok [⟨"0x1", contracts⟩]) events ∧
      List.Forall₂ (Shows repetitive) [⟨"eth", "1"⟩, ⟨"é", "2"⟩] contracts := by
  have made : Catalog.make repetitive repetitiveDeposits = .ok repetitiveCatalog := rfl
  have kept : ("0x1", [⟨"eth", "1"⟩, ⟨"é", "2"⟩]) ∈ repetitiveDeposits.entries :=
    List.mem_singleton.mpr rfl
  refine ⟨made, kept, (own_deposits_exact made kept).1 ?_⟩
  rw [saysSomething_iff]
  decide

def blankDeposits : Positions :=
  ⟨[(" ", [⟨"eth", "1"⟩])], by decide⟩

/-- A catalog can be made with a deposit under a blank address, and a request for it fails. -/
theorem deposit_of_blank_address_refused :
    ∃ catalog, Catalog.make repetitive blankDeposits = .ok catalog ∧
      (" ", [⟨"eth", "1"⟩]) ∈ blankDeposits.entries ∧
      ¬ ∃ accounts events,
        catalog.toBackend.accounts ⟨[" "], []⟩ = .atOnce (.ok accounts) events := by
  have covered : firstUnknown? repetitive blankDeposits.entries = none := by decide
  refine ⟨⟨repetitive, blankDeposits, by decide, covers_of_firstUnknown? covered⟩, rfl,
    List.mem_singleton.mpr rfl, ?_⟩
  rintro ⟨accounts, events, answered⟩
  cases answered

end Backend
end LendingGateway
