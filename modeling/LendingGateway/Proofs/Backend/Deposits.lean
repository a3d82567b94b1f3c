import LendingGateway.Proofs.Registry.Assembly

namespace LendingGateway
namespace Backend

open Lending Registry

/-!
# What a catalog says about deposits

Symbols are compared up to ASCII case, and that is an equivalence.  A symbol and the asset
found for it can therefore be used for one another: to compare the assets that a request
names with the asset of a deposit is to compare the symbols themselves.  A catalog has the
asset of every deposit, so a request fails for what it asks or not at all, and what it gets
is complete.
-/

/-! ## The asset of a symbol -/

/-- The asset that a symbol stands for: the first one of the catalog that has it, up to
ASCII case. -/
def FirstMatch (provider : Provider) (symbol : String) (asset : Asset) : Prop :=
  ∃ before after, provider.assets = before ++ asset :: after ∧
    Text.sameFold asset.symbol symbol = true ∧
      ∀ earlier ∈ before, Text.sameFold earlier.symbol symbol = false

theorem asset?_eq_some_iff {provider : Provider} {symbol : String} {asset : Asset} :
    provider.asset? symbol = some asset ↔ FirstMatch provider symbol asset := by
  unfold Provider.asset? FirstMatch
  rw [List.find?_eq_some_iff_append]
  constructor
  · rintro ⟨same, before, after, split, earlier⟩
    exact ⟨before, after, split, same, fun other member =>
      Bool.not_eq_true' _ ▸ earlier other member⟩
  · rintro ⟨before, after, split, same, earlier⟩
    exact ⟨same, before, after, split, fun other member =>
      (Bool.not_eq_true' _).mpr (earlier other member)⟩

theorem sameFold_of_asset? {provider : Provider} {symbol : String} {asset : Asset}
    (found : provider.asset? symbol = some asset) : Text.sameFold asset.symbol symbol = true := by
  rcases asset?_eq_some_iff.mp found with ⟨_, _, _, same, _⟩
  exact same

/-- Symbols that agree up to case stand for the same asset. -/
theorem asset?_congr (provider : Provider) {symbol other : String}
    (same : Text.sameFold symbol other = true) :
    provider.asset? symbol = provider.asset? other := by
  have folded := Text.sameFold_iff.mp same
  unfold Provider.asset? Text.sameFold
  rw [folded]

namespace Catalog

theorem asset_eq_ok_iff {catalog : Catalog} {symbol : String} {asset : Asset} :
    catalog.asset symbol = .ok asset ↔ catalog.provider.asset? symbol = some asset := by
  unfold Catalog.asset
  cases catalog.provider.asset? symbol with
  | none => exact ⟨fun impossible => (nomatch impossible), fun impossible => (nomatch impossible)⟩
  | some found =>
    exact ⟨fun same => congrArg some (Except.ok.inj same),
      fun same => congrArg Except.ok (Option.some.inj same)⟩

theorem asset_of_hasAsset {catalog : Catalog} {symbol : String}
    (known : HasAsset catalog.provider symbol) : ∃ asset, catalog.asset symbol = .ok asset := by
  rcases Option.isSome_iff_exists.mp (hasAsset_iff.mp known) with ⟨asset, found⟩
  exact ⟨asset, asset_eq_ok_iff.mpr found⟩

theorem asset_of_not_hasAsset {catalog : Catalog} {symbol : String}
    (unknown : ¬ HasAsset catalog.provider symbol) :
    catalog.asset symbol = .error (.invalidAsset catalog.provider.id symbol) := by
  rw [hasAsset_iff, Option.not_isSome_iff_eq_none] at unknown
  unfold Catalog.asset
  rw [unknown]

end Catalog

/-! ## Deposits that are asked for -/

/-- Whether a request asks for a deposit: it names no assets, or one of its symbols is that
of the deposit up to ASCII case. -/
def asksFor (request : AccountsQuery) (position : Position) : Bool :=
  request.assets.isEmpty ||
    request.assets.any fun symbol => Text.sameFold symbol position.symbol

/-- A contract is a deposit with its asset: the amount is the same, and the asset is the
first one that matches. -/
def Settles (provider : Provider) (position : Position) (contract : Contract) : Prop :=
  FirstMatch provider position.symbol contract.asset ∧
    contract.currentAmount = position.currentAmount

/-- An account answers a request for an address: it has the address as it was given, and the
deposits of exactly this address that the request asks for, in their order. -/
def AnswersFor (provider : Provider) (positions : Positions) (request : AccountsQuery)
    (address : String) (account : Account) : Prop :=
  account.address = address ∧
    List.Forall₂ (Settles provider)
      (((positions.get? address).getD []).filter (asksFor request)) account.contracts

/-- An asset named by a symbol is the asset of a deposit exactly if the symbols agree. -/
theorem symbol_beq_eq_sameFold {provider : Provider} {symbol deposited : String}
    {chosen asset : Asset} (named : provider.asset? symbol = some chosen)
    (found : provider.asset? deposited = some asset) :
    (chosen.symbol == asset.symbol) = Text.sameFold symbol deposited := by
  have own := sameFold_of_asset? named
  have other := sameFold_of_asset? found
  rw [Bool.eq_iff_iff, beq_iff_eq]
  constructor
  · intro equal
    rw [← Text.sameFold_congr_left own, equal]
    exact other
  · intro alike
    rw [asset?_congr provider alike, found] at named
    cases named
    rfl

/-- Looking for the asset of a deposit among the assets of some symbols is looking for its
symbol among the symbols. -/
theorem any_symbol_eq {catalog : Catalog} {symbols : List String} {filter : List Asset}
    (named : List.Forall₂ (fun symbol asset => catalog.asset symbol = .ok asset) symbols filter)
    {deposited : String} {asset : Asset}
    (found : catalog.provider.asset? deposited = some asset) :
    (filter.any fun chosen => chosen.symbol == asset.symbol) =
      symbols.any fun symbol => Text.sameFold symbol deposited := by
  induction named with
  | nil => rfl
  | cons resolved _ inductionHypothesis =>
    rw [List.any_cons, List.any_cons,
      symbol_beq_eq_sameFold (Catalog.asset_eq_ok_iff.mp resolved) found, inductionHypothesis]

theorem wanted_eq_asksFor {catalog : Catalog} {request : AccountsQuery} {filter : List Asset}
    (named : request.assets.mapM catalog.asset = .ok filter) {position : Position} {asset : Asset}
    (found : catalog.provider.asset? position.symbol = some asset) :
    Catalog.wanted filter asset = asksFor request position := by
  have each := Traversal.mapM_eq_ok_iff.mp named
  have empty : filter.isEmpty = request.assets.isEmpty := by
    rw [Bool.eq_iff_iff, List.isEmpty_iff_length_eq_zero, List.isEmpty_iff_length_eq_zero,
      each.length_eq]
  unfold Catalog.wanted asksFor
  rw [empty, any_symbol_eq each found]

/-! ## One address -/

namespace Catalog

theorem contractsOf_isOk {catalog : Catalog} (filter : List Asset) {held : List Position}
    (covered : ∀ position ∈ held, (catalog.provider.asset? position.symbol).isSome = true) :
    ∃ contracts, catalog.contractsOf filter held = .ok contracts := by
  induction held with
  | nil => exact ⟨[], rfl⟩
  | cons position held inductionHypothesis =>
    rw [List.forall_mem_cons] at covered
    rcases Option.isSome_iff_exists.mp covered.1 with ⟨asset, found⟩
    rcases inductionHypothesis covered.2 with ⟨contracts, later⟩
    rw [contractsOf, asset_eq_ok_iff.mpr found, later]
    exact ⟨_, rfl⟩

theorem covers_positionsOf (catalog : Catalog) (address : String) :
    ∀ position ∈ catalog.positionsOf address,
      (catalog.provider.asset? position.symbol).isSome = true := by
  unfold positionsOf Json.Dictionary.get?
  cases kept : catalog.positions.entries.lookup address with
  | none => exact fun position impossible => absurd impossible List.not_mem_nil
  | some held =>
    have entry := List.lookup_eq_some_iff.mp kept
    rcases entry with ⟨before, after, split, _⟩
    exact catalog.covered (address, held) (split ▸ List.mem_append_right before List.mem_cons_self)

/-- Every deposit has its asset, so there is always an answer for an address. -/
theorem contracts_isOk (catalog : Catalog) (filter : List Asset) (address : String) :
    ∃ contracts, catalog.contracts filter address = .ok contracts :=
  contractsOf_isOk filter (catalog.covers_positionsOf address)

theorem settles_of_contractsOf {catalog : Catalog} {request : AccountsQuery} {filter : List Asset}
    (named : request.assets.mapM catalog.asset = .ok filter) {held : List Position}
    {contracts : List Contract} (settled : catalog.contractsOf filter held = .ok contracts) :
    List.Forall₂ (Settles catalog.provider) (held.filter (asksFor request)) contracts := by
  induction held generalizing contracts with
  | nil =>
    cases settled
    exact List.Forall₂.nil
  | cons position held inductionHypothesis =>
    rw [contractsOf] at settled
    rcases Traversal.bind_eq_ok_iff.mp settled with ⟨asset, resolved, settled⟩
    rcases Traversal.bind_eq_ok_iff.mp settled with ⟨later, rest, done⟩
    have found := asset_eq_ok_iff.mp resolved
    rw [wanted_eq_asksFor named found] at done
    cases asked : asksFor request position with
    | true =>
      rw [asked] at done
      cases done
      rw [List.filter_cons, if_pos asked]
      exact List.Forall₂.cons ⟨asset?_eq_some_iff.mp found, rfl⟩ (inductionHypothesis rest)
    | false =>
      rw [asked] at done
      cases done
      rw [List.filter_cons, if_neg (Bool.eq_false_iff.mp asked)]
      exact inductionHypothesis rest

/-! ## One address after the other -/

theorem accountsOf_of_blank {catalog : Catalog} {filter : List Asset} {before after : List String}
    {address : String} (earlier : ∀ other ∈ before, Text.isBlank other = false)
    (blank : Text.isBlank address = true) :
    (catalog.accountsOf filter (before ++ address :: after)).1 =
      .error (.invalidAddress catalog.provider.id address) := by
  induction before with
  | nil =>
    rw [List.nil_append, accountsOf, blank]
    rfl
  | cons other before inductionHypothesis =>
    rw [List.forall_mem_cons] at earlier
    rcases catalog.contracts_isOk filter other with ⟨contracts, settled⟩
    rw [List.cons_append, accountsOf, earlier.1, settled]
    change Except.map _ (catalog.accountsOf filter (before ++ address :: after)).1 = _
    rw [inductionHypothesis earlier.2]
    rfl

theorem accountsOf_isOk {catalog : Catalog} (filter : List Asset) {addresses : List String}
    (sound : ∀ address ∈ addresses, Text.isBlank address = false) :
    ∃ accounts, (catalog.accountsOf filter addresses).1 = .ok accounts := by
  induction addresses with
  | nil => exact ⟨[], rfl⟩
  | cons address addresses inductionHypothesis =>
    rw [List.forall_mem_cons] at sound
    rcases catalog.contracts_isOk filter address with ⟨contracts, settled⟩
    rcases inductionHypothesis sound.2 with ⟨accounts, answered⟩
    refine ⟨⟨address, contracts⟩ :: accounts, ?_⟩
    rw [accountsOf, sound.1, settled]
    change Except.map _ (catalog.accountsOf filter addresses).1 = _
    rw [answered]
    rfl

/-- An answer has an account for every address. -/
theorem answersFor_of_accountsOf {catalog : Catalog} {request : AccountsQuery}
    {filter : List Asset} (named : request.assets.mapM catalog.asset = .ok filter)
    {addresses : List String} {accounts : List Account}
    (answered : (catalog.accountsOf filter addresses).1 = .ok accounts) :
    List.Forall₂ (AnswersFor catalog.provider catalog.positions request) addresses accounts := by
  induction addresses generalizing accounts with
  | nil =>
    cases answered
    exact List.Forall₂.nil
  | cons address addresses inductionHypothesis =>
    rcases catalog.contracts_isOk filter address with ⟨contracts, settled⟩
    rw [accountsOf, settled] at answered
    cases blank : Text.isBlank address with
    | true =>
      rw [blank] at answered
      cases answered
    | false =>
      rw [blank] at answered
      change Except.map _ (catalog.accountsOf filter addresses).1 = _ at answered
      cases later : (catalog.accountsOf filter addresses).1 with
      | error error =>
        rw [later] at answered
        cases answered
      | ok others =>
        rw [later] at answered
        cases answered
        exact List.Forall₂.cons ⟨rfl, settles_of_contractsOf named settled⟩
          (inductionHypothesis later)

end Catalog

/-! ## Requests -/

theorem isBlank_iff {text : String} : Text.isBlank text = true ↔ ¬ SaysSomething text := by
  rw [saysSomething_iff, Bool.not_eq_false]

namespace Catalog

theorem accounts_of_known {catalog : Catalog} {request : AccountsQuery} {filter : List Asset}
    (named : request.assets.mapM catalog.asset = .ok filter) :
    catalog.accounts request = catalog.accountsOf filter request.addresses := by
  unfold accounts
  rw [named]

theorem accounts_of_unknown {catalog : Catalog} {request : AccountsQuery} {error : QueryError}
    (failed : request.assets.mapM catalog.asset = .error error) :
    (catalog.accounts request).1 = .error error := by
  unfold accounts
  rw [failed]

end Catalog

/-- The answer of an accepted catalog to a request for accounts.  The first asset that it
does not have decides, whatever the addresses are; then the first blank address does; and
otherwise there is an account for every address in the order of the request.  Looking for
the asset of a deposit never fails, and an answer is never partial. -/
theorem accounts_exact {provider : Provider} {positions : Positions} {catalog : Catalog}
    (made : Catalog.make provider positions = .ok catalog) (request : AccountsQuery) :
    (∀ before symbol after, request.assets = before ++ symbol :: after →
      (∀ earlier ∈ before, HasAsset provider earlier) → ¬ HasAsset provider symbol →
        (catalog.accounts request).1 = .error (.invalidAsset provider.id symbol)) ∧
    ((∀ symbol ∈ request.assets, HasAsset provider symbol) →
      ∀ before address after, request.addresses = before ++ address :: after →
        (∀ earlier ∈ before, SaysSomething earlier) → ¬ SaysSomething address →
          (catalog.accounts request).1 = .error (.invalidAddress provider.id address)) ∧
    ((∀ symbol ∈ request.assets, HasAsset provider symbol) →
      (∀ address ∈ request.addresses, SaysSomething address) →
        ∃ accounts, (catalog.accounts request).1 = .ok accounts) ∧
    (∀ accounts, (catalog.accounts request).1 = .ok accounts →
      List.Forall₂ (AnswersFor provider positions request) request.addresses accounts) ∧
    (∀ filter address, ∃ contracts, catalog.contracts filter address = .ok contracts) := by
  rcases catalog_of_make made with ⟨rfl, rfl⟩
  refine ⟨?_, ?_, ?_, ?_, catalog.contracts_isOk⟩
  · intro before symbol after split known unknown
    apply Catalog.accounts_of_unknown
    rw [split]
    exact Traversal.mapM_of_first_error
      (fun earlier member => Catalog.asset_of_hasAsset (known earlier member))
      (Catalog.asset_of_not_hasAsset unknown) after
  · intro known before address after split sound blank
    rcases Traversal.mapM_isOk fun symbol member =>
      Catalog.asset_of_hasAsset (known symbol member) with ⟨filter, named⟩
    rw [Catalog.accounts_of_known named, split]
    exact Catalog.accountsOf_of_blank
      (fun other member => saysSomething_iff.mp (sound other member)) (isBlank_iff.mpr blank)
  · intro known sound
    rcases Traversal.mapM_isOk fun symbol member =>
      Catalog.asset_of_hasAsset (known symbol member) with ⟨filter, named⟩
    rw [Catalog.accounts_of_known named]
    exact Catalog.accountsOf_isOk filter fun address member =>
      saysSomething_iff.mp (sound address member)
  · intro accounts answered
    cases named : request.assets.mapM catalog.asset with
    | error error =>
      rw [Catalog.accounts_of_unknown named] at answered
      cases answered
    | ok filter =>
      rw [Catalog.accounts_of_known named] at answered
      exact Catalog.answersFor_of_accountsOf named answered

/-- A provider whose catalog has a symbol twice, the second time in small letters. -/
def repetitive : Provider :=
  let asset (symbol description : String) : Asset :=
    ⟨symbol, description, 0.05, 0, 1, "7", "0", ⟨none⟩⟩
  ⟨"pool", ⟨"pool", "", "", ""⟩, .lending, [asset "ETH" "one", asset "eth" "two", asset "é" ""]⟩

def repetitiveDeposits : Positions :=
  ⟨[("0x1", [⟨"eth", "1"⟩, ⟨"é", "2"⟩])], by decide⟩

/-- An unknown asset decides before a blank address, a letter beyond ASCII has no case, and an
address that is asked for twice gets two accounts. -/
theorem accounts_exact_repetitive : ∃ catalog,
    Catalog.make repetitive repetitiveDeposits = .ok catalog ∧
    (catalog.accounts ⟨["", "0x1"], ["Eth", "É", "é"]⟩).1 = .error (.invalidAsset "pool" "É") ∧
    (catalog.accounts ⟨["0x1", "\u00a0", ""], []⟩).1 = .error (.invalidAddress "pool" "\u00a0") ∧
    ∃ accounts, (catalog.accounts ⟨["0x1", "0x1"], ["Eth"]⟩).1 = .ok accounts ∧
      List.Forall₂ (AnswersFor repetitive repetitiveDeposits ⟨["0x1", "0x1"], ["Eth"]⟩)
        ["0x1", "0x1"] accounts := by
  have covered : firstUnknown? repetitive repetitiveDeposits.entries = none := by decide
  have made : Catalog.make repetitive repetitiveDeposits =
      .ok ⟨repetitive, repetitiveDeposits, by decide, covers_of_firstUnknown? covered⟩ := rfl
  refine ⟨_, made, ?_, ?_, ?_⟩
  · exact (accounts_exact made ⟨["", "0x1"], ["Eth", "É", "é"]⟩).1 ["Eth"] "É" ["é"] rfl
      (by unfold HasAsset; decide) (by unfold HasAsset; decide)
  · exact (accounts_exact made ⟨["0x1", "\u00a0", ""], []⟩).2.1
      (fun _ impossible => absurd impossible List.not_mem_nil) ["0x1"] "\u00a0" [""] rfl
      (by simp only [saysSomething_iff]; decide) (by rw [saysSomething_iff]; decide)
  · have answered := (accounts_exact made ⟨["0x1", "0x1"], ["Eth"]⟩).2.2
    rcases answered.1 (by unfold HasAsset; decide) (by simp only [saysSomething_iff]; decide) with
      ⟨accounts, done⟩
    exact ⟨accounts, done, answered.2.1 accounts done⟩

end Backend
end LendingGateway
