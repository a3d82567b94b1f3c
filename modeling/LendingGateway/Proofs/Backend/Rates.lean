import LendingGateway.Proofs.Backend.Deposits
import LendingGateway.Proofs.Text.AsciiCase

namespace LendingGateway
namespace Backend

open Lending Registry

/-!
# What a catalog says about rates

Every symbol of a request stands for the first asset that has it, up to ASCII case, and so
for the rate of this asset.  The rates come in the order of the symbols, and the first symbol
that the catalog does not have fails the request.  A request without symbols is for the whole
catalog as it is listed, and looks nothing up.
-/

/-- A rate is that of the asset which a symbol stands for. -/
def Quotes (provider : Provider) (symbol : String) (rate : Rate) : Prop :=
  ∃ asset, FirstMatch provider symbol asset ∧ rate = asset.rate

/-- Two lists of symbols agree symbol by symbol up to ASCII case. -/
def SameSymbols : List String → List String → Prop :=
  List.Forall₂ fun symbol other => Text.sameFold symbol other = true

/-! ## One symbol -/

theorem quotes_congr {provider : Provider} {symbol other : String}
    (same : Text.sameFold symbol other = true) (rate : Rate) :
    Quotes provider symbol rate ↔ Quotes provider other rate := by
  simp only [Quotes, ← asset?_eq_some_iff, asset?_congr provider same]

namespace Catalog

/-- The rate of the asset of a symbol. -/
def quote (catalog : Catalog) (symbol : String) : Except QueryError Rate :=
  (catalog.asset symbol).map Asset.rate

variable {catalog : Catalog} {symbol : String}

theorem quote_eq_ok_iff {rate : Rate} :
    catalog.quote symbol = .ok rate ↔ Quotes catalog.provider symbol rate := by
  simp only [Quotes, ← asset?_eq_some_iff, ← asset_eq_ok_iff, quote]
  cases catalog.asset symbol with
  | error error =>
    refine iff_of_false (fun impossible => (nomatch impossible)) ?_
    rintro ⟨asset, impossible, _⟩
    cases impossible
  | ok asset =>
    constructor
    · rintro ⟨⟩
      exact ⟨asset, rfl, rfl⟩
    · rintro ⟨_, ⟨⟩, rfl⟩
      rfl

theorem quote_isOk_iff :
    (∃ rate, catalog.quote symbol = .ok rate) ↔ HasAsset catalog.provider symbol := by
  rw [hasAsset_iff, Option.isSome_iff_exists]
  simp only [quote_eq_ok_iff, Quotes, ← asset?_eq_some_iff]
  constructor
  · rintro ⟨_, asset, found, _⟩
    exact ⟨asset, found⟩
  · rintro ⟨asset, found⟩
    exact ⟨asset.rate, asset, found, rfl⟩

theorem quote_eq_error_iff {error : QueryError} :
    catalog.quote symbol = .error error ↔
      ¬ HasAsset catalog.provider symbol ∧ error = .invalidAsset catalog.provider.id symbol := by
  by_cases known : HasAsset catalog.provider symbol
  · rcases quote_isOk_iff.mpr known with ⟨rate, quoted⟩
    rw [quoted]
    exact iff_of_false (fun impossible => (nomatch impossible)) fun other => other.1 known
  · rw [quote, asset_of_not_hasAsset known]
    constructor
    · rintro ⟨⟩
      exact ⟨known, rfl⟩
    · rintro ⟨_, rfl⟩
      rfl

/-! ## A list of symbols -/

theorem rates_of_none_named (catalog : Catalog) :
    catalog.rates [] = .ok (catalog.provider.assets.map Asset.rate) :=
  rfl

theorem rates_of_named {symbols : List String} (named : symbols ≠ []) :
    catalog.rates symbols = symbols.mapM catalog.quote :=
  if_neg fun none => named (List.isEmpty_iff.mp none)

theorem rates_eq_ok_iff {symbols : List String} (named : symbols ≠ []) {rates : List Rate} :
    catalog.rates symbols = .ok rates ↔
      List.Forall₂ (Quotes catalog.provider) symbols rates := by
  rw [rates_of_named named, Traversal.mapM_eq_ok_iff]
  simp only [quote_eq_ok_iff]

theorem rates_isOk_iff {symbols : List String} (named : symbols ≠ []) :
    (∃ rates, catalog.rates symbols = .ok rates) ↔
      ∀ symbol ∈ symbols, HasAsset catalog.provider symbol := by
  rw [rates_of_named named, Traversal.mapM_isOk_iff]
  simp only [quote_isOk_iff]

theorem rates_eq_error_iff {symbols : List String} {error : QueryError} :
    catalog.rates symbols = .error error ↔
      ∃ before symbol after, symbols = before ++ symbol :: after ∧
        (∀ earlier ∈ before, HasAsset catalog.provider earlier) ∧
          ¬ HasAsset catalog.provider symbol ∧
            error = .invalidAsset catalog.provider.id symbol := by
  by_cases named : symbols = []
  · subst named
    refine iff_of_false (fun impossible => (nomatch impossible)) ?_
    rintro ⟨before, symbol, after, split, _⟩
    exact List.append_ne_nil_of_right_ne_nil before (List.cons_ne_nil symbol after) split.symm
  · rw [rates_of_named named, Traversal.mapM_eq_error_iff]
    simp only [quote_isOk_iff, quote_eq_error_iff]

theorem rates_congr {symbols others : List String} (same : SameSymbols symbols others)
    (rates : List Rate) : catalog.rates symbols = .ok rates ↔ catalog.rates others = .ok rates := by
  have quoted : ∀ rates, List.Forall₂ (Quotes catalog.provider) symbols rates ↔
      List.Forall₂ (Quotes catalog.provider) others rates := by
    induction same with
    | nil => exact fun rates => Iff.rfl
    | cons first _ inductionHypothesis =>
      intro rates
      simp only [List.forall₂_cons_left_iff, quotes_congr first, inductionHypothesis]
  cases same with
  | nil => exact Iff.rfl
  | cons first later =>
    rw [rates_eq_ok_iff (List.cons_ne_nil _ _), rates_eq_ok_iff (List.cons_ne_nil _ _)]
    exact quoted rates

end Catalog

/-- The answer of a catalog to a request for rates.  Without symbols it is the rates of all
assets as they are listed.  With symbols it is the rate of the first asset that each of them
matches, if all of them match one, and otherwise the first that matches none is refused as it
was spelled.  So case makes no difference, where case is that of the letters A to Z. -/
theorem rates_exact (catalog : Catalog) (symbols : List String) :
    (symbols = [] → catalog.rates symbols = .ok (catalog.provider.assets.map Asset.rate)) ∧
    (symbols ≠ [] →
      ((∃ rates, catalog.rates symbols = .ok rates) ↔
        ∀ symbol ∈ symbols, HasAsset catalog.provider symbol) ∧
      ∀ rates, catalog.rates symbols = .ok rates ↔
        List.Forall₂ (Quotes catalog.provider) symbols rates) ∧
    (∀ error, catalog.rates symbols = .error error ↔
      ∃ before symbol after, symbols = before ++ symbol :: after ∧
        (∀ earlier ∈ before, HasAsset catalog.provider earlier) ∧
          ¬ HasAsset catalog.provider symbol ∧
            error = .invalidAsset catalog.provider.id symbol) ∧
    (∀ others, SameSymbols symbols others →
      ∀ rates, catalog.rates symbols = .ok rates ↔ catalog.rates others = .ok rates) ∧
    (∀ symbol other, Text.sameFold symbol other = true ↔
      List.Forall₂ Text.SameLetter symbol.toList other.toList) := by
  refine ⟨?_, ?_, ?_, ?_, ?_⟩
  · rintro rfl
    exact catalog.rates_of_none_named
  · intro named
    exact ⟨Catalog.rates_isOk_iff named, fun rates => Catalog.rates_eq_ok_iff named⟩
  · exact fun error => Catalog.rates_eq_error_iff
  · exact fun others same rates => Catalog.rates_congr same rates
  · exact fun symbol other => Text.sameFold_iff_sameLetters

/-- The provider whose catalog has a symbol twice, as a catalog. -/
def repetitiveCatalog : Catalog :=
  ⟨repetitive, repetitiveDeposits, by decide, covers_of_firstUnknown? (by decide)⟩

/-- Of two assets that differ in case the first one counts, however it is spelled and however
often it is asked for; a letter beyond ASCII has no case. -/
theorem rates_exact_repetitive :
    Catalog.make repetitive repetitiveDeposits = .ok repetitiveCatalog ∧
    (∃ rates, repetitiveCatalog.rates ["eth", "é", "Eth"] = .ok rates ∧
      repetitiveCatalog.rates ["ETH", "é", "eth"] = .ok rates ∧
      rates.map Rate.symbol = ["ETH", "é", "ETH"]) ∧
    repetitiveCatalog.rates ["eth", "É", "XTZ"] = .error (.invalidAsset "pool" "É") := by
  refine ⟨rfl, ?_, ?_⟩
  · rcases rates_exact repetitiveCatalog ["eth", "é", "Eth"] with ⟨_, named, _, alike, _⟩
    have first : ∀ symbol asset, repetitive.asset? symbol = some asset →
        Quotes repetitiveCatalog.provider symbol asset.rate :=
      fun symbol asset found => ⟨asset, asset?_eq_some_iff.mp found, rfl⟩
    have quoted : List.Forall₂ (Quotes repetitiveCatalog.provider) ["eth", "é", "Eth"] _ :=
      .cons (first _ _ rfl) (.cons (first _ _ rfl) (.cons (first _ _ rfl) .nil))
    have answered := ((named (List.cons_ne_nil _ _)).2 _).mpr quoted
    refine ⟨_, answered, (alike ["ETH", "é", "eth"] ?_ _).mp answered, rfl⟩
    exact .cons (by decide) (.cons (by decide) (.cons (by decide) .nil))
  · apply ((rates_exact repetitiveCatalog ["eth", "É", "XTZ"]).2.2.1 _).mpr
    refine ⟨["eth"], "É", ["XTZ"], rfl, ?_, ?_, rfl⟩ <;> unfold HasAsset <;> decide

end Backend
end LendingGateway
