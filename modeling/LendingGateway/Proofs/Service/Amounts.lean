import LendingGateway.Proofs.Backend.Amounts
import LendingGateway.Proofs.Registry.Lookup
import LendingGateway.Proofs.Registry.Sorting
import LendingGateway.Proofs.Service.Hearing
import LendingGateway.Registry.Assembly

namespace LendingGateway

open Lending Backend Registry

/-!
# Amounts pass through the gateway

A gateway whose providers are all described by its file treats the amounts in it as opaque.
With every amount replaced by its image, the registry is assembled or refused as before, and
every listing and every query has its old outcome with the amounts in it replaced.
-/

/-! ## Assembling the registry -/

namespace Registry

def mapAmounts (image : String → String) (registry : Registry) : Registry where
  backends := registry.backends.map (Backend.mapAmounts image)
  distinct := by
    rw [List.map_map]
    exact registry.distinct

theorem get?_mapAmounts (image : String → String) (registry : Registry) (id : String) :
    (registry.mapAmounts image).get? id = (registry.get? id).map (Backend.mapAmounts image) :=
  List.find?_map

theorem ofBackends_mapAmounts (image : String → String) (backends : List Backend) :
    ofBackends (backends.map (Backend.mapAmounts image)) =
      (ofBackends backends).map (mapAmounts image) := by
  have ids : (backends.map (Backend.mapAmounts image)).map Backend.id =
      backends.map Backend.id := by
    rw [List.map_map]
    rfl
  cases outcome : ofBackends backends with
  | error error =>
    apply ofBackends_eq_error_iff.mpr
    rw [ids]
    exact ofBackends_eq_error_iff.mp outcome
  | ok registry =>
    apply ofBackends_eq_ok_iff.mpr
    rw [← ofBackends_eq_ok_iff.mp outcome]
    rfl

/-- A provider file that describes all its providers itself. -/
def Configuration.ofCatalogs (catalogs : List (Provider × Positions)) : Configuration :=
  ⟨catalogs.map fun catalog => .catalog catalog.1 catalog.2⟩

def mapCatalog (image : String → String) (catalog : Provider × Positions) :
    Provider × Positions :=
  (catalog.1.mapAmounts image, mapPositions image catalog.2)

theorem toBackend_mapCatalog (image : String → String) (transport : Web.Transport)
    (catalog : Provider × Positions) :
    Entry.toBackend transport
        (.catalog (catalog.1.mapAmounts image) (mapPositions image catalog.2)) =
      (Entry.toBackend transport (.catalog catalog.1 catalog.2)).map
        (Backend.mapAmounts image) := by
  simp only [Entry.toBackend, Catalog.make_mapAmounts]
  cases Catalog.make catalog.1 catalog.2 with
  | error reason => rfl
  | ok accepted => exact congrArg Except.ok (accepted.toBackend_mapAmounts image)

/-- Assembly succeeds with the amounts replaced exactly if it succeeds, and fails for the
same reason otherwise. -/
theorem ofConfiguration_mapAmounts (image : String → String) (transport : Web.Transport)
    (catalogs : List (Provider × Positions)) :
    ofConfiguration transport (.ofCatalogs (catalogs.map (mapCatalog image))) =
      (ofConfiguration transport (.ofCatalogs catalogs)).map (mapAmounts image) := by
  have built : ((catalogs.map (mapCatalog image)).map
        fun catalog => Entry.catalog catalog.1 catalog.2).mapM (Entry.toBackend transport) =
      ((catalogs.map fun catalog => Entry.catalog catalog.1 catalog.2).mapM
        (Entry.toBackend transport)).map (List.map (Backend.mapAmounts image)) := by
    rw [List.mapM_map, List.mapM_map, List.mapM_map]
    exact Traversal.mapM_map_image (toBackend_mapCatalog image transport) catalogs
  unfold ofConfiguration Configuration.ofCatalogs
  dsimp only
  rw [built]
  cases (catalogs.map fun catalog => Entry.catalog catalog.1 catalog.2).mapM
      (Entry.toBackend transport) with
  | error reason => rfl
  | ok backends => exact ofBackends_mapAmounts image backends

end Registry

/-! ## Using the service -/

namespace Service

def mapAmounts (image : String → String) (service : Service) : Service :=
  { service with registry := service.registry.mapAmounts image }

theorem overdue_map {service : Service} {reply : Reply Provider} (image : Provider → Provider)
    (overdue : service.Overdue reply) : service.Overdue (reply.map image) := by
  cases reply with
  | never => exact service.overdue_never
  | after ticks outcome events => exact service.overdue_after (overdue _ _ _ rfl)

theorem hear_mapAmounts (image : String → String) (service : Service) (backend : Backend) :
    (service.mapAmounts image).hear (backend.mapAmounts image) =
      { service.hear backend with
        outcome := (service.hear backend).outcome.map (Provider.mapAmounts image) } := by
  rcases service.hear_cases backend with
    ⟨ticks, outcome, events, answer, inTime, heard⟩ | ⟨overdue, heard⟩
  · have replied : (backend.mapAmounts image).info =
        .after ticks (outcome.map (Provider.mapAmounts image)) events :=
      congrArg (Reply.map (Provider.mapAmounts image)) answer
    rw [heard]
    exact hear_in_time replied inTime
  · have still : (service.mapAmounts image).Overdue (backend.mapAmounts image).info :=
      overdue_map (Provider.mapAmounts image) overdue
    rw [heard]
    exact hear_overdue still

theorem hearingEvents_mapAmounts (image : String → String) (id : String)
    (outcome : Except QueryError Provider) :
    hearingEvents id (outcome.map (Provider.mapAmounts image)) = hearingEvents id outcome := by
  cases outcome <;> rfl

theorem entries_mapAmounts (image : String → String) (service : Service) :
    (service.mapAmounts image).entries = service.entries.map (Provider.mapAmounts image) := by
  change (service.registry.backends.map _).filterMap _ = _
  rw [List.filterMap_map, entries, List.map_filterMap]
  congr 1
  funext backend
  change ((service.mapAmounts image).hear (backend.mapAmounts image)).outcome.toOption.map _ = _
  rw [hear_mapAmounts]
  cases (service.hear backend).outcome <;> rfl

/-- What is read off every backend without regard to the amounts is read off as before. -/
theorem map_backends_mapAmounts {β : Type} (image : String → String) (service : Service)
    {after before : Backend → β}
    (same : ∀ backend, after (backend.mapAmounts image) = before backend) :
    (service.mapAmounts image).registry.backends.map after =
      service.registry.backends.map before := by
  change (service.registry.backends.map _).map _ = _
  rw [List.map_map]
  exact List.map_congr_left fun backend _ => same backend

theorem flatMap_backends_mapAmounts {β : Type} (image : String → String) (service : Service)
    {after before : Backend → List β}
    (same : ∀ backend, after (backend.mapAmounts image) = before backend) :
    (service.mapAmounts image).registry.backends.flatMap after =
      service.registry.backends.flatMap before := by
  rw [List.flatMap_def, List.flatMap_def, map_backends_mapAmounts image service same]

/-- A listing is the old one with the amounts replaced; it takes as long, makes the same
calls and tells the same. -/
theorem list_mapAmounts (image : String → String) (service : Service) :
    (service.mapAmounts image).list =
      { service.list with
        providers := service.list.providers.map (Provider.mapAmounts image) } := by
  have providers : Registry.sortBy Provider.id (service.mapAmounts image).entries =
      (Registry.sortBy Provider.id service.entries).map (Provider.mapAmounts image) := by
    rw [entries_mapAmounts]
    exact Registry.sortBy_map (fun _ => rfl) service.entries
  have hearings := service.hear_mapAmounts image
  have ticks : (service.mapAmounts image).registry.backends.map
        (fun backend => ((service.mapAmounts image).hear backend).ticks) =
      service.registry.backends.map fun backend => (service.hear backend).ticks :=
    service.map_backends_mapAmounts image fun backend => by rw [hearings]
  have calls : (service.mapAmounts image).registry.backends.flatMap
        (fun backend => ((service.mapAmounts image).hear backend).calls) =
      service.registry.backends.flatMap fun backend => (service.hear backend).calls :=
    service.flatMap_backends_mapAmounts image fun backend => by rw [hearings]
  have heard : (service.mapAmounts image).registry.backends.flatMap
        (fun backend => ((service.mapAmounts image).hear backend).events) =
      service.registry.backends.flatMap fun backend => (service.hear backend).events :=
    service.flatMap_backends_mapAmounts image fun backend => by rw [hearings]
  have judged : (service.mapAmounts image).registry.backends.flatMap
        (fun backend =>
          hearingEvents backend.id ((service.mapAmounts image).hear backend).outcome) =
      service.registry.backends.flatMap fun backend =>
        hearingEvents backend.id (service.hear backend).outcome :=
    service.flatMap_backends_mapAmounts image fun backend => by
      rw [hearings]
      exact hearingEvents_mapAmounts image backend.id _
  have size : (service.mapAmounts image).registry.backends.length =
      service.registry.backends.length := List.length_map _
  unfold list
  simp only [providers, ticks, calls, heard, judged, size, List.length_map]

theorem rates_mapAmounts (image : String → String) (service : Service) (id : String)
    (request : RatesQuery) :
    (service.mapAmounts image).rates id request = service.rates id request := by
  change Service.ask ⟨service.registry.mapAmounts image, service.deadline⟩ id (.rates _) = _
  rw [rates, ask, ask, get?_mapAmounts]
  cases service.registry.get? id <;> rfl

theorem accounts_mapAmounts (image : String → String) (service : Service) (id : String)
    (request : AccountsQuery) :
    (service.mapAmounts image).accounts id request =
      { service.accounts id request with
        reply := (service.accounts id request).reply.map
          (List.map (Account.mapAmounts image)) } := by
  change Service.ask ⟨service.registry.mapAmounts image, service.deadline⟩ id (.accounts _) = _
  rw [accounts, ask, ask, get?_mapAmounts]
  cases service.registry.get? id <;> rfl

/-- Whatever the amounts of a provider file are replaced by, assembly has the same outcome,
the rates are the same, and listings and accounts differ in the amounts alone. -/
theorem amounts_are_opaque (image : String → String) (transport : Web.Transport)
    (catalogs : List (Provider × Positions)) :
    (∀ error, ofConfiguration transport (.ofCatalogs catalogs) = .error error →
      ofConfiguration transport (.ofCatalogs (catalogs.map (mapCatalog image))) =
        .error error) ∧
    (∀ registry, ofConfiguration transport (.ofCatalogs catalogs) = .ok registry →
      ∃ other,
        ofConfiguration transport (.ofCatalogs (catalogs.map (mapCatalog image))) = .ok other ∧
        ∀ deadline,
          let before : Service := ⟨registry, deadline⟩
          let after : Service := ⟨other, deadline⟩
          after.list =
            { before.list with
              providers := before.list.providers.map (Provider.mapAmounts image) } ∧
          (∀ id request, after.rates id request = before.rates id request) ∧
          (∀ id request, after.accounts id request =
            { before.accounts id request with
              reply := (before.accounts id request).reply.map
                (List.map (Account.mapAmounts image)) })) := by
  refine ⟨?_, ?_⟩
  · intro error failed
    rw [ofConfiguration_mapAmounts, failed]
    rfl
  · intro registry assembled
    refine ⟨registry.mapAmounts image, ?_, ?_⟩
    · rw [ofConfiguration_mapAmounts, assembled]
      rfl
    · intro deadline before after
      exact ⟨before.list_mapAmounts image, before.rates_mapAmounts image,
        before.accounts_mapAmounts image⟩

/-- A catalog of one asset with one deposit, and amounts that are no numbers. -/
def vagueCatalog (id : String) : Provider × Positions :=
  (⟨id, ⟨id, "", "", ""⟩, .lending, [⟨"ETH", "", 0.5, 0, 1, "plenty", "", ⟨none⟩⟩]⟩,
    ⟨[("0x1", [⟨"eth", "some"⟩])], by decide⟩)

/-- With a sign before every amount, the vague catalog is still accepted, and so is its
deposit; without a name it is refused with and without the sign. -/
theorem amounts_are_opaque_vague :
    let signed (amount : String) : String := "-" ++ amount
    let transport : Web.Transport := fun _ => .silent
    let file (id : String) := Configuration.ofCatalogs [vagueCatalog id]
    let signedFile (id : String) := Configuration.ofCatalogs [mapCatalog signed (vagueCatalog id)]
    (∃ registry, ofConfiguration transport (file "pool") = .ok registry) ∧
    (∃ other events, ofConfiguration transport (signedFile "pool") = .ok other ∧
      (Service.accounts ⟨other, .ofMillis 1⟩ "pool" ⟨["0x1"], ["Eth"]⟩).reply.map
          (List.map fun account => account.contracts.map fun contract =>
            (contract.currentAmount, contract.asset.totalSupply, contract.asset.minimumAmount)) =
        .after 0 (.ok [[("-some", "-plenty", "-")]]) events) ∧
    ofConfiguration transport (file " ") = .error (.invalidEntry .blankCatalogId) ∧
    ofConfiguration transport (signedFile " ") = .error (.invalidEntry .blankCatalogId) := by
  intro signed transport file signedFile
  rcases amounts_are_opaque signed transport [vagueCatalog "pool"] with ⟨_, accepted⟩
  rcases amounts_are_opaque signed transport [vagueCatalog " "] with ⟨refused, _⟩
  rcases accepted _ rfl with ⟨other, assembled, answers⟩
  refine ⟨⟨_, rfl⟩, ⟨other, ?events, assembled, ?answer⟩, rfl, refused _ rfl⟩
  case answer =>
    rw [(answers (.ofMillis 1)).2.2]
    rfl

end Service
end LendingGateway
