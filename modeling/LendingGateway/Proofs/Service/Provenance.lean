import LendingGateway.Proofs.Backend.Relay
import LendingGateway.Proofs.Registry.Assembly
import LendingGateway.Service.Basic

namespace LendingGateway

open Lending Backend Registry

/-!
# Whom an error names

An identifier travels from the provider file into a backend and from there into every error
of that backend, and it is also the key under which the backend is registered.  So an error
always names the provider that was asked.  What kind of error it can be depends only on
whether there is such a provider, and on whether it is described by the file or remote.
-/

namespace Backend

/-! ## Errors of a catalog -/

namespace Catalog

theorem error_of_asset {catalog : Catalog} {symbol : String} {error : QueryError}
    (failed : catalog.asset symbol = .error error) :
    error = .invalidAsset catalog.provider.id symbol := by
  unfold Catalog.asset at failed
  split at failed
  · cases failed
  · exact (Except.error.inj failed).symm

theorem error_of_rates {catalog : Catalog} {symbols : List String} {error : QueryError}
    (failed : catalog.rates symbols = .error error) :
    ∃ symbol, error = .invalidAsset catalog.provider.id symbol := by
  unfold rates at failed
  split at failed
  · cases failed
  · rcases Traversal.first_error_of_mapM failed with ⟨_, symbol, _, _, _, stopped⟩
    cases resolved : catalog.asset symbol with
    | ok asset =>
      rw [resolved] at stopped
      cases stopped
    | error cause =>
      rw [resolved] at stopped
      cases stopped
      exact ⟨symbol, error_of_asset resolved⟩

theorem error_of_contractsOf {catalog : Catalog} {filter : List Asset} {held : List Position}
    {error : QueryError} (failed : catalog.contractsOf filter held = .error error) :
    ∃ symbol, error = .invalidAsset catalog.provider.id symbol := by
  induction held with
  | nil => cases failed
  | cons position held inductionHypothesis =>
    rw [contractsOf] at failed
    cases resolved : catalog.asset position.symbol with
    | error cause =>
      rw [resolved] at failed
      cases failed
      exact ⟨position.symbol, error_of_asset resolved⟩
    | ok asset =>
      cases later : catalog.contractsOf filter held with
      | error cause =>
        rw [resolved, later] at failed
        cases failed
        exact inductionHypothesis later
      | ok contracts =>
        rw [resolved, later] at failed
        cases failed

theorem error_of_accountsOf {catalog : Catalog} {filter : List Asset} {addresses : List String}
    {error : QueryError} (failed : (catalog.accountsOf filter addresses).1 = .error error) :
    (∃ symbol, error = .invalidAsset catalog.provider.id symbol) ∨
      ∃ address, error = .invalidAddress catalog.provider.id address := by
  induction addresses with
  | nil => cases failed
  | cons address addresses inductionHypothesis =>
    rw [accountsOf] at failed
    split at failed
    · cases failed
      exact Or.inr ⟨address, rfl⟩
    · split at failed
      · rename_i cause settled
        cases failed
        exact Or.inl (error_of_contractsOf settled)
      · rename_i contracts settled
        cases later : (catalog.accountsOf filter addresses).1 with
        | error cause =>
          change Except.map _ (catalog.accountsOf filter addresses).1 = _ at failed
          rw [later] at failed
          cases failed
          exact inductionHypothesis later
        | ok accounts =>
          change Except.map _ (catalog.accountsOf filter addresses).1 = _ at failed
          rw [later] at failed
          cases failed

theorem error_of_accounts {catalog : Catalog} {request : AccountsQuery} {error : QueryError}
    (failed : (catalog.accounts request).1 = .error error) :
    (∃ symbol, error = .invalidAsset catalog.provider.id symbol) ∨
      ∃ address, error = .invalidAddress catalog.provider.id address := by
  unfold accounts at failed
  split at failed
  · rename_i cause stopped
    cases failed
    rcases Traversal.first_error_of_mapM stopped with ⟨_, symbol, _, _, _, unresolved⟩
    exact Or.inl ⟨symbol, error_of_asset unresolved⟩
  · exact error_of_accountsOf failed

end Catalog

/-! ## Errors of a remote provider -/

namespace Remote

variable {α : Type} {remote : Remote} {rejected : String → QueryError}
  {decode : List UInt8 → Option α} {error : QueryError}

theorem error_of_judge {received : Web.Received}
    (failed : (remote.judge rejected decode received).1 = .error error) :
    (∃ words, error = rejected words) ∨ ∃ reason, error = .unavailable remote.id reason := by
  unfold judge at failed
  dsimp only at failed
  split at failed
  · split at failed
    · cases failed
      exact Or.inl ⟨_, rfl⟩
    · cases failed
      exact Or.inr ⟨_, rfl⟩
  · split at failed
    · split at failed
      · cases failed
      · cases failed
        exact Or.inr ⟨_, rfl⟩
    · cases failed
      exact Or.inr ⟨_, rfl⟩

/-- Whatever the network does, an error is the far gateway's rejection or says that the
provider is unavailable, under the provider's own identifier. -/
theorem error_of_fetch {transport : Web.Transport} {name : String}
    {request : Web.Url → Web.Outgoing}
    (failed : (remote.fetch transport name request rejected decode).Gives (.error error)) :
    (∃ words, error = rejected words) ∨ ∃ reason, error = .unavailable remote.id reason := by
  rcases failed with ⟨ticks, events, replied⟩
  unfold fetch at replied
  split at replied
  · cases replied
    exact Or.inr ⟨_, rfl⟩
  · rename_i url read
    split at replied
    · cases exchanged : transport (request url) with
      | answered late received =>
        rw [exchanged] at replied
        dsimp only at replied
        split at replied
        · rename_i inTime
          have judged : (remote.judge rejected decode received).1 = .error error := by
            injection replied
          exact error_of_judge judged
        · cases replied
          exact Or.inr ⟨_, rfl⟩
      | broken late =>
        rw [exchanged] at replied
        cases replied
        exact Or.inr ⟨_, rfl⟩
      | silent =>
        rw [exchanged] at replied
        cases replied
        exact Or.inr ⟨_, rfl⟩
    · cases replied
      exact Or.inr ⟨_, rfl⟩

/-- Where every request is rejected, a query for rates is rejected in the same words. -/
theorem rates_rejected {target : Web.Url}
    (read : Web.Url.read? (remote.baseUrl ++ ("/" ++ "rates")) = some target)
    (sendable : isTarget target = true) {transport : Web.Transport} {ticks : Nat}
    {words : String}
    (rejects : ∀ request, transport request = .answered ticks ⟨400, Text.octets words, true⟩)
    (inTime : ticks ≤ remote.timeout) (symbols : List String) :
    ((remote.toBackend transport).rates symbols).Gives
      (.error (.invalidAsset remote.id words)) := by
  rw [rates_toBackend, fetch_in_time read sendable (rejects _) inTime, judge_rejection]
  exact Reply.gives_after_iff.mpr rfl

end Remote
end Backend

namespace Registry

/-! ## Errors of an entry -/

/-- The errors that a query for rates can meet at the backend of an entry. -/
def Entry.RatesError : Entry → QueryError → Prop
  | .catalog provider _, error => ∃ symbol, error = .invalidAsset provider.id symbol
  | .remote id _ _, error =>
    (∃ words, error = .invalidAsset id words) ∨ ∃ reason, error = .unavailable id reason

/-- The errors that a query for accounts can meet at the backend of an entry. -/
def Entry.AccountsError : Entry → QueryError → Prop
  | .catalog provider _, error =>
    (∃ symbol, error = .invalidAsset provider.id symbol) ∨
      ∃ address, error = .invalidAddress provider.id address
  | .remote id _ _, error =>
    (∃ words, error = .invalidAddress id words) ∨ ∃ reason, error = .unavailable id reason

variable {transport : Web.Transport} {configuration : Configuration} {registry : Registry}
  {entry : Entry} {backend : Backend} {error : QueryError}

theorem kinds_of_ratesError (met : entry.RatesError error) :
    (∃ detail, error = .invalidAsset entry.id detail) ∨
      ∃ reason, error = .unavailable entry.id reason := by
  cases entry with
  | catalog provider positions => exact Or.inl met
  | remote id baseUrl timeout => exact met

theorem provider_of_ratesError (met : entry.RatesError error) :
    error.provider = entry.id ∧ error ≠ .unknownProvider entry.id := by
  rcases kinds_of_ratesError met with ⟨detail, rfl⟩ | ⟨reason, rfl⟩
  · exact ⟨rfl, QueryError.noConfusion⟩
  · exact ⟨rfl, QueryError.noConfusion⟩

theorem provider_of_accountsError (met : entry.AccountsError error) :
    error.provider = entry.id ∧ error ≠ .unknownProvider entry.id := by
  cases entry with
  | catalog provider positions =>
    rcases met with ⟨symbol, rfl⟩ | ⟨address, rfl⟩
    · exact ⟨rfl, QueryError.noConfusion⟩
    · exact ⟨rfl, QueryError.noConfusion⟩
  | remote id baseUrl timeout =>
    rcases met with ⟨words, rfl⟩ | ⟨reason, rfl⟩
    · exact ⟨rfl, QueryError.noConfusion⟩
    · exact ⟨rfl, QueryError.noConfusion⟩

theorem ratesError_of_describes (described : entry.Describes transport backend)
    {symbols : List String} (failed : (backend.rates symbols).Gives (.error error)) :
    entry.RatesError error := by
  cases entry with
  | catalog provider positions =>
    rcases described with ⟨catalog, rfl, _, rfl⟩
    exact Catalog.error_of_rates (Reply.gives_after_iff.mp failed).symm
  | remote id baseUrl timeout =>
    rw [described, Remote.toBackend] at failed
    dsimp only at failed
    unfold Entry.RatesError
    exact Remote.error_of_fetch failed

theorem accountsError_of_describes (described : entry.Describes transport backend)
    {request : AccountsQuery} (failed : (backend.accounts request).Gives (.error error)) :
    entry.AccountsError error := by
  cases entry with
  | catalog provider positions =>
    rcases described with ⟨catalog, rfl, _, rfl⟩
    exact Catalog.error_of_accounts (Reply.gives_after_iff.mp failed).symm
  | remote id baseUrl timeout =>
    rw [described, Remote.toBackend] at failed
    dsimp only at failed
    unfold Entry.AccountsError
    exact Remote.error_of_fetch failed

/-- A catalog is there whenever it is asked. -/
theorem ne_unavailable_of_catalog {provider : Provider} {positions : Positions}
    (met : (Entry.catalog provider positions).RatesError error ∨
      (Entry.catalog provider positions).AccountsError error) (name reason : String) :
    error ≠ .unavailable name reason := by
  rcases met with ⟨symbol, rfl⟩ | ⟨symbol, rfl⟩ | ⟨address, rfl⟩ <;> exact QueryError.noConfusion

theorem ne_invalidAsset_of_remote {id baseUrl : String} {timeout : Option UInt64}
    (met : (Entry.remote id baseUrl timeout).AccountsError error) (name detail : String) :
    error ≠ .invalidAsset name detail := by
  rcases met with ⟨words, rfl⟩ | ⟨reason, rfl⟩ <;> exact QueryError.noConfusion

/-! ## Entries and registered backends -/

theorem get?_of_entry (assembled : ofConfiguration transport configuration = .ok registry)
    (member : entry ∈ configuration.providers) :
    ∃ backend, registry.get? entry.id = some backend ∧ entry.Describes transport backend := by
  rcases sound_of_ofConfiguration assembled with ⟨_, described⟩
  rcases Traversal.exists_of_mem described member with ⟨backend, held, fits⟩
  exact ⟨backend, get?_eq_some_iff.mpr ⟨held, id_of_describes fits⟩, fits⟩

theorem entry_of_get? {id : String}
    (assembled : ofConfiguration transport configuration = .ok registry)
    (found : registry.get? id = some backend) :
    ∃ entry ∈ configuration.providers, entry.id = id ∧ entry.Describes transport backend := by
  rcases sound_of_ofConfiguration assembled with ⟨_, described⟩
  rcases Traversal.exists_of_mem described.flip (mem_of_get? found) with ⟨entry, listed, fits⟩
  exact ⟨entry, listed, (id_of_describes fits).symm.trans (get?_id found), fits⟩

/-- The provider file itself describes a provider. -/
def Configuration.HasCatalog (configuration : Configuration) (id : String) : Prop :=
  ∃ provider positions, Entry.catalog provider positions ∈ configuration.providers ∧
    provider.id = id

/-- A provider is served by another gateway. -/
def Configuration.HasRemote (configuration : Configuration) (id : String) : Prop :=
  ∃ baseUrl timeout, Entry.remote id baseUrl timeout ∈ configuration.providers

end Registry

namespace Service

/-! ## Errors of the service -/

theorem ask_of_unregistered {α : Type} {service : Service} {id : String}
    (unregistered : service.registry.get? id = none) (query : Query α) {error : QueryError} :
    (service.ask id query).reply.Gives (.error error) ↔ error = .unknownProvider id := by
  unfold ask
  rw [unregistered]
  exact Reply.gives_after_iff.trans (iff_of_eq (Except.error.injEq _ _))

theorem ask_of_registered {α : Type} {service : Service} {id : String} {backend : Backend}
    (registered : service.registry.get? id = some backend) (query : Query α) :
    (service.ask id query).reply = backend.answer query := by
  unfold ask
  rw [registered]
  rfl

/-- An error of a query to a registered backend is one of its entry in the provider file. -/
theorem errors_of_registered {transport : Web.Transport} {configuration : Configuration}
    {service : Service} (assembled : ofConfiguration transport configuration = .ok service.registry)
    {entry : Entry} (member : entry ∈ configuration.providers) {error : QueryError} :
    (∀ request, (service.rates entry.id request).reply.Gives (.error error) →
      entry.RatesError error) ∧
    (∀ request, (service.accounts entry.id request).reply.Gives (.error error) →
      entry.AccountsError error) := by
  rcases get?_of_entry assembled member with ⟨backend, registered, described⟩
  constructor
  · intro request failed
    rw [rates, ask_of_registered registered] at failed
    exact ratesError_of_describes described failed
  · intro request failed
    rw [accounts, ask_of_registered registered] at failed
    exact accountsError_of_describes described failed

/-- In a registry assembled from a provider file, over any network, an error of a query names
the provider that was asked.  It is that of an unknown provider exactly if there is no such
provider.  A registered provider refuses an asset or is unavailable when asked for rates;
one that the file describes is never unavailable, and a remote one never refuses an asset
when asked for accounts. -/
theorem errors_name_the_provider {transport : Web.Transport} {configuration : Configuration}
    {registry : Registry} (assembled : ofConfiguration transport configuration = .ok registry)
    (deadline : Timeout) (id : String) :
    let service : Service := ⟨registry, deadline⟩
    (∀ request error, (service.rates id request).reply.Gives (.error error) →
      error.provider = id ∧
      (error = .unknownProvider id ↔ registry.contains id = false) ∧
      (registry.contains id = true →
        (∃ detail, error = .invalidAsset id detail) ∨ ∃ reason, error = .unavailable id reason) ∧
      (configuration.HasCatalog id → ∀ name reason, error ≠ .unavailable name reason)) ∧
    (∀ request error, (service.accounts id request).reply.Gives (.error error) →
      error.provider = id ∧
      (error = .unknownProvider id ↔ registry.contains id = false) ∧
      (configuration.HasCatalog id → ∀ name reason, error ≠ .unavailable name reason) ∧
      (configuration.HasRemote id → ∀ name detail, error ≠ .invalidAsset name detail)) ∧
    (registry.contains id = false →
      (∀ request, (service.rates id request).reply.Gives (.error (.unknownProvider id))) ∧
      ∀ request, (service.accounts id request).reply.Gives (.error (.unknownProvider id))) := by
  intro service
  cases registered : registry.get? id with
  | none =>
    have absent : registry.contains id = false := by
      rw [Registry.contains, registered]
      rfl
    refine ⟨?_, ?_, fun _ => ⟨fun request => ?_, fun request => ?_⟩⟩
    · intro request error failed
      cases (ask_of_unregistered registered (.rates _)).mp failed
      exact ⟨rfl, iff_of_true rfl absent,
        fun present => absurd (absent.symm.trans present) Bool.false_ne_true,
        fun _ _ _ => QueryError.noConfusion⟩
    · intro request error failed
      cases (ask_of_unregistered registered (.accounts _)).mp failed
      exact ⟨rfl, iff_of_true rfl absent, fun _ _ _ => QueryError.noConfusion,
        fun _ _ _ => QueryError.noConfusion⟩
    · exact (ask_of_unregistered registered (.rates _)).mpr rfl
    · exact (ask_of_unregistered registered (.accounts _)).mpr rfl
  | some backend =>
    have present : ¬ registry.contains id = false := by
      rw [Registry.contains, registered]
      exact Bool.noConfusion
    rcases entry_of_get? assembled registered with ⟨entry, member, rfl, _⟩
    refine ⟨?_, ?_, fun absent => absurd absent present⟩
    · intro request error failed
      have met := (errors_of_registered assembled member).1 request failed
      refine ⟨(provider_of_ratesError met).1,
        iff_of_false (provider_of_ratesError met).2 present, fun _ => kinds_of_ratesError met, ?_⟩
      rintro ⟨provider, positions, described, same⟩
      rw [← same] at failed
      exact ne_unavailable_of_catalog
        (Or.inl ((errors_of_registered assembled described).1 request failed))
    · intro request error failed
      have met := (errors_of_registered assembled member).2 request failed
      refine ⟨(provider_of_accountsError met).1,
        iff_of_false (provider_of_accountsError met).2 present, ?_, ?_⟩
      · rintro ⟨provider, positions, described, same⟩
        rw [← same] at failed
        exact ne_unavailable_of_catalog
          (Or.inr ((errors_of_registered assembled described).2 request failed))
      · rintro ⟨baseUrl, timeout, described⟩
        exact ne_invalidAsset_of_remote
          ((errors_of_registered assembled described).2 request failed)

/-- Behind a network that rejects everything, a remote provider refuses an asset in its own
name when asked for rates, whoever the rejection speaks of, and never does when asked for
accounts; its identifier in capitals is that of no provider. -/
theorem errors_name_the_provider_rejected :
    let transport : Web.Transport := fun _ => .answered 3 ⟨400, Text.octets "pool: no", true⟩
    let configuration : Configuration := ⟨[poolEntry, .remote "far" "http://far/" none]⟩
    ∃ registry, ofConfiguration transport configuration = .ok registry ∧
      configuration.HasCatalog "pool" ∧ configuration.HasRemote "far" ∧
      let service : Service := ⟨registry, .ofMillis 40⟩
      (∀ request, (service.rates "far" request).reply.Gives
        (.error (.invalidAsset "far" "pool: no"))) ∧
      (∀ request error, (service.rates "far" request).reply.Gives (.error error) →
        error.provider = "far") ∧
      (∀ request error, (service.accounts "far" request).reply.Gives (.error error) →
        ∀ name detail, error ≠ .invalidAsset name detail) ∧
      (∀ request error, (service.accounts "pool" request).reply.Gives (.error error) →
        ∀ name reason, error ≠ .unavailable name reason) ∧
      ∀ request, (service.rates "FAR" request).reply.Gives (.error (.unknownProvider "FAR")) := by
  intro transport configuration
  have catalog : configuration.HasCatalog "pool" := ⟨_, _, List.mem_cons_self, rfl⟩
  have member : Entry.remote "far" "http://far/" none ∈ configuration.providers :=
    List.mem_cons_of_mem _ List.mem_cons_self
  have remote : configuration.HasRemote "far" := ⟨_, _, member⟩
  have built : (ofConfiguration transport configuration).isOk = true := by decide +kernel
  cases assembled : ofConfiguration transport configuration with
  | error reason =>
    rw [assembled] at built
    cases built
  | ok registry =>
    have absent : registry.contains "FAR" = false := by
      have described := (sound_of_ofConfiguration assembled).2
      apply Bool.eq_false_iff.mpr
      intro present
      rw [contains_iff_mem_ids, ids_of_describes described] at present
      exact absurd present (by decide)
    have named := errors_name_the_provider assembled (.ofMillis 40)
    rcases get?_of_entry assembled member with ⟨backend, registered, rfl⟩
    refine ⟨registry, rfl, catalog, remote, ?_, ?_, ?_, ?_, ?_⟩
    · intro request
      let far : Remote := ⟨"far", Text.trimEnd '/' "http://far/", defaultTimeout⟩
      let target : Web.Url := ⟨.http, "", none, .name "far", none, ["rates"], none, none⟩
      have read : Web.Url.read? (far.baseUrl ++ ("/" ++ "rates")) = some target := by
        decide +kernel
      have sendable : Remote.isTarget target = true := by decide +kernel
      have rejected : ((far.toBackend transport).rates request.assets).Gives
          (.error (.invalidAsset "far" "pool: no")) :=
        Remote.rates_rejected read sendable (fun _ => rfl) (by decide) request.assets
      rw [rates, ask_of_registered registered]
      exact rejected
    · exact fun request error failed => ((named "far").1 request error failed).1
    · exact fun request error failed => ((named "far").2.1 request error failed).2.2.2 remote
    · exact fun request error failed => ((named "pool").2.1 request error failed).2.2.1 catalog
    · exact ((named "FAR").2.2 absent).1

end Service
end LendingGateway
