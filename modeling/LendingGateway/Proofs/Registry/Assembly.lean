import LendingGateway.Proofs.Registry.Lookup
import LendingGateway.Proofs.Traversal
import LendingGateway.Registry.Assembly
import LendingGateway.Registry.Source

namespace LendingGateway
namespace Registry

open Lending Backend

/-!
# Assembly is all or nothing

Every entry of the provider file is checked by itself and in the order of the file, and
only then are the identifiers compared.  So a registry stands for the whole file or there
is none, and an entry that is at fault is named even if a repeated identifier comes first.
-/

/-! ## Sound and faulty entries -/

/-- A text has a character that is no white space. -/
def SaysSomething (text : String) : Prop :=
  ∃ c ∈ text.toList, Text.isSpace c = false

/-- A provider has an asset of a symbol, up to ASCII case. -/
def HasAsset (provider : Provider) (symbol : String) : Prop :=
  ∃ asset ∈ provider.assets, Text.sameFold asset.symbol symbol = true

/-- An entry is sound by itself. -/
def Entry.Sound : Entry → Prop
  | .catalog provider positions =>
    SaysSomething provider.id ∧
      ∀ entry ∈ positions.entries, ∀ position ∈ entry.2, HasAsset provider position.symbol
  | .remote id baseUrl _ =>
    SaysSomething id ∧ ∃ url, Web.Url.read? (Text.trimEnd '/' baseUrl) = some url

/-- An error tells what is wrong with an entry.  A deposit is named by an address and by
the first symbol at this address that the provider does not have. -/
def Entry.Faulty : Entry → EntryError → Prop
  | .catalog provider _, .blankCatalogId => ¬ SaysSomething provider.id
  | .catalog provider positions, .unknownAsset id address symbol =>
    SaysSomething provider.id ∧ id = provider.id ∧
      ∃ before position after, (address, before ++ position :: after) ∈ positions.entries ∧
        (∀ earlier ∈ before, HasAsset provider earlier.symbol) ∧
          ¬ HasAsset provider position.symbol ∧ symbol = position.symbol
  | .remote id _ _, .blankRemoteId => ¬ SaysSomething id
  | .remote id baseUrl _, .unusableBaseUrl named base =>
    SaysSomething id ∧ named = id ∧ base = Text.trimEnd '/' baseUrl ∧
      Web.Url.read? base = none
  | _, _ => False

/-- A backend is the one that an entry describes. -/
def Entry.Describes (transport : Web.Transport) : Entry → Backend → Prop
  | .catalog provider positions, backend =>
    ∃ catalog : Catalog, catalog.provider = provider ∧ catalog.positions = positions ∧
      backend = catalog.toBackend
  | .remote id baseUrl timeout, backend =>
    backend = Remote.toBackend
      ⟨id, Text.trimEnd '/' baseUrl, timeout.elim defaultTimeout UInt64.toNat⟩ transport

theorem saysSomething_iff {text : String} : SaysSomething text ↔ Text.isBlank text = false := by
  unfold SaysSomething Text.isBlank
  rw [List.all_eq_false]
  exact exists_congr fun c => and_congr_right fun _ => Bool.not_eq_true _ ▸ Iff.rfl

theorem hasAsset_iff {provider : Provider} {symbol : String} :
    HasAsset provider symbol ↔ (provider.asset? symbol).isSome = true := by
  unfold HasAsset Provider.asset?
  rw [List.find?_isSome]

/-- No entry is both. -/
theorem not_sound_of_faulty {entry : Entry} {reason : EntryError}
    (faulty : entry.Faulty reason) : ¬ entry.Sound := by
  intro sound
  cases entry with
  | catalog provider positions =>
    cases reason with
    | blankCatalogId => exact faulty sound.1
    | unknownAsset id address symbol =>
      rcases faulty with ⟨_, _, before, position, after, member, _, unknown, _⟩
      exact unknown (sound.2 _ member position (List.mem_append_right before List.mem_cons_self))
    | blankRemoteId => exact faulty
    | unusableBaseUrl named base => exact faulty
  | remote id baseUrl timeout =>
    cases reason with
    | blankCatalogId => exact faulty
    | unknownAsset id address symbol => exact faulty
    | blankRemoteId => exact faulty sound.1
    | unusableBaseUrl named base =>
      rcases faulty with ⟨_, _, rfl, unreadable⟩
      rcases sound.2 with ⟨url, read⟩
      rw [unreadable] at read
      cases read

/-- An error of assembly tells what is wrong with the entries of a file: it is that of the
first entry at fault, or all entries are sound by themselves and it is the first identifier
that an earlier entry has too. -/
def Configuration.Explains (configuration : Configuration) (error : AssemblyError) : Prop :=
  (∃ before entry after reason, configuration.providers = before ++ entry :: after ∧
    (∀ earlier ∈ before, earlier.Sound) ∧ ¬ entry.Sound ∧ entry.Faulty reason ∧
      error = .invalidEntry reason) ∨
  ((∀ entry ∈ configuration.providers, entry.Sound) ∧
    ∃ before id after, configuration.ids = before ++ id :: after ∧ id ∈ before ∧
      before.Nodup ∧ error = .duplicateProvider id)

/-! ## Building one backend -/

theorem catalog_of_make {provider : Provider} {positions : Positions} {catalog : Catalog}
    (made : Catalog.make provider positions = .ok catalog) :
    catalog.provider = provider ∧ catalog.positions = positions := by
  unfold Catalog.make at made
  split at made
  · split at made
    · cases made
    · cases made
      exact ⟨rfl, rfl⟩
  · cases made

theorem faulty_of_firstUnknown? {provider : Provider} {positions : Positions}
    {address symbol : String} (named : SaysSomething provider.id)
    (found : firstUnknown? provider positions.entries = some (address, symbol)) :
    Entry.Faulty (.catalog provider positions) (.unknownAsset provider.id address symbol) := by
  rcases List.exists_of_findSome?_eq_some found with ⟨⟨place, held⟩, member, unknown⟩
  rcases Option.map_eq_some_iff.mp unknown with ⟨position, first, same⟩
  rcases List.find?_eq_some_iff_append.mp first with ⟨missing, before, after, split, earlier⟩
  cases same
  refine ⟨named, rfl, before, position, after, split ▸ member, ?_, ?_, rfl⟩
  · intro other early
    have known := earlier other early
    rw [Bool.not_eq_true', Option.isNone_eq_false_iff] at known
    exact hasAsset_iff.mpr known
  · rw [hasAsset_iff, Bool.not_eq_true, Option.isSome_eq_false_iff]
    exact missing

theorem faulty_of_make_catalog {provider : Provider} {positions : Positions}
    {reason : EntryError} (failed : Catalog.make provider positions = .error reason) :
    Entry.Faulty (.catalog provider positions) reason := by
  unfold Catalog.make at failed
  split at failed
  · rename_i named
    split at failed
    · rename_i address symbol unknown
      cases failed
      exact faulty_of_firstUnknown? (saysSomething_iff.mpr named) unknown
    · cases failed
  · rename_i blank
    cases failed
    exact fun named => blank (saysSomething_iff.mp named)

theorem faulty_of_make_remote {id baseUrl : String} {timeout : Nat} {limit : Option UInt64}
    {reason : EntryError} (failed : Remote.make id baseUrl timeout = .error reason) :
    Entry.Faulty (.remote id baseUrl limit) reason := by
  unfold Remote.make at failed
  dsimp only at failed
  split at failed
  · rename_i blank
    cases failed
    exact fun named => Bool.false_ne_true ((saysSomething_iff.mp named).symm.trans blank)
  · rename_i named
    split at failed
    · cases failed
    · rename_i unreadable
      cases failed
      exact ⟨saysSomething_iff.mpr (Bool.not_eq_true _ ▸ named), rfl, rfl,
        Option.not_isSome_iff_eq_none.mp unreadable⟩

theorem remote_of_make {id baseUrl : String} {timeout : Nat} {remote : Remote}
    (made : Remote.make id baseUrl timeout = .ok remote) :
    SaysSomething id ∧ (∃ url, Web.Url.read? (Text.trimEnd '/' baseUrl) = some url) ∧
      remote = ⟨id, Text.trimEnd '/' baseUrl, timeout⟩ := by
  unfold Remote.make at made
  dsimp only at made
  split at made
  · cases made
  · rename_i named
    split at made
    · rename_i readable
      cases made
      exact ⟨saysSomething_iff.mpr (Bool.not_eq_true _ ▸ named),
        Option.isSome_iff_exists.mp readable, rfl⟩
    · cases made

theorem sound_of_toBackend {transport : Web.Transport} {entry : Entry} {backend : Backend}
    (built : entry.toBackend transport = .ok backend) :
    entry.Sound ∧ entry.Describes transport backend := by
  cases entry with
  | catalog provider positions =>
    cases made : Catalog.make provider positions with
    | error reason =>
      simp only [Entry.toBackend, made] at built
      cases built
    | ok catalog =>
      simp only [Entry.toBackend, made] at built
      cases built
      rcases catalog_of_make made with ⟨rfl, rfl⟩
      refine ⟨⟨saysSomething_iff.mpr catalog.named, ?_⟩, catalog, rfl, rfl, rfl⟩
      intro entry member position held
      exact hasAsset_iff.mpr (catalog.covered entry member position held)
  | remote id baseUrl timeout =>
    cases made : Remote.make id baseUrl (timeout.elim defaultTimeout UInt64.toNat) with
    | error reason =>
      simp only [Entry.toBackend, made] at built
      cases built
    | ok remote =>
      simp only [Entry.toBackend, made] at built
      cases built
      rcases remote_of_make made with ⟨named, readable, rfl⟩
      exact ⟨⟨named, readable⟩, rfl⟩

theorem faulty_of_toBackend {transport : Web.Transport} {entry : Entry} {reason : EntryError}
    (failed : entry.toBackend transport = .error reason) : entry.Faulty reason := by
  cases entry with
  | catalog provider positions =>
    cases made : Catalog.make provider positions with
    | error cause =>
      simp only [Entry.toBackend, made] at failed
      cases failed
      exact faulty_of_make_catalog made
    | ok catalog =>
      simp only [Entry.toBackend, made] at failed
      cases failed
  | remote id baseUrl timeout =>
    cases made : Remote.make id baseUrl (timeout.elim defaultTimeout UInt64.toNat) with
    | error cause =>
      simp only [Entry.toBackend, made] at failed
      cases failed
      exact faulty_of_make_remote made
    | ok remote =>
      simp only [Entry.toBackend, made] at failed
      cases failed

theorem id_of_describes {transport : Web.Transport} {entry : Entry} {backend : Backend}
    (described : entry.Describes transport backend) : backend.id = entry.id := by
  cases entry with
  | catalog provider positions =>
    rcases described with ⟨catalog, rfl, rfl, rfl⟩
    rfl
  | remote id baseUrl timeout =>
    cases described
    rfl

/-! ## The whole file -/

theorem ids_of_describes {transport : Web.Transport} {entries : List Entry}
    {backends : List Backend}
    (described : List.Forall₂ (Entry.Describes transport) entries backends) :
    backends.map Backend.id = entries.map Entry.id := by
  induction described with
  | nil => rfl
  | cons first _ inductionHypothesis =>
    rw [List.map_cons, List.map_cons, inductionHypothesis, id_of_describes first]

theorem describes_of_mapM {transport : Web.Transport} {entries : List Entry}
    {backends : List Backend}
    (built : entries.mapM (Entry.toBackend transport) = .ok backends) :
    (∀ entry ∈ entries, entry.Sound) ∧
      List.Forall₂ (Entry.Describes transport) entries backends := by
  apply (List.forall₂_and_left entries backends).mp
  exact (Traversal.mapM_eq_ok_iff.mp built).imp fun _ _ => sound_of_toBackend

theorem sound_of_ofConfiguration {transport : Web.Transport} {configuration : Configuration}
    {registry : Registry} (assembled : ofConfiguration transport configuration = .ok registry) :
    (∀ entry ∈ configuration.providers, entry.Sound) ∧
      List.Forall₂ (Entry.Describes transport) configuration.providers registry.backends := by
  unfold ofConfiguration at assembled
  split at assembled
  · cases assembled
  · rename_i backends built
    rw [ofBackends_eq_ok_iff.mp assembled]
    exact describes_of_mapM built

theorem explains_of_ofConfiguration {transport : Web.Transport} {configuration : Configuration}
    {error : AssemblyError} (failed : ofConfiguration transport configuration = .error error) :
    configuration.Explains error := by
  unfold ofConfiguration at failed
  split at failed
  -- The entries are built in order, so the one that stops this has only sound ones before it.
  · rename_i reason stopped
    cases failed
    rcases Traversal.first_error_of_mapM stopped with ⟨before, entry, after, split, built, fault⟩
    have faulty := faulty_of_toBackend fault
    refine Or.inl ⟨before, entry, after, reason, split, ?_, not_sound_of_faulty faulty, faulty, rfl⟩
    intro earlier member
    rcases built earlier member with ⟨backend, done⟩
    exact (sound_of_toBackend done).1
  · rename_i backends built
    rcases describes_of_mapM built with ⟨sound, described⟩
    rcases repeated_of_ofBackends failed with ⟨before, id, after, split, again, distinct, cause⟩
    refine Or.inr ⟨sound, before, id, after, ?_, again, distinct, cause⟩
    rw [Configuration.ids, ← ids_of_describes described, split]

/-- What explains an error is at odds with a sound file of distinct identifiers. -/
theorem not_explains_of_sound {configuration : Configuration} {error : AssemblyError}
    (sound : ∀ entry ∈ configuration.providers, entry.Sound) (distinct : configuration.ids.Nodup) :
    ¬ configuration.Explains error := by
  intro explained
  rcases explained with
    ⟨before, entry, after, reason, split, _, fault, _⟩ | ⟨_, before, id, after, split, again, _⟩
  · exact fault (sound entry (split ▸ List.mem_append_right before List.mem_cons_self))
  · rw [split] at distinct
    exact (List.nodup_append.mp distinct).2.2 id again id List.mem_cons_self rfl

/-- A registry is assembled exactly if every entry is sound and no two have the same
identifier.  It then holds one backend for each entry, the one that the entry describes,
under the identifier of that entry, and nothing else.  Otherwise the error explains what is
wrong with the file. -/
theorem ofConfiguration_all_or_nothing (transport : Web.Transport)
    (configuration : Configuration) :
    ((∃ registry, ofConfiguration transport configuration = .ok registry) ↔
      (∀ entry ∈ configuration.providers, entry.Sound) ∧ configuration.ids.Nodup) ∧
    (∀ registry, ofConfiguration transport configuration = .ok registry →
      registry.backends.map Backend.id = configuration.ids ∧
      List.Forall₂ (Entry.Describes transport) configuration.providers registry.backends ∧
      ∀ entry ∈ configuration.providers, ∃ backend,
        registry.get? entry.id = some backend ∧ entry.Describes transport backend) ∧
    (∀ error, ofConfiguration transport configuration = .error error →
      configuration.Explains error) := by
  refine ⟨⟨?_, ?_⟩, ?_, fun error => explains_of_ofConfiguration⟩
  · rintro ⟨registry, assembled⟩
    rcases sound_of_ofConfiguration assembled with ⟨sound, described⟩
    refine ⟨sound, ?_⟩
    rw [Configuration.ids, ← ids_of_describes described]
    exact registry.distinct
  · rintro ⟨sound, distinct⟩
    cases outcome : ofConfiguration transport configuration with
    | ok registry => exact ⟨registry, rfl⟩
    | error error =>
      have explained := explains_of_ofConfiguration outcome
      exact absurd explained (not_explains_of_sound sound distinct)
  · intro registry assembled
    rcases sound_of_ofConfiguration assembled with ⟨_, described⟩
    refine ⟨ids_of_describes described, described, ?_⟩
    intro entry member
    rcases Traversal.exists_of_mem described member with ⟨backend, held, fits⟩
    exact ⟨backend, get?_eq_some_iff.mpr ⟨held, id_of_describes fits⟩, fits⟩

/-- A catalog of one asset with one deposit, which is named in another case. -/
def poolEntry : Entry :=
  .catalog
    ⟨"pool", ⟨"pool", "", "", ""⟩, .lending, [⟨"ETH", "", 0.5, 0, 1, "", "", ⟨none⟩⟩]⟩
    ⟨[("0x1", [⟨"eth", "7"⟩])], by decide⟩

/-- A catalog is registered by itself; if it occurs twice, a third entry without a name is
still the one that is reported. -/
theorem ofConfiguration_reports_unnamed :
    let transport : Web.Transport := fun _ => .silent
    (∃ registry backend, ofConfiguration transport ⟨[poolEntry]⟩ = .ok registry ∧
      registry.get? "pool" = some backend ∧ poolEntry.Describes transport backend) ∧
    ofConfiguration transport ⟨[poolEntry, poolEntry, .remote "\t " "" none]⟩ =
      .error (.invalidEntry .blankRemoteId) ∧
    Configuration.Explains ⟨[poolEntry, poolEntry, .remote "\t " "" none]⟩
      (.invalidEntry .blankRemoteId) := by
  intro transport
  have unnamed : ofConfiguration transport ⟨[poolEntry, poolEntry, .remote "\t " "" none]⟩ =
      .error (.invalidEntry .blankRemoteId) := rfl
  rcases ofConfiguration_all_or_nothing transport ⟨[poolEntry]⟩ with ⟨_, single, _⟩
  rcases ofConfiguration_all_or_nothing transport
    ⟨[poolEntry, poolEntry, .remote "\t " "" none]⟩ with ⟨_, _, explained⟩
  refine ⟨?_, unnamed, explained _ unnamed⟩
  rcases single _ rfl with ⟨_, _, found⟩
  rcases found poolEntry List.mem_cons_self with ⟨backend, registered, described⟩
  exact ⟨_, backend, rfl, registered, described⟩

end Registry
end LendingGateway
