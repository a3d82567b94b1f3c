import LendingGateway.Lending.Account
import LendingGateway.Lending.Query
import LendingGateway.Registry.Configuration
import LendingGateway.Proofs.Json.ExactIntegers

namespace LendingGateway

open Lending Registry Json

/-!
# Integer fields

The yield of an asset is timed in whole seconds, and a provider that is served elsewhere in whole
milliseconds.  Wherever such a number is given, directly or inside an entry of the provider file,
which is first read as a tree, the integer is the one that is written.
-/

/-! ## Where integers are given -/

def Registry.Entry.provider? : Entry → Option Provider
  | .catalog provider _ => some provider
  | .remote .. => none

def Registry.Entry.timeout? : Entry → Option UInt64
  | .catalog .. => none
  | .remote _ _ timeout => timeout

/-- The open number of a template gives an integer of a type: one of an asset, a rate or an entry
of the provider file, or one inside of what holds such.  Every field is given by its key, or by its
position in a list, where the kind of an entry comes first. -/
inductive GivesInteger : (kind : IntegerKind) → (α : Type) → [Wire α] → Template →
    (α → Option kind.shape.Value) → Prop where
  | period {template : Template} (within : InField "yield_period" 3 .number template) :
    GivesInteger .int64 Asset template fun asset => some asset.yieldPeriod
  | frequency {template : Template} (within : InField "yield_freq" 4 .number template) :
    GivesInteger .int64 Asset template fun asset => some asset.yieldFrequency
  | ratePeriod {template : Template} (within : InField "yield_period" 2 .number template) :
    GivesInteger .int64 Rate template fun rate => some rate.yieldPeriod
  | rateFrequency {template : Template} (within : InField "yield_freq" 3 .number template) :
    GivesInteger .int64 Rate template fun rate => some rate.yieldFrequency
  | timeout {template : Template} (within : InField "timeout_ms" 3 .number template) :
    GivesInteger .nat64 Entry template Entry.timeout?
  | item {kind : IntegerKind} {α : Type} [Wire α] {inner template : Template} {position : Nat}
    {field : α → Option kind.shape.Value} (within : InItem inner position template)
    (gives : GivesInteger kind α inner field) :
    GivesInteger kind (List α) template fun values => values[position]?.bind field
  | asset {kind : IntegerKind} {inner template : Template}
    {field : Asset → Option kind.shape.Value} (within : InField "asset" 0 inner template)
    (gives : GivesInteger kind Asset inner field) :
    GivesInteger kind Contract template fun contract => field contract.asset
  | contracts {kind : IntegerKind} {inner template : Template}
    {field : List Contract → Option kind.shape.Value}
    (within : InField "contracts" 1 inner template)
    (gives : GivesInteger kind (List Contract) inner field) :
    GivesInteger kind Account template fun account => field account.contracts
  | assets {kind : IntegerKind} {inner template : Template}
    {field : List Asset → Option kind.shape.Value} (within : InField "assets" 3 inner template)
    (gives : GivesInteger kind (List Asset) inner field) :
    GivesInteger kind Provider template fun provider => field provider.assets
  | provider {kind : IntegerKind} {inner template : Template}
    {field : Provider → Option kind.shape.Value} (within : InField "provider" 1 inner template)
    (gives : GivesInteger kind Provider inner field) :
    GivesInteger kind Entry template fun entry => entry.provider?.bind field
  | providers {kind : IntegerKind} {inner template : Template}
    {field : List Entry → Option kind.shape.Value} (within : InField "providers" 0 inner template)
    (gives : GivesInteger kind (List Entry) inner field) :
    GivesInteger kind Configuration template fun configuration => field configuration.providers
  | docs {kind : IntegerKind} {α : Type} [Wire α] {inner template : Template}
    {field : α → Option kind.shape.Value} (within : InField "docs" 0 inner template)
    (gives : GivesInteger kind α inner field) :
    GivesInteger kind (Envelope α) template fun envelope => field envelope.docs

/-! ## Their spots -/

theorem GivesInteger.exists_spotAt {kind : IntegerKind} {α : Type} [Wire α] {template : Template}
    {field : α → Option kind.shape.Value} (gives : GivesInteger kind α template field) :
    ∃ get, Wire.SpotAt α kind template field get := by
  induction gives with
  | period within =>
    exact ⟨_, within.spot (.later (by decide) (.later (by decide) (.later (by decide) .first)))
      fun _ _ => .here, fun _ => rfl⟩
  | frequency within =>
    exact ⟨_, within.spot (.later (by decide) (.later (by decide) (.later (by decide)
      (.later (by decide) .first)))) fun _ _ => .here, fun _ => rfl⟩
  | ratePeriod within =>
    exact ⟨_, within.spot (.later (by decide) (.later (by decide) .first)) fun _ _ => .here,
      fun _ => rfl⟩
  | rateFrequency within =>
    exact ⟨_, within.spot (.later (by decide) (.later (by decide) (.later (by decide) .first)))
      fun _ _ => .here, fun _ => rfl⟩
  | timeout within =>
    refine ⟨_, within.variant_spot (.later .one) rfl (.later (by decide) (.later (by decide) .first))
      (by decide) fun _ _ => .present .here, ?_⟩
    rintro (_ | ⟨_, _, timeout, _⟩)
    · rfl
    · cases timeout <;> rfl
  | item within _ inductionHypothesis =>
    rcases inductionHypothesis with ⟨get, spot⟩
    refine ⟨_, within.spot spot.spots, fun held => ?_⟩
    change (held.map Wire.ofValue)[_]?.bind _ = _
    rw [List.getElem?_map, Option.bind_map]
    exact congrArg _ (funext spot.shown)
  | asset within _ inductionHypothesis =>
    rcases inductionHypothesis with ⟨get, spot⟩
    exact ⟨_, within.spot .first spot.spots, fun held => spot.shown held.1⟩
  | contracts within _ inductionHypothesis =>
    rcases inductionHypothesis with ⟨get, spot⟩
    exact ⟨_, within.spot (.later (by decide) .first) spot.spots, fun held => spot.shown held.2.1⟩
  | assets within _ inductionHypothesis =>
    rcases inductionHypothesis with ⟨get, spot⟩
    exact ⟨_, within.spot (.later (by decide) (.later (by decide) (.later (by decide) .first)))
      spot.spots, fun held => spot.shown held.2.2.2.1⟩
  | provider within _ inductionHypothesis =>
    rcases inductionHypothesis with ⟨get, spot⟩
    refine ⟨_, within.variant_spot .first rfl .first (by decide) spot.spots, ?_⟩
    rintro (⟨provider, _⟩ | _)
    · exact spot.shown provider
    · rfl
  | providers within _ inductionHypothesis =>
    rcases inductionHypothesis with ⟨get, spot⟩
    exact ⟨_, within.spot .first spot.spots, fun held => spot.shown held.1⟩
  | docs within _ inductionHypothesis =>
    rcases inductionHypothesis with ⟨get, spot⟩
    exact ⟨_, within.spot .first spot.spots, fun held => spot.shown held.1⟩

/-! ## Exactness -/

/-- Every integer that is given is exact: none is wrapped, rounded or cut off. -/
theorem integer_fields_exact {kind : IntegerKind} {α : Type} [Wire α] {template : Template}
    {field : α → Option kind.shape.Value} (gives : GivesInteger kind α template field) :
    Wire.ExactAt α kind template field := by
  rcases gives.exists_spotAt with ⟨_, spot⟩
  exact spot.exactAt

/-- An octet that stands for itself in quoted text. -/
def standsAlone (octet : UInt8) : Bool :=
  0x20 ≤ octet && octet != 0x22 && octet != 0x5c

theorem isQuotation_of_standsAlone {text : Input} (plain : text.all standsAlone = true) :
    IsQuotation (text ++ [0x22]) := by
  induction text with
  | nil => exact .close
  | cons octet text inductionHypothesis =>
    rw [List.all_cons, Bool.and_eq_true] at plain
    rcases plain with ⟨alone, others⟩
    simp only [standsAlone, Bool.and_eq_true, decide_eq_true_eq, bne_iff_ne] at alone
    have glyph : IsGlyph [octet] := .plain alone.1.1 alone.1.2 alone.2
    change IsQuotation ([octet] ++ (text ++ [0x22]))
    exact .glyph glyph (inductionHypothesis others)

/-- A text that is written as it is. -/
def Json.Quotation.verbatim (text : Input) (plain : text.all standsAlone = true) : Quotation :=
  ⟨text ++ [0x22], isQuotation_of_standsAlone plain⟩

/-- A member of an object without gaps. -/
def compact (key : Quotation) (value : Document) : Member Document :=
  ⟨.none, key, .none, ⟨.none, value, .none⟩⟩

/-- An entry of the provider file with its timeout left open. -/
def remoteEntry : Template := fun number =>
  .object .none
    ([compact (.verbatim (Text.octets "kind") rfl)
        (.text (.verbatim (Text.octets "remote") rfl)),
      compact (.verbatim (Text.octets "id") rfl) (.text (.verbatim [] rfl)),
      compact (.verbatim (Text.octets "base_url") rfl) (.text (.verbatim [] rfl))]
    ++ (compact (.verbatim (Text.octets "timeout_ms") rfl) .null).withValue
        (.number number) :: [])

def largestWord : Number :=
  .ofWhole (show IsWhole (Text.octets "18446744073709551615") from
    .digits (by decide) (List.all_eq_true.mp rfl))

def afterLargestWord : Number :=
  .ofWhole (show IsWhole (Text.octets "18446744073709551616") from
    .digits (by decide) (List.all_eq_true.mp rfl))

/-- The largest word is taken for a timeout, and the number after it is refused. -/
theorem timeout_of_largestWord :
    GivesInteger .nat64 Entry remoteEntry Entry.timeout? ∧
      (∃ (entry : Entry) (timeout : UInt64),
        Wire.decode Entry (remoteEntry.text .none .none largestWord) = .ok entry ∧
          entry.timeout? = some timeout ∧ (timeout.toNat : Int) = 2 ^ 64 - 1) ∧
      ∃ fault, Wire.decode Entry (remoteEntry.text .none .none afterLargestWord) = .error fault ∧
        (fault.cause.category = .mismatch ∨ fault.cause = .numberOutOfRange) := by
  have gives : GivesInteger .nat64 Entry remoteEntry Entry.timeout? := .timeout (.member _ rfl)
  have zero : Wire.decode Entry (remoteEntry.text .none .none (.ofWhole .zero)) =
      .ok (.remote "" "" (some 0)) := rfl
  have present : (Entry.remote "" "" (some 0)).timeout? ≠ none := nofun
  have exact := integer_fields_exact gives
  refine ⟨gives, ?_, ?_⟩
  · exact exact.accepts zero present (Number.ofWhole_writes _) (by decide) (by decide)
  · refine exact.refuses zero present ?_
    rintro ⟨integer, writes, _, most⟩
    rw [writes.unique (Number.ofWhole_writes _)] at most
    revert most
    decide

/-- A negative timeout is met as an integer, and is beyond the range of a word. -/
example :
    Wire.decode Entry (Text.octets <| "\x7b\"timeout_ms\":-1,\"id\":\"far\","
      ++ "\"kind\":\"remote\",\"base_url\":\"\"\x7d") =
        .error ⟨.integerOutOfRange (-1) .nat64, []⟩ :=
  rfl

end LendingGateway
