import LendingGateway.Proofs.Documents
import LendingGateway.Proofs.IntegerFields
import LendingGateway.Proofs.Json.BlankMembers
import LendingGateway.Proofs.Json.Omission
import LendingGateway.Proofs.Json.WrittenMembers

namespace LendingGateway

open Lending Json

/-!
# Optional data

Two things need not be known: the details of an asset and the contract of a token.  Where they
are not, the documents of the gateway hold nothing in their place, neither null nor an empty
object.  A document that does hold such a thing is read as if it did not, wherever the asset
stands, and is written again without it.
-/

/-! ## What is written -/

/-- The details of an asset stand in its object exactly if there are any, and nothing beside
them does. -/
def ShowsDetails (asset : Asset) : Prop :=
  (Wire.tree asset).follow [.key "meta_info"] = asset.details.tokens.toList.map fun pair =>
    .object [("defi_info", .object
      [("asset_token", Wire.tree pair.asset), ("technical_token", Wire.tree pair.technical)])]

/-- The contract of a token stands in its object exactly if there is one. -/
def ShowsContract (token : Token) : Prop :=
  (Wire.tree token).follow [.key "contract_address"] = token.contractAddress.toList.map .text

theorem showsDetails (asset : Asset) : ShowsDetails asset := by
  rcases asset with ⟨_, _, _, _, _, _, _, ⟨tokens⟩⟩
  cases tokens <;> rfl

theorem showsContract (token : Token) : ShowsContract token := by
  rcases token with ⟨_, _, contract⟩
  cases contract <;> rfl

theorem tree_list {α : Type} [Wire α] (values : List α) :
    Wire.tree values = .list (values.map Wire.tree) :=
  congrArg Tree.list List.map_map

theorem follow_docs {α : Type} [Wire α] (docs : List α) (position : Nat) (path : List Segment) :
    (Wire.tree (Envelope.mk docs)).follow (.key "docs" :: .index position :: path) =
      docs[position]?.toList.flatMap fun value => (Wire.tree value).follow path := by
  have leads : (Wire.tree (Envelope.mk docs)).behind (.key "docs") = [Wire.tree docs] := rfl
  rw [Tree.follow_of_behind leads, tree_list, Tree.follow_index]

/-- The assets of a listing stand in their order in the catalogs of their providers. -/
theorem follow_listed (providers : List Provider) (position place : Nat) :
    (Wire.tree (Envelope.mk providers)).follow
        [.key "docs", .index position, .key "assets", .index place] =
      (providers[position]?.toList.flatMap fun provider => provider.assets[place]?.toList).map
        Wire.tree := by
  rw [follow_docs, List.map_flatMap]
  refine List.flatMap_congr fun provider _ => ?_
  have leads : (Wire.tree provider).behind (.key "assets") = [Wire.tree provider.assets] := rfl
  rw [Tree.follow_of_behind leads, tree_list, Tree.follow_index]
  exact List.map_eq_flatMap.symm

/-- The assets of the deposits of some accounts stand in their order in the contracts. -/
theorem follow_deposited (accounts : List Account) (position place : Nat) :
    (Wire.tree (Envelope.mk accounts)).follow
        [.key "docs", .index position, .key "contracts", .index place, .key "asset"] =
      (accounts[position]?.toList.flatMap fun account => account.contracts[place]?.toList).map
        fun contract => Wire.tree contract.asset := by
  rw [follow_docs, List.map_flatMap]
  refine List.flatMap_congr fun account _ => ?_
  have leads : (Wire.tree account).behind (.key "contracts") = [Wire.tree account.contracts] := rfl
  rw [Tree.follow_of_behind leads, tree_list, Tree.follow_index]
  exact List.map_eq_flatMap.symm

/-! ## How details are left unsaid -/

def Json.Shape.fields : Shape → Fields
  | .record _ fields => fields
  | _ => .nil

/-- The fields of an asset in a document. -/
def assetFields : Fields :=
  (Wire.shape Asset).fields

/-- A value in the place of the details that holds none. -/
inductive HoldsNoDetails : Document → Prop where
  | empty (opening : Gap) : HoldsNoDetails (.object opening [])
  | null (opening : Gap) {member : Member Document} (named : member.name? = some "defi_info")
    (null : member.element.value = .null) : HoldsNoDetails (.object opening [member])

/-- The members of an asset without details: some others alone, or with one member for the
details among them that holds none. -/
inductive Undetailed (others : List (Member Document)) : List (Member Document) → Prop where
  | missing : Undetailed others others
  | given {before after : List (Member Document)} {member : Member Document}
    (among : others = before ++ after) (named : member.name? = some "meta_info")
    (nothing : HoldsNoDetails member.element.value) : Undetailed others (before ++ member :: after)

theorem meansBlank_of_holdsNoDetails {document : Document} (nothing : HoldsNoDetails document) :
    (Wire.shape AssetDetails).MeansBlank document := by
  cases nothing with
  | empty opening => exact Shape.meansBlank_empty rfl opening
  | @null opening member named null =>
    have absent : (Shape.optional (Wire.shape TokenPair)).MeansBlank member.element.value := by
      rw [null]
      exact Shape.meansBlank_null _
    have field : (Wire.shape AssetDetails).fields.MayLack "defi_info"
        (.optional (Wire.shape TokenPair)) := Or.inl ⟨rfl, rfl, by decide⟩
    have same : (Wire.shape AssetDetails).SameMeaning (.object opening ([] ++ []))
        (.object opening ([] ++ member :: [])) :=
      sameMeaning_of_leftOut (by decide) field named rfl absent _ opening
    have empty : (Wire.shape AssetDetails).MeansBlank (.object opening []) :=
      Shape.meansBlank_empty rfl opening
    exact empty.of_sameMeaning same

theorem mayLack_details : assetFields.MayLack "meta_info" (Wire.shape AssetDetails) :=
  .inr (.inr (.inr (.inr (.inr (.inr (.inr (.inl ⟨rfl, rfl, by decide⟩)))))))

section Undetailed

variable {others first second : List (Member Document)}

/-- A member that holds no details adds nothing to the object of an asset. -/
theorem holds_undetailed_iff (absent : membersNamed "meta_info" others = [])
    (undetailed : Undetailed others first) (title : String) (gap opening : Gap) :
    ∀ values, (Shape.record title assetFields).Means (.object gap others) values ↔
      (Shape.record title assetFields).Means (.object opening first) values := by
  intro values
  cases undetailed with
  | missing => rw [Shape.means_object_iff, Shape.means_object_iff]
  | given among named nothing =>
    subst among
    rw [sameMeaning_of_leftOut (by decide) mayLack_details named absent
      (meansBlank_of_holdsNoDetails nothing) title gap values, Shape.means_object_iff,
      Shape.means_object_iff]

/-- However the details of an asset are left unsaid in a document of a type, it is read alike. -/
def Json.Wire.ReadsUndetailed (α : Type) [Wire α] : Prop :=
  ∀ others first second, membersNamed "meta_info" others = [] →
    Undetailed others first → Undetailed others second → ∀ whole other : Element Document,
      Within assetFields first second (Wire.shape α) whole.value other.value →
        ∀ value : α, Wire.decode α whole.octets = .ok value ↔ Wire.decode α other.octets = .ok value

theorem Json.Wire.readsUndetailed {α : Type} [Wire α] (untagged : (Wire.shape α).untagged = true)
    (formed : (Wire.shape α).wellFormed = true) (shallow : (Wire.shape α).depth < nestingLimit) :
    Wire.ReadsUndetailed α := by
  intro others first second absent one two whole other within value
  rw [Wire.decode_iff_means untagged formed shallow, Wire.decode_iff_means untagged formed shallow]
  refine exists_congr fun held => and_congr_left' ?_
  refine within.sameMeaning (fun title opening values => ?_) formed held
  exact (holds_undetailed_iff absent one title opening opening values).symm.trans
    (holds_undetailed_iff absent two title opening opening values)

theorem decode_asset_iff {whole : Element Document} {opening : Gap}
    (object : whole.value = .object opening first) {asset : Asset} :
    Wire.decode Asset whole.octets = .ok asset ↔
      ∃ held, (Wire.shape Asset).Means (.object opening first) held ∧ Wire.ofValue held = asset := by
  rw [Wire.decode_iff_means (by decide) (by decide) (by decide), object]

/-- An asset that is read from a text without details has none. -/
theorem details_of_undetailed (absent : membersNamed "meta_info" others = [])
    (undetailed : Undetailed others first) {held : assetFields.Value} {opening : Gap}
    (means : (Wire.shape Asset).Means (.object opening first) held) :
    (Wire.ofValue held : Asset).details.tokens = none := by
  have alone := (holds_undetailed_iff absent undetailed _ opening opening held).mpr means
  rcases Shape.means_object_iff.mp alone with ⟨_, _, _, _, _, _, _, _, details, _⟩
  rcases details with ⟨_, _, blank⟩ | ⟨member, only, _⟩
  · change (held.2.2.2.2.2.2.2.1.1).map Wire.ofValue = none
    rw [blank]
    rfl
  · rw [absent] at only
    cases only

end Undetailed

/-- Two texts are read as one asset, if as any, and it has no place for details. -/
structure ReadAsOne (whole other : Element Document) : Prop where
  alike : ∀ asset : Asset,
    Wire.decode Asset whole.octets = .ok asset ↔ Wire.decode Asset other.octets = .ok asset
  plain : ∀ asset : Asset, Wire.decode Asset whole.octets = .ok asset →
    (Wire.tree asset).follow [.key "meta_info"] = []

theorem readAsOne_of_undetailed {others first second : List (Member Document)}
    (absent : membersNamed "meta_info" others = []) (one : Undetailed others first)
    (two : Undetailed others second) {whole other : Element Document} {opening gap : Gap}
    (written : whole.value = .object opening first) (again : other.value = .object gap second) :
    ReadAsOne whole other := by
  refine ⟨fun asset => ?_, fun asset decoded => ?_⟩
  · rw [decode_asset_iff written, decode_asset_iff again]
    refine exists_congr fun held => and_congr_left' ?_
    exact (holds_undetailed_iff absent one _ .none opening held).symm.trans
      (holds_undetailed_iff absent two _ .none gap held)
  · rcases (decode_asset_iff written).mp decoded with ⟨held, means, rfl⟩
    rw [showsDetails, details_of_undetailed absent one means]
    rfl

/-- The text of an asset is that of an object without a member for details.  Such a member may be
added to the object if it holds none: the asset is read again, and with it the text. -/
def KeepsUndetailed (asset : Asset) : Prop :=
  ∃ others, membersNamed "meta_info" others = [] ∧
    (Document.object .none others).octets = Text.octets (Wire.encode asset) ∧
      ∀ (other : Element Document) (gap : Gap) second, Undetailed others second →
        other.value = .object gap second → Wire.decode Asset other.octets = .ok asset

theorem exists_undetailed {asset : Asset} (undetailed : asset.details.isEmpty = true)
    (readsBack : ReadsBack asset.apy) :
    ∃ others, membersNamed "meta_info" others = [] ∧
      (Document.object .none others).octets = Text.octets (Wire.encode asset) := by
  have legible := Fields.legible_toMembers restores_number assetFields (Nat.le_refl _)
    (Wire.toValue asset) (everyReal_asset readsBack)
  have nothing : (Wire.tree asset).follow [.key "meta_info"] = [] := by
    rw [showsDetails, Option.isNone_iff_eq_none.mp undetailed]
    rfl
  rcases exists_written_members legible with ⟨others, texts, names⟩
  exact ⟨others, membersNamed_eq_nil names (Tree.ne_of_follow_eq_nil nothing),
    octets_object_of_memberTexts texts⟩

theorem keepsUndetailed {asset : Asset} (undetailed : asset.details.isEmpty = true)
    (readsBack : ReadsBack asset.apy) : KeepsUndetailed asset := by
  rcases exists_undetailed undetailed readsBack with ⟨others, absent, written⟩
  refine ⟨others, absent, written, fun other gap second two again => ?_⟩
  let whole : Element Document := ⟨.none, .object .none others, .none⟩
  have alone : whole.octets = Text.octets (Wire.encode asset) := (List.append_nil _).trans written
  have same : whole.value = .object .none others := rfl
  refine ((readAsOne_of_undetailed absent .missing two same again).alike asset).mp ?_
  rw [alone]
  exact Wire.roundTrips_of_shape (by decide) (by decide) (everyReal_asset readsBack)

/-! ## No trace is left -/

theorem solid_of_finite {α : Type} [Wire α] (solid : (Wire.shape α).solid false = true) {value : α}
    (finite : (Wire.shape α).Finite (Wire.toValue value)) : (Wire.tree value).Solid :=
  Shape.solid_toTree (Wire.shape α) solid (Wire.toValue value) finite
    fun impossible => absurd impossible Bool.false_ne_true

theorem solid_listing {providers : List Provider}
    (finite : ∀ provider ∈ providers, ∀ asset ∈ provider.assets, asset.apy.isFinite = true) :
    (Wire.tree (Envelope.mk providers)).Solid := by
  refine solid_of_finite rfl ⟨?_, trivial⟩
  intro value member
  rcases List.mem_map.mp member with ⟨provider, held, rfl⟩
  exact everyReal_provider (finite provider held)

/-- What is not known leaves no trace in a response, and a trace in a text is lost. -/
theorem absent_data_leaves_no_trace :
    ((∀ providers : List Provider,
        (∀ provider ∈ providers, ∀ asset ∈ provider.assets, asset.apy.isFinite = true) →
          (Wire.tree (Envelope.mk providers)).Solid) ∧
      (∀ rates : List Rate, (∀ rate ∈ rates, rate.apy.isFinite = true) →
        (Wire.tree (Envelope.mk rates)).Solid) ∧
      ∀ accounts : List Account, (∀ account ∈ accounts, ∀ contract ∈ account.contracts,
          contract.asset.apy.isFinite = true) →
        (Wire.tree (Envelope.mk accounts)).Solid) ∧
    ((∀ (providers : List Provider) position place, (Wire.tree (Envelope.mk providers)).follow
        [.key "docs", .index position, .key "assets", .index place] =
          (providers[position]?.toList.flatMap fun provider =>
            provider.assets[place]?.toList).map Wire.tree) ∧
      (∀ (accounts : List Account) position place, (Wire.tree (Envelope.mk accounts)).follow
        [.key "docs", .index position, .key "contracts", .index place, .key "asset"] =
          (accounts[position]?.toList.flatMap fun account =>
            account.contracts[place]?.toList).map fun contract => Wire.tree contract.asset) ∧
      (∀ asset, ShowsDetails asset) ∧ ∀ token, ShowsContract token) ∧
    (Wire.ReadsUndetailed Provider ∧ Wire.ReadsUndetailed Account ∧
      Wire.ReadsUndetailed (Envelope (List Provider)) ∧
      Wire.ReadsUndetailed (Envelope (List Account))) ∧
    (∀ others first second, membersNamed "meta_info" others = [] → Undetailed others first →
      Undetailed others second → ∀ (whole other : Element Document) (opening gap : Gap),
        whole.value = .object opening first → other.value = .object gap second →
          ReadAsOne whole other) ∧
    ∀ asset : Asset, asset.details.isEmpty = true → ReadsBack asset.apy →
      KeepsUndetailed asset := by
  refine ⟨⟨fun _ => solid_listing, ?_, ?_⟩, ⟨follow_listed, follow_deposited, showsDetails,
    showsContract⟩, ⟨?_, ?_, ?_, ?_⟩, ?_, fun _ => keepsUndetailed⟩
  · exact fun _ finite => solid_of_finite rfl ⟨everyReal_rates finite, trivial⟩
  · exact fun _ finite => solid_of_finite rfl ⟨everyReal_accounts finite, trivial⟩
  · exact Wire.readsUndetailed (by decide) (by decide) (by decide)
  · exact Wire.readsUndetailed (by decide) (by decide) (by decide)
  · exact Wire.readsUndetailed (by decide) (by decide) (by decide)
  · exact Wire.readsUndetailed (by decide) (by decide) (by decide)
  · exact fun _ _ _ absent one two _ _ _ _ written again =>
      readAsOne_of_undetailed absent one two written again

/-- An asset without details. -/
def bareAsset : Asset :=
  ⟨"ETH", "", 0.0, 0, 0, "", "", ⟨none⟩⟩

/-- The same asset with two tokens, one of which is a native coin. -/
def pairedAsset : Asset :=
  { bareAsset with details := ⟨some ⟨⟨"ETH", "main", none⟩, ⟨"stETH", "main", some "0x1"⟩⟩⟩ }

def poolOf (assets : List Asset) : Provider :=
  ⟨"pool", ⟨"pool", "", "", ""⟩, .staking, assets⟩

def textMember (key text : String) : Member Document :=
  compact (.ofText key) (.text (.ofText text))

def zeroReal : Number :=
  ⟨[] ++ ([0x30] ++ ([0x2e, 0x30] ++ [])),
    .parts (Or.inl rfl) .zero (.point ⟨List.cons_ne_nil _ _, List.all_eq_true.mp rfl⟩) .none⟩

/-- The members of the asset without details. -/
def assetMembers : List (Member Document) :=
  [textMember "symbol" "ETH", textMember "description" "",
    compact (.ofText "apy") (.number zeroReal),
    compact (.ofText "yield_period") (.number (.ofWhole .zero)),
    compact (.ofText "yield_freq") (.number (.ofWhole .zero)),
    textMember "total_supply" "", textMember "minimum_amount" ""]

/-- A member for details that holds none. -/
def noDetails : Member Document :=
  compact (.ofText "meta_info") (.object .none [compact (.ofText "defi_info") .null])

/-- The text of an asset with some members. -/
def assetText (members : List (Member Document)) : Element Document :=
  ⟨.none, .object .none members, .none⟩

/-- The text of a provider that lists an asset with some members. -/
def poolText (members : List (Member Document)) : Element Document :=
  ⟨.none, .object .none
    ([textMember "id" "pool",
      compact (.ofText "info") (.object .none [textMember "id" "pool",
        textMember "description" "", textMember "image" "", textMember "website" ""]),
      textMember "type" "staking"]
    ++ compact (.ofText "assets") (.list .none ([] ++ assetText members :: [])) :: []), .none⟩

/-- An asset stands beside itself with details, and the text of its provider may hold a member
for details in its place. -/
theorem absent_data_leaves_no_trace_beside :
    ((Wire.tree (Envelope.mk [poolOf [bareAsset, pairedAsset]])).Solid ∧
      (Wire.tree (Envelope.mk [bareAsset.rate])).Solid ∧
      (Wire.tree (Envelope.mk [Account.mk "0x1" [⟨pairedAsset, "3"⟩]])).Solid) ∧
    Wire.decode Provider (poolText (assetMembers ++ [noDetails])).octets =
      .ok (poolOf [bareAsset]) ∧
    ReadAsOne (assetText assetMembers) (assetText (assetMembers ++ [noDetails])) ∧
    KeepsUndetailed bareAsset := by
  rcases absent_data_leaves_no_trace with
    ⟨⟨listed, rated, deposited⟩, _, ⟨nested, _⟩, alone, kept⟩
  have finite : (0.0 : Float).isFinite = true := by decide +kernel
  have readsBack : ReadsBack bareAsset.apy := by decide +kernel
  have absent : membersNamed "meta_info" assetMembers = [] := rfl
  have nothing : Undetailed assetMembers (assetMembers ++ [noDetails]) :=
    .given (List.append_nil _).symm rfl (.null _ rfl rfl)
  have within : Within assetFields assetMembers (assetMembers ++ [noDetails]) (Wire.shape Provider)
      (poolText assetMembers).value (poolText (assetMembers ++ [noDetails])).value :=
    .member (Or.inr (Or.inr (Or.inr (Or.inl ⟨rfl, rfl⟩)))) rfl (.item (.here _ _))
  refine ⟨⟨?_, ?_, ?_⟩, ?_, alone _ _ _ absent .missing nothing _ _ _ _ rfl rfl,
    kept bareAsset rfl readsBack⟩
  · refine listed _ ?_
    simpa [poolOf, pairedAsset, bareAsset] using finite
  · refine rated _ ?_
    simpa [bareAsset, Asset.rate] using finite
  · refine deposited _ ?_
    simpa [pairedAsset, bareAsset] using finite
  · have written : (poolText assetMembers).octets =
        Text.octets (Wire.encode (poolOf [bareAsset])) := by
      decide +kernel
    refine (nested _ _ _ absent .missing nothing _ _ within (poolOf [bareAsset])).mp ?_
    rw [written]
    refine Wire.roundTrips_of_shape (by decide) (by decide) (everyReal_provider fun asset held => ?_)
    exact List.mem_singleton.mp held ▸ readsBack

end LendingGateway
