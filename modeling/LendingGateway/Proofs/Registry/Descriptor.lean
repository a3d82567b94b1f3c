import Mathlib.Data.List.Permutation
import LendingGateway.Proofs.Json.Cutting
import LendingGateway.Proofs.Json.Readability
import LendingGateway.Proofs.Json.Tagging
import LendingGateway.Registry.Configuration

namespace LendingGateway
namespace Registry

open Json Lending Traversal

/-!
# Descriptors of providers

A provider describes itself in the body of an answer, which is read directly, or it is
described by an entry of the provider file, which is read as a tree first, because its kind
may be any of its members.  Either way the same text says the same, with one exception that
is the tree's: the type of the provider may be the key of an empty object there.
-/

/-- The descriptor of a provider is read with this many levels left in an entry. -/
def descriptorLimit : Nat := nestingLimit - 1

section Entries

variable {text entry : Input} {tree : Tree} {value : (Wire.shape Provider).Value}

theorem isContainer_of_ofTree (held : (Wire.shape Provider).ofTree tree = .ok value) :
    tree.isContainer = true := by
  cases tree with
  | list | object => rfl
  | null | boolean | number | text => cases held

theorem readVariantName_static (rest : Input) :
    readVariantName ["static", "remote"] (Text.octets "\"static\"" ++ rest) =
      .ok ("static", rest) := by
  have spelled : Text.octets "\"static\"" = 0x22 :: (escapedOctets "static" ++ [0x22]) :=
    octets_renderText "static"
  rw [spelled, List.cons_append, List.append_assoc]
  exact readVariantName_eq_ok_iff.mpr
    ⟨List.mem_cons_self, _, skipGap_cons (by decide) _, readText_escapedOctets "static" rest⟩

/-- The kind may stand before the descriptor or behind it. -/
theorem taggedPlaces_of_perm {gap : Input} {members : List (String × Input)}
    (order : members.Perm [("kind", Text.octets "\"static\""), ("provider", text)])
    (container : tree.isContainer = true)
    (read : Tree.read descriptorLimit text = .ok (tree, gap)) :
    TaggedPlaces "kind" ["static", "remote"] descriptorLimit "static" (placesOf [0x7d] members)
      [("provider", tree)] := by
  have described : ∀ rest, ReadAt descriptorLimit ("provider", text ++ rest) ("provider", tree) :=
    fun rest => ⟨rfl, gap ++ rest, readTree_append container read rest⟩
  have different : "provider" ≠ "kind" := by decide
  rcases List.perm_pair.mp order with rfl | rfl
  · refine .here (readVariantName_static _) ?_ (.cons (described _) .nil)
    intro other member
    obtain rfl := List.mem_singleton.mp member
    exact different
  · refine .there different (described _) (.here (readVariantName_static _) ?_ .nil)
    exact fun other member => absurd member List.not_mem_nil

/-- The deposits of an entry may be left out. -/
theorem ofTree_of_descriptor (title : String)
    (held : (Wire.shape Provider).ofTree tree = .ok value) :
    (Shape.record title (.cons "provider" .required (Wire.shape Provider) <|
      .cons "positions" .defaulted (Wire.shape Positions) .nil)).ofTree
        (.object [("provider", tree)]) = .ok (value, Dictionary.empty, ()) := by
  refine bind_eq_ok_iff.mpr ⟨(some value, none, ()), ?_, rfl⟩
  exact bind_eq_ok_iff.mpr ⟨(some value, none, ()), bind_eq_ok_iff.mpr ⟨value, held, rfl⟩, rfl⟩

theorem decode_entry_of_readTree {gap : Input} {members : List (String × Input)}
    (order : members.Perm [("kind", Text.octets "\"static\""), ("provider", text)])
    (read : Tree.read descriptorLimit text = .ok (tree, gap)) (blank : skipGap gap = [])
    (held : (Wire.shape Provider).ofTree tree = .ok value) :
    Wire.decode Entry (objectText members) =
      .ok (.catalog (Wire.ofValue value) Dictionary.empty) := by
  have container := isContainer_of_ofTree held
  have values : ∀ member ∈ members, ∃ gap, IsValue member.2 gap := by
    intro member found
    rcases List.mem_pair.mp (order.mem_iff.mp found) with rfl | rfl
    · exact ⟨[], isValue_renderText "static"⟩
    · exact ⟨gap, isValue_of_readTree container read blank⟩
  rcases objectPlaces_objectText values with ⟨inner, same, marks⟩
  have starts : skipGap (objectText members) = 0x7b :: inner := by
    rw [same]
    exact skipGap_cons (by decide) inner
  have tagged : ∀ title, readTagged title "kind" ["static", "remote"] nestingLimit
      (objectText members) = .ok (("static", .object [("provider", tree)]), []) := fun title =>
    (readTagged_object_iff_places starts).mpr
      ⟨descriptorLimit, _, _, rfl, marks, taggedPlaces_of_perm order container read, rfl⟩
  refine Wire.decode_eq_ok_iff.mpr ⟨.inl (value, Dictionary.empty, ()), ?_, rfl⟩
  refine Shape.parse_eq_ok_iff.mpr ⟨[], Shape.read_tagged_eq_ok_iff.mpr ?_, rfl⟩
  exact ⟨"static", _, tagged _,
    Variants.ofTree_more_inl_iff.mpr ⟨rfl, ofTree_of_descriptor _ held⟩⟩

theorem exists_descriptor_of_entry {provider : Provider} {positions : Positions}
    (decoded : Wire.decode Entry entry = .ok (.catalog provider positions))
    (object : (skipGap entry).head? = some 0x7b) :
    ∃ text tree value, memberText "provider" entry = some text ∧
      Tree.read descriptorLimit text = .ok (tree, []) ∧
        (Wire.shape Provider).ofTree tree = .ok value ∧ Wire.ofValue value = provider := by
  rcases Wire.decode_eq_ok_iff.mp decoded with ⟨found, parsed, same⟩
  rcases Shape.parse_eq_ok_iff.mp parsed with ⟨rest, read, _⟩
  rcases Shape.read_tagged_eq_ok_iff.mp read with ⟨name, members, tagged, variant⟩
  rcases List.head?_eq_some_iff.mp object with ⟨inner, starts⟩
  rcases (readTagged_object_iff_places starts).mp tagged with
    ⟨below, places, members, level, marks, tagged, rfl⟩
  obtain rfl : below = descriptorLimit := Nat.succ.inj level.symm
  cases found with
  | inr values => cases same
  | inl values =>
    rcases values with ⟨value, deposits, _⟩
    cases same
    rcases Variants.ofTree_more_inl_iff.mp variant with ⟨_, record⟩
    rcases Shape.lookup_of_record record with ⟨tree, key, held⟩
    rcases tagged.hasPlace (by decide) tree key with ⟨place, last, found, described⟩
    refine ⟨valueText place, tree, value, ?_, ?_, held, rfl⟩
    · rw [memberText, membersOf_eq starts marks, found]
      rfl
    · exact readTree_valueText (isContainer_of_ofTree held) described

end Entries

/-- The two ways of reading a descriptor agree.  Whatever is read directly and has no unknown
members is read from an entry, with its kind before or behind it.  Whatever is read from an
entry in the form of an object is also read directly, and as nothing else, unless its type is
the key of an empty object. -/
theorem descriptor_readings_agree :
    (∀ (text : Input) (provider : Provider), Wire.decode Provider text = .ok provider →
      (Wire.shape Provider).knows text = true →
        ∀ members : List (String × Input),
          members.Perm [("kind", Text.octets "\"static\""), ("provider", text)] →
            Wire.decode Entry (objectText members) = .ok (.catalog provider Dictionary.empty)) ∧
    (∀ (entry : Input) (provider : Provider) (positions : Positions),
      Wire.decode Entry entry = .ok (.catalog provider positions) →
        (skipGap entry).head? = some 0x7b →
          ∃ text, memberText "provider" entry = some text ∧
            ∀ other, Wire.decode Provider text = .ok other ↔
              other = provider ∧ (Wire.shape Provider).plainText text = true) := by
  constructor
  · intro text provider decoded knows members order
    rcases Wire.decode_eq_ok_iff.mp decoded with ⟨value, parsed, rfl⟩
    rcases Shape.exists_tree_of_parse rfl (by decide) (Nat.sub_le nestingLimit 1) parsed knows with
      ⟨tree, gap, read, blank, held⟩
    exact decode_entry_of_readTree order read blank held
  · intro entry provider positions decoded object
    rcases exists_descriptor_of_entry decoded object with
      ⟨text, tree, value, found, read, held, rfl⟩
    refine ⟨text, found, fun other => ?_⟩
    have alone : ∀ direct, (Wire.shape Provider).parse text = .ok direct ↔
        (Wire.shape Provider).ofTree tree = .ok direct ∧
          (Wire.shape Provider).plainText text = true :=
      Shape.parse_iff_of_readTree rfl (Nat.sub_le nestingLimit 1) read
    rw [Wire.decode_eq_ok_iff]
    constructor
    · rintro ⟨direct, parsed, rfl⟩
      rcases (alone direct).mp parsed with ⟨same, plain⟩
      rw [held] at same
      cases same
      exact ⟨rfl, plain⟩
    · rintro ⟨rfl, plain⟩
      exact ⟨value, (alone value).mpr ⟨held, plain⟩, rfl⟩

/-- A descriptor with its members in an order of its own and with records in the form of
lists. -/
def stakingText : Input :=
  Text.octets <|
    "\x7b \"type\": \"staking\", \"assets\": [[\"ATOM\", \"\", 2, 0, 60, \"\", \"\"]], "
      ++ "\"info\": [\"s\", \"\", \"\", \"\"], \"id\": \"s\" \x7d "

def stakingProvider : Provider :=
  ⟨"s", ⟨"s", "", "", ""⟩, .staking,
    [⟨"ATOM", "", (Numeral.integer 2).toReal, 0, 60, "", "", ⟨none⟩⟩]⟩

theorem descriptor_readings_agree_staking :
    (Wire.decode Provider stakingText = .ok stakingProvider ∧
      (Wire.shape Provider).knows stakingText = true ∧
        Wire.decode Entry
          (objectText [("provider", stakingText), ("kind", Text.octets "\"static\"")]) =
            .ok (.catalog stakingProvider Dictionary.empty)) ∧
    ∃ text, memberText "provider"
      (objectText [("provider", stakingText), ("kind", Text.octets "\"static\"")]) = some text ∧
        ∀ other, Wire.decode Provider text = .ok other ↔
          other = stakingProvider ∧ (Wire.shape Provider).plainText text = true := by
  have decoded : Wire.decode Provider stakingText = .ok stakingProvider := rfl
  have knows : (Wire.shape Provider).knows stakingText = true := by decide +kernel
  have entry := descriptor_readings_agree.1 stakingText stakingProvider decoded knows
    [("provider", stakingText), ("kind", Text.octets "\"static\"")] (.swap _ _ _)
  exact ⟨⟨decoded, knows, entry⟩, descriptor_readings_agree.2 _ _ _ entry rfl⟩

/-- The type of this descriptor is the key of an empty object. -/
def emptyObjectText : Input :=
  Text.octets
    "\x7b\"id\":\"p\",\"info\":[\"p\",\"\",\"\",\"\"],\"type\":\x7b\"lending\":\x7b\x7d\x7d,\"assets\":[]\x7d"

/-- An entry with such a descriptor is read, but its descriptor alone is not. -/
theorem emptyObject_not_read_directly :
    Wire.decode Entry
      (objectText [("kind", Text.octets "\"static\""), ("provider", emptyObjectText)]) =
        .ok (.catalog ⟨"p", ⟨"p", "", "", ""⟩, .lending, []⟩ Dictionary.empty) ∧
    memberText "provider"
      (objectText [("kind", Text.octets "\"static\""), ("provider", emptyObjectText)]) =
        some emptyObjectText ∧
    Wire.decode Provider emptyObjectText = .error ⟨.wrongType .map .unit, [.key "type"]⟩ := by
  refine ⟨rfl, ?_, rfl⟩
  decide +kernel

end Registry
end LendingGateway
