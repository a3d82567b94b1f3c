import LendingGateway.Json.Decode
import LendingGateway.Json.Encode
import LendingGateway.Proofs.Json.Numbers

namespace LendingGateway
namespace Json

open Traversal

/-!
# A value out of its own tree

The tree of a value holds all of it, provided the shape is well formed: no key, name or tag
occurs twice where one has to be told from the other, and null stands for nothing but the
absence of a value.  Reading the tree of a record fills its fields one after the other; a
field that was left out because it said nothing gets the value that says nothing.
-/

/-! ## Well-formed shapes -/

mutual

/-- Whether the values of a shape can be told apart by their trees. -/
def Shape.wellFormed : Shape → Bool
  | .text | .real | .int64 | .nat64 => true
  | .optional (.optional _) => false
  | .optional inner => inner.wellFormed
  | .list item => item.wellFormed
  | .choice first others => decide (first :: others).Nodup
  | .dictionary entry => entry.wellFormed
  | .record _ fields => fields.wellFormed
  | .tagged _ tag variants => variants.wellFormed tag

/-- Whether the keys of a record are distinct, and the shapes of its fields well formed. -/
def Fields.wellFormed : Fields → Bool
  | .nil => true
  | .cons key _ shape rest => decide (key ∉ rest.keys) && shape.wellFormed && rest.wellFormed

/-- Whether the names of variants are distinct, and none of their fields has the key of the
tag. -/
def Variants.wellFormed (tag : String) : Variants → Bool
  | .one _ _ fields => decide (tag ∉ fields.keys) && fields.wellFormed
  | .more name _ fields rest =>
    decide (tag ∉ fields.keys) && fields.wellFormed && decide (name ∉ rest.names)
      && rest.wellFormed tag

end

/-! ## Names and tags -/

theorem chooseName_get {first : String} {others : List String} (distinct : (first :: others).Nodup)
    (position : Fin (others.length + 1)) :
    chooseName first others ((first :: others).get position) = .ok position := by
  have found : (first :: others).finIdxOf? ((first :: others).get position) = some position := by
    rw [List.finIdxOf?_eq_some_iff]
    refine ⟨rfl, ?_⟩
    intro earlier before same
    have equal : earlier.val = position.val := (List.getElem_inj distinct).mp same
    exact absurd (Fin.ext equal) (Fin.ne_of_lt before)
  rw [chooseName, found]

theorem splitTag_others {tag name : String} {names : List String}
    {members : List (String × Tree)} (other : ∀ entry ∈ members, entry.1 ≠ tag)
    (done : List (String × Tree)) :
    splitTag tag names (some name) done members = .ok (name, done.reverse ++ members) := by
  induction members generalizing done with
  | nil =>
    rw [List.append_nil]
    rfl
  | cons entry members inductionHypothesis =>
    rw [List.forall_mem_cons] at other
    rw [splitTag, if_neg other.1, inductionHypothesis other.2, List.reverse_cons,
      List.append_assoc]
    rfl

/-! ## Dictionaries -/

theorem setEntry_fresh {α : Type} {key : String} {entries : List (String × α)}
    (fresh : key ∉ entries.map Prod.fst) (value : α) :
    setEntry key value entries = entries ++ [(key, value)] := by
  induction entries with
  | nil => rfl
  | cons entry entries inductionHypothesis =>
    rcases entry with ⟨other, held⟩
    rw [List.map_cons, List.mem_cons, not_or] at fresh
    rw [setEntry, if_neg (Ne.symm fresh.1), inductionHypothesis fresh.2]
    rfl

/-- Entries under fresh keys are added at the end, one after the other. -/
theorem foldlM_insert {α : Type} {write : α → Tree} {back : Tree → Except Cause α}
    {entries : List (String × α)} (undo : ∀ entry ∈ entries, back (write entry.2) = .ok entry.2) :
    ∀ dictionary : Dictionary α, ((dictionary.entries ++ entries).map Prod.fst).Nodup →
      ∃ result, result.entries = dictionary.entries ++ entries ∧
        (entries.map fun (key, value) => (key, write value)).foldlM
          (fun dictionary (key, tree) => do
            let value ← back tree
            .ok (dictionary.insert key value)) dictionary = .ok result := by
  induction entries with
  | nil => exact fun dictionary _ => ⟨dictionary, (List.append_nil _).symm, rfl⟩
  | cons entry entries inductionHypothesis =>
    intro dictionary distinct
    have fresh : entry.1 ∉ dictionary.entries.map Prod.fst := by
      rw [List.map_append, List.map_cons] at distinct
      intro member
      exact (List.nodup_append.mp distinct).2.2 entry.1 member entry.1 List.mem_cons_self rfl
    have added : (dictionary.insert entry.1 entry.2).entries = dictionary.entries ++ [entry] :=
      setEntry_fresh fresh entry.2
    have same : (dictionary.insert entry.1 entry.2).entries ++ entries =
        dictionary.entries ++ entry :: entries := by
      rw [added, List.append_assoc]
      rfl
    rw [List.forall_mem_cons] at undo
    rcases inductionHypothesis undo.2 (dictionary.insert entry.1 entry.2) (same ▸ distinct) with
      ⟨result, held, folded⟩
    refine ⟨result, held.trans same, ?_⟩
    rw [List.map_cons, List.foldlM_cons]
    change ((back (write entry.2) >>= fun value =>
      .ok (dictionary.insert entry.1 value)) >>= _) = _
    rw [undo.1]
    exact folded

/-! ## Records -/

/-- The slots of a record after its members have been read. -/
def Fields.slotsOf : (fields : Fields) → fields.Value → fields.Slots
  | .nil, _ => ()
  | .cons _ presence shape rest, (value, values) =>
    (if presence = .elided ∧ shape.isBlank value = true then none else some value,
      rest.slotsOf values)

theorem Fields.fill_slotsOf : (fields : Fields) → (values : fields.Value) →
    fields.fill (fields.slotsOf values) = .ok values
  | .nil, _ => rfl
  | .cons key presence shape rest, (value, values) => by
    have later := Fields.fill_slotsOf rest values
    rw [Fields.slotsOf]
    split
    · rename_i blank
      rcases blank with ⟨rfl, nothing⟩
      rw [Shape.eq_blank_of_isBlank shape value nothing, Fields.fill, later]
      rfl
    · rw [Fields.fill, later]
      rfl

theorem Fields.key_mem_of_toMembers : (fields : Fields) → (values : fields.Value) →
    ∀ entry ∈ fields.toMembers values, entry.1 ∈ fields.keys
  | .nil, _ => fun _ member => nomatch member
  | .cons key presence shape rest, (value, values) => by
    intro entry member
    have later := Fields.key_mem_of_toMembers rest values entry
    rw [Fields.toMembers] at member
    split at member
    · exact List.mem_cons_of_mem key (later member)
    · rcases List.mem_cons.mp member with first | member
      · exact first ▸ List.mem_cons_self
      · exact List.mem_cons_of_mem key (later member)

/-- A key that no field has is the key of no member. -/
theorem Fields.ne_of_mem_toMembers {fields : Fields} {key : String} (fresh : key ∉ fields.keys)
    (values : fields.Value) : ∀ entry ∈ fields.toMembers values, entry.1 ≠ key := by
  intro entry member same
  exact fresh (same ▸ Fields.key_mem_of_toMembers fields values entry member)

/-- Place a member into the slots of a record. -/
def Fields.stepTree (fields : Fields) (slots : fields.Slots) (entry : String × Tree) :
    Except Cause fields.Slots :=
  fields.placeTree entry.1 entry.2 slots

/-- Members of other keys leave a field as it is. -/
theorem Fields.foldlM_stepTree_cons {key : String} {presence : Presence} {shape : Shape}
    {rest : Fields} {members : List (String × Tree)} (other : ∀ entry ∈ members, entry.1 ≠ key)
    (slot : Option shape.Value) {slots next : rest.Slots}
    (folded : members.foldlM rest.stepTree slots = .ok next) :
    members.foldlM (Fields.cons key presence shape rest).stepTree (slot, slots) =
      .ok (slot, next) := by
  induction members generalizing slots with
  | nil =>
    cases folded
    rfl
  | cons entry members inductionHypothesis =>
    rw [List.foldlM_cons] at folded
    rcases bind_eq_ok_iff.mp folded with ⟨between, placed, folded⟩
    rw [List.forall_mem_cons] at other
    have stepped : (Fields.cons key presence shape rest).stepTree (slot, slots) entry =
        .ok (slot, between) := by
      unfold stepTree at placed ⊢
      unfold placeTree
      rw [if_neg other.1, placed]
      rfl
    rw [List.foldlM_cons, stepped]
    exact inductionHypothesis other.2 folded

/-! ## The value of a tree -/

/-- The tree of a value that may be absent is null only if it is. -/
theorem Shape.toTree_ne_null {shape : Shape} (value : shape.Value)
    (present : ∀ inner, shape ≠ .optional inner) : shape.toTree value ≠ .null := by
  intro impossible
  cases shape with
  | optional inner => exact present inner rfl
  | text | real | int64 | nat64 | list | choice | dictionary | record | tagged =>
    simp only [Shape.toTree, reduceCtorEq] at impossible

theorem Shape.wellFormed_optional {inner : Shape}
    (formed : (Shape.optional inner).wellFormed = true) :
    (∀ other, inner ≠ .optional other) ∧ inner.wellFormed = true := by
  cases inner with
  | optional other => cases formed
  | text | real | int64 | nat64 | list | choice | dictionary | record | tagged =>
    exact ⟨fun _ impossible => (nomatch impossible), formed⟩

theorem Shape.ofTree_optional {inner : Shape} {tree : Tree} (present : tree ≠ .null) :
    (Shape.optional inner).ofTree tree = (do
      let value ← inner.ofTree tree
      .ok (some value)) := by
  cases tree with
  | null => exact absurd rfl present
  | boolean | number | text | list | object => rfl

theorem Fields.wellFormed_cons {key : String} {presence : Presence} {shape : Shape} {rest : Fields}
    (formed : (Fields.cons key presence shape rest).wellFormed = true) :
    key ∉ rest.keys ∧ shape.wellFormed = true ∧ rest.wellFormed = true := by
  rw [Fields.wellFormed, Bool.and_eq_true, Bool.and_eq_true, decide_eq_true_eq] at formed
  exact ⟨formed.1.1, formed.1.2, formed.2⟩

theorem Fields.recordOfTree_toMembers {fields : Fields} {values : fields.Value}
    (folded : (fields.toMembers values).foldlM fields.stepTree fields.noSlots =
      .ok (fields.slotsOf values))
    (title : String) (ofItems : List Tree → Except Cause fields.Value) :
    recordOfTree title fields.placeTree fields.fill ofItems fields.noSlots
      (.object (fields.toMembers values)) = .ok values := by
  change ((fields.toMembers values).foldlM fields.stepTree fields.noSlots >>= fields.fill) = _
  rw [folded]
  exact Fields.fill_slotsOf fields values

mutual

/-- The tree of a value has this value. -/
theorem Shape.ofTree_toTree : (shape : Shape) → shape.wellFormed = true →
    (value : shape.Value) → shape.ofTree (shape.toTree value) = .ok value
  | .text, _, _ => rfl
  | .real, _, _ => rfl
  | .int64, _, number => toInt64_integer number
  | .nat64, _, number => toUInt64_integer number
  | .optional inner, formed, held => by
    rcases Shape.wellFormed_optional formed with ⟨single, formed⟩
    cases held with
    | none => rfl
    | some value =>
      change (Shape.optional inner).ofTree (inner.toTree value) = _
      rw [Shape.ofTree_optional (Shape.toTree_ne_null value single),
        Shape.ofTree_toTree inner formed value]
      rfl
  | .list item, formed, items => by
    have each : ∀ value ∈ items, item.ofTree (item.toTree value) = .ok value :=
      fun value _ => Shape.ofTree_toTree item formed value
    change (items.map item.toTree).mapM item.ofTree = .ok items
    rw [mapM_eq_ok_iff, List.forall₂_map_left_iff, List.forall₂_same]
    exact each
  | .choice first others, formed, position => by
    rw [Shape.wellFormed, decide_eq_true_eq] at formed
    exact chooseName_get formed position
  | .dictionary entry, formed, entries => by
    have undo : ∀ member ∈ entries.entries, entry.ofTree (entry.toTree member.2) = .ok member.2 :=
      fun member _ => Shape.ofTree_toTree entry formed member.2
    rcases foldlM_insert undo Dictionary.empty entries.distinct with ⟨result, held, folded⟩
    have same : result = entries := Dictionary.ext held
    exact same ▸ folded
  | .record title fields, formed, values =>
    Fields.recordOfTree_toMembers (Fields.foldlM_stepTree fields formed values) title _
  | .tagged title tag variants, formed, value => by
    rcases Variants.ofTree_toMembers tag variants formed value with
      ⟨name, body, written, known, untagged, read⟩
    have divided : splitTag tag variants.names none [] ((tag, .text name) :: body) =
        .ok (name, body) := by
      rw [splitTag, if_pos rfl, if_pos known, splitTag_others untagged]
      rfl
    change (splitTag tag variants.names none [] (variants.toMembers tag value) >>= fun parts =>
      variants.ofTree parts.1 (.object parts.2)) = _
    rw [written, divided]
    exact read

/-- The members of a record fill its slots. -/
theorem Fields.foldlM_stepTree : (fields : Fields) → fields.wellFormed = true →
    (values : fields.Value) →
      (fields.toMembers values).foldlM fields.stepTree fields.noSlots = .ok (fields.slotsOf values)
  | .nil, _, _ => rfl
  | .cons key presence shape rest, formed, (value, values) => by
    rcases Fields.wellFormed_cons formed with ⟨fresh, formedShape, formedRest⟩
    have folded := Fields.foldlM_stepTree rest formedRest values
    have other := Fields.ne_of_mem_toMembers fresh values
    rw [Fields.toMembers, Fields.slotsOf]
    split
    · exact Fields.foldlM_stepTree_cons other none folded
    · have placed : (Fields.cons key presence shape rest).stepTree (none, rest.noSlots)
          (key, shape.toTree value) = .ok (some value, rest.noSlots) := by
        unfold Fields.stepTree Fields.placeTree
        rw [if_pos rfl, Shape.ofTree_toTree shape formedShape value]
        rfl
      rw [List.foldlM_cons, Fields.noSlots, placed]
      exact Fields.foldlM_stepTree_cons other (some value) folded

/-- A variant is found again by its name among its members. -/
theorem Variants.ofTree_toMembers (tag : String) : (variants : Variants) →
    variants.wellFormed tag = true → (value : variants.Value) →
      ∃ name body, variants.toMembers tag value = (tag, .text name) :: body ∧
        name ∈ variants.names ∧ (∀ entry ∈ body, entry.1 ≠ tag) ∧
          variants.ofTree name (.object body) = .ok value
  | .one name title fields, formed, values => by
    rw [Variants.wellFormed, Bool.and_eq_true, decide_eq_true_eq] at formed
    rcases formed with ⟨untagged, formed⟩
    refine ⟨name, fields.toMembers values, rfl, List.mem_singleton.mpr rfl,
      Fields.ne_of_mem_toMembers untagged values, ?_⟩
    exact Fields.recordOfTree_toMembers (Fields.foldlM_stepTree fields formed values) title _
  | .more name title fields rest, formed, .inl values => by
    rw [Variants.wellFormed, Bool.and_eq_true, Bool.and_eq_true, Bool.and_eq_true,
      decide_eq_true_eq] at formed
    rcases formed with ⟨⟨⟨untagged, formed⟩, _⟩, _⟩
    refine ⟨name, fields.toMembers values, rfl, List.mem_cons_self,
      Fields.ne_of_mem_toMembers untagged values, ?_⟩
    have read := Fields.recordOfTree_toMembers (Fields.foldlM_stepTree fields formed values) title
      (fields.ofItems title fields.count 0)
    rw [Variants.ofTree, if_pos rfl, read]
    rfl
  | .more name title fields rest, formed, .inr value => by
    rw [Variants.wellFormed, Bool.and_eq_true, Bool.and_eq_true, decide_eq_true_eq] at formed
    rcases formed with ⟨⟨_, fresh⟩, formed⟩
    rcases Variants.ofTree_toMembers tag rest formed value with
      ⟨chosen, body, written, known, untagged, read⟩
    refine ⟨chosen, body, written, List.mem_cons_of_mem name known, untagged, ?_⟩
    have different : chosen ≠ name := fun same => fresh (same ▸ known)
    rw [Variants.ofTree, if_neg different, read]
    rfl

end

end Json
end LendingGateway
