import LendingGateway.Json.Wire
import LendingGateway.Proofs.Json.Trees
import LendingGateway.Proofs.Json.Values

namespace LendingGateway
namespace Json

open Traversal

/-!
# Reading what was written

Reading the text of a value by its shape gives the value back.  The direct reader goes
along the members of a record as the reader of trees does, so what is known of the latter
carries over member by member.  Only tagged records are read as trees first.
-/

/-! ## Depth and reals of a value -/

mutual

/-- How many containers the values of a shape nest at most. -/
def Shape.depth : Shape → Nat
  | .text | .real | .int64 | .nat64 | .choice _ _ => 0
  | .optional inner => inner.depth
  | .list item => item.depth + 1
  | .dictionary entry => entry.depth + 1
  | .record _ fields => fields.depth + 1
  | .tagged _ _ variants => variants.depth + 1

def Fields.depth : Fields → Nat
  | .nil => 0
  | .cons _ _ shape rest => max shape.depth rest.depth

def Variants.depth : Variants → Nat
  | .one _ _ fields => fields.depth
  | .more _ _ fields rest => max fields.depth rest.depth

end

mutual

/-- Every real in a value has a property. -/
def Shape.EveryReal (holds : Float → Prop) : (shape : Shape) → shape.Value → Prop
  | .real, (real : Float) => holds real
  | .optional inner, held => ∀ value, held = some value → inner.EveryReal holds value
  | .list item, items => ∀ value ∈ items, item.EveryReal holds value
  | .dictionary entry, entries => ∀ held ∈ entries.entries, entry.EveryReal holds held.2
  | .record _ fields, values => fields.EveryReal holds values
  | .tagged _ _ variants, value => variants.EveryReal holds value
  | .text, _ | .int64, _ | .nat64, _ | .choice _ _, _ => True

def Fields.EveryReal (holds : Float → Prop) : (fields : Fields) → fields.Value → Prop
  | .nil, _ => True
  | .cons _ _ shape rest, (value, values) =>
    shape.EveryReal holds value ∧ rest.EveryReal holds values

def Variants.EveryReal (holds : Float → Prop) : (variants : Variants) → variants.Value → Prop
  | .one _ _ fields, values => fields.EveryReal holds values
  | .more _ _ fields rest, value =>
    match value with
    | .inl values => fields.EveryReal holds values
    | .inr value => rest.EveryReal holds value

end

mutual

/-- Whether the values of a shape hold reals. -/
def Shape.hasReal : Shape → Bool
  | .real => true
  | .text | .int64 | .nat64 | .choice _ _ => false
  | .optional inner => inner.hasReal
  | .list item => item.hasReal
  | .dictionary entry => entry.hasReal
  | .record _ fields => fields.hasReal
  | .tagged _ _ variants => variants.hasReal

def Fields.hasReal : Fields → Bool
  | .nil => false
  | .cons _ _ shape rest => shape.hasReal || rest.hasReal

def Variants.hasReal : Variants → Bool
  | .one _ _ fields => fields.hasReal
  | .more _ _ fields rest => fields.hasReal || rest.hasReal

end

section EveryReal

variable {holds : Float → Prop}

mutual

/-- A value holds nothing but reals that have a property if all of them do, or if it holds
none. -/
theorem Shape.everyReal_of_forall : (shape : Shape) →
    (shape.hasReal = true → ∀ real, holds real) → (value : shape.Value) →
      shape.EveryReal holds value
  | .real, each, real => each rfl real
  | .text, _, _ => trivial
  | .int64, _, _ => trivial
  | .nat64, _, _ => trivial
  | .choice _ _, _, _ => trivial
  | .optional inner, each, _ => fun value _ => Shape.everyReal_of_forall inner each value
  | .list item, each, _ => fun value _ => Shape.everyReal_of_forall item each value
  | .dictionary entry, each, _ => fun held _ => Shape.everyReal_of_forall entry each held.2
  | .record _ fields, each, values => Fields.everyReal_of_forall fields each values
  | .tagged _ _ variants, each, value => Variants.everyReal_of_forall variants each value

theorem Fields.everyReal_of_forall : (fields : Fields) →
    (fields.hasReal = true → ∀ real, holds real) → (values : fields.Value) →
      fields.EveryReal holds values
  | .nil, _, _ => trivial
  | .cons _ _ shape rest, each, (value, values) => by
    rw [Fields.hasReal, Bool.or_eq_true] at each
    exact ⟨Shape.everyReal_of_forall shape (each ∘ Or.inl) value,
      Fields.everyReal_of_forall rest (each ∘ Or.inr) values⟩

theorem Variants.everyReal_of_forall : (variants : Variants) →
    (variants.hasReal = true → ∀ real, holds real) → (value : variants.Value) →
      variants.EveryReal holds value
  | .one _ _ fields, each, values => Fields.everyReal_of_forall fields each values
  | .more _ _ fields rest, each, .inl values => by
    rw [Variants.hasReal, Bool.or_eq_true] at each
    exact Fields.everyReal_of_forall fields (each ∘ Or.inl) values
  | .more _ _ fields rest, each, .inr value => by
    rw [Variants.hasReal, Bool.or_eq_true] at each
    exact Variants.everyReal_of_forall rest (each ∘ Or.inr) value

end

theorem Shape.everyReal_of_none {shape : Shape} (unreal : shape.hasReal = false)
    (value : shape.Value) : shape.EveryReal holds value :=
  Shape.everyReal_of_forall shape
    (fun impossible => absurd (unreal.symm.trans impossible) Bool.false_ne_true) value

end EveryReal

theorem legible_int64 (number : Int64) : Numeral.Legible (.integer number.toInt) :=
  readNumeral_integer number.minValue_le_toInt (Int.lt_of_le_of_lt number.toInt_le (by decide))

theorem legible_nat64 (number : UInt64) : Numeral.Legible (.integer number.toNat) :=
  readNumeral_integer (Int.le_trans (by decide) (Int.natCast_nonneg _))
    (Int.ofNat_lt.mpr number.toNat_lt_size)

/-- Where a container fits, there is a level left for what it contains. -/
theorem exists_level {inner depth : Nat} (enough : inner + 1 ≤ depth) :
    ∃ below, depth = below + 1 ∧ inner ≤ below := by
  cases depth with
  | zero => exact absurd enough (Nat.not_succ_le_zero inner)
  | succ below => exact ⟨below, rfl, Nat.le_of_succ_le_succ enough⟩

/-- Integers are restored as they were, and a real with a property as what its text is read
as. -/
structure Restores (restore : Numeral → Tree) (holds : Float → Prop) : Prop where
  integer : ∀ value, restore (.integer value) = .number (.integer value)
  real : ∀ real, holds real → (Numeral.real real).ReadsAs (restore (.real real))

/-- What reads back is restored as it was. -/
theorem restores_number : Restores .number ReadsBack :=
  ⟨fun _ => rfl, fun _ readsBack => .number (readNumeral_real readsBack)⟩

section Legibility

variable {restore : Numeral → Tree} {holds : Float → Prop}

theorem Restores.readsAs (restores : Restores restore holds) {value : Int}
    (legible : Numeral.Legible (.integer value)) :
    (Numeral.integer value).ReadsAs (restore (.integer value)) :=
  restores.integer value ▸ .number legible

mutual

/-- The tree of a value is legible if its reals are. -/
theorem Shape.legible_toTree (restores : Restores restore holds) : (shape : Shape) →
    {depth : Nat} → shape.depth ≤ depth → (value : shape.Value) → shape.EveryReal holds value →
      (shape.toTree value).Legible restore depth
  | .text, depth, _, text, _ => .text depth text
  | .real, depth, _, real, each => .number depth (restores.real real each)
  | .int64, depth, _, number, _ => .number depth (restores.readsAs (legible_int64 number))
  | .nat64, depth, _, number, _ => .number depth (restores.readsAs (legible_nat64 number))
  | .optional inner, depth, enough, held, each => by
    cases held with
    | none => exact .null depth
    | some value => exact Shape.legible_toTree restores inner enough value (each value rfl)
  | .list item, depth, enough, items, each => by
    rcases exists_level enough with ⟨depth, rfl, fits⟩
    apply Tree.Legible.list
    intro tree member
    rcases List.mem_map.mp member with ⟨value, held, rfl⟩
    exact Shape.legible_toTree restores item fits value (each value held)
  | .choice first others, depth, _, _, _ => .text depth _
  | .dictionary entry, depth, enough, entries, each => by
    rcases exists_level enough with ⟨depth, rfl, fits⟩
    apply Tree.Legible.object
    intro member held
    rcases List.mem_map.mp held with ⟨⟨key, value⟩, found, rfl⟩
    exact Shape.legible_toTree restores entry fits value (each _ found)
  | .record _ fields, depth, enough, values, each => by
    rcases exists_level enough with ⟨depth, rfl, fits⟩
    exact .object (Fields.legible_toMembers restores fields fits values each)
  | .tagged _ tag variants, depth, enough, value, each => by
    rcases exists_level enough with ⟨depth, rfl, fits⟩
    exact .object (Variants.legible_toMembers restores tag variants fits value each)

/-- The members of a record are legible. -/
theorem Fields.legible_toMembers (restores : Restores restore holds) : (fields : Fields) →
    {depth : Nat} → fields.depth ≤ depth → (values : fields.Value) →
    fields.EveryReal holds values →
      ∀ entry ∈ fields.toMembers values, entry.2.Legible restore depth
  | .nil, _, _, _, _ => fun _ member => nomatch member
  | .cons key presence shape rest, depth, enough, (value, values), each => by
    have later := Fields.legible_toMembers restores rest
      (Nat.le_trans (Nat.le_max_right _ _) enough) values each.2
    rw [Fields.toMembers]
    split
    · exact later
    · intro entry member
      rcases List.mem_cons.mp member with first | member
      · rw [first]
        exact Shape.legible_toTree restores shape (Nat.le_trans (Nat.le_max_left _ _) enough)
          value each.1
      · exact later entry member

theorem Variants.legible_toMembers (restores : Restores restore holds) (tag : String) :
    (variants : Variants) → {depth : Nat} → variants.depth ≤ depth →
    (value : variants.Value) → variants.EveryReal holds value →
      ∀ entry ∈ variants.toMembers tag value, entry.2.Legible restore depth
  | .one name _ fields, depth, enough, values, each => by
    intro entry member
    rcases List.mem_cons.mp member with first | member
    · exact first ▸ .text depth name
    · exact Fields.legible_toMembers restores fields enough values each entry member
  | .more name _ fields rest, depth, enough, .inl values, each => by
    intro entry member
    rcases List.mem_cons.mp member with first | member
    · exact first ▸ .text depth name
    · exact Fields.legible_toMembers restores fields (Nat.le_trans (Nat.le_max_left _ _) enough)
        values each entry member
  | .more _ _ _ rest, depth, enough, .inr value, each =>
    Variants.legible_toMembers restores tag rest (Nat.le_trans (Nat.le_max_right _ _) enough)
      value each

end

end Legibility

/-! ## Scalars -/

theorem readNumber_of_legible {α : Type} {wanted : Wanted} (convert : Numeral → Except Cause α)
    {number : Numeral} {value : α} (legible : number.Legible)
    (meant : convert number = .ok value) {rest : Input} (delimited : Delimited rest) :
    readNumber wanted convert (Text.octets (renderNumeral number) ++ rest) = .ok (value, rest) := by
  rcases legible.head with ⟨octet, others, written, begins⟩
  have read := legible.read delimited
  rw [written, List.cons_append] at read ⊢
  rw [readNumber, skipGap_cons (number_head begins).1]
  dsimp only
  rw [if_pos begins, read]
  change (convert number >>= fun value => .ok (value, rest)) = _
  rw [meant]
  rfl

theorem readString_text (wanted : Wanted) (text : String) (rest : Input) :
    readString wanted (Text.octets (Tree.text text).render ++ rest) = .ok (text, rest) := by
  rw [octets_render_text]
  exact readText_escapedOctets text rest

theorem readChoice_text {first : String} {others : List String} {name : String}
    {position : Fin (others.length + 1)} (chosen : chooseName first others name = .ok position)
    (depth : Nat) (rest : Input) :
    readChoice first others depth (Text.octets (Tree.text name).render ++ rest) =
      .ok (position, rest) := by
  rw [octets_render_text]
  change (readText (escapedOctets name ++ 0x22 :: rest) >>= fun read =>
    chooseName first others read.1 >>= fun position => .ok (position, read.2)) = _
  rw [readText_escapedOctets]
  change (chooseName first others name >>= fun position => .ok (position, rest)) = _
  rw [chosen]
  rfl

theorem Shape.read_optional {inner : Shape} {depth : Nat} {octet : UInt8} {others : Input}
    (solid : isGap octet = false) (present : octet ≠ 0x6e) :
    (Shape.optional inner).read depth (octet :: others) = (do
      let (value, rest) ← inner.read depth (octet :: others)
      .ok (some value, rest)) := by
  rw [Shape.read, skipGap_cons solid]
  split
  · rename_i same
    exact absurd (List.cons.inj same).1 present
  · rfl

/-! ## Tagged records -/

/-- Gather a member of a tagged record: its tag, or one of the others. -/
def tagStep (tag : String) (gathered : Option String × List (String × Tree))
    (entry : String × Tree) : Except Cause (Option String × List (String × Tree)) :=
  if entry.1 = tag then
    match gathered.1, entry.2 with
    | none, .text name => .ok (some name, gathered.2)
    | _, _ => .error (.duplicateField tag)
  else .ok (gathered.1, entry :: gathered.2)

theorem foldlM_tagStep {tag : String} {members : List (String × Tree)}
    (other : ∀ entry ∈ members, entry.1 ≠ tag) (name? : Option String)
    (done : List (String × Tree)) :
    members.foldlM (tagStep tag) (name?, done) = .ok (name?, members.reverse ++ done) := by
  induction members generalizing done with
  | nil => rfl
  | cons entry members inductionHypothesis =>
    rw [List.forall_mem_cons] at other
    have stepped : tagStep tag (name?, done) entry = .ok (name?, entry :: done) := if_neg other.1
    rw [List.foldlM_cons, stepped]
    change members.foldlM (tagStep tag) (name?, entry :: done) = _
    rw [inductionHypothesis other.2, List.reverse_cons, List.append_assoc]
    rfl

theorem follows_tag {tag name : String} {names : List String} (known : name ∈ names)
    (depth : Nat) :
    Follows (readTaggedMember tag names depth) (tagStep tag) (tag, .text name) := by
  intro gathered next stepped rest _
  rw [tagStep, if_pos rfl] at stepped
  rcases gathered with ⟨name?, others⟩
  cases name? with
  | some known => cases stepped
  | none =>
    cases stepped
    have named : readVariantName names (Text.octets (Tree.text name).render ++ rest) =
        .ok (name, rest) := by
      rw [readVariantName, readString_text]
      exact if_pos known
    rw [List.cons_append, readTaggedMember, if_pos rfl]
    change (inside (.key tag) (here (readVariantName names
      (Text.octets (Tree.text name).render ++ rest))) >>= fun read =>
        .ok ((some read.1, others), read.2)) = _
    rw [named]
    rfl

/-- Gather what a member of a tagged record is read as. -/
def tagRestored (restore : Numeral → Tree) (tag : String)
    (gathered : Option String × List (String × Tree)) (entry : String × Tree) :
    Except Cause (Option String × List (String × Tree)) :=
  tagStep tag gathered (mapMember restore entry)

section Restoring

variable {restore : Numeral → Tree} {tag : String} {names : List String} {depth : Nat}

theorem follows_other {entry : String × Tree} (other : entry.1 ≠ tag)
    (legible : entry.2.Legible restore depth) :
    Follows (readTaggedMember tag names depth) (tagRestored restore tag) entry := by
  intro gathered next stepped rest delimited
  have gathers : tagRestored restore tag gathered entry =
      .ok (gathered.1, mapMember restore entry :: gathered.2) := if_neg other
  rw [gathers] at stepped
  cases stepped
  rw [List.cons_append, readTaggedMember, if_neg other]
  change (inside (.key entry.1) (Tree.read depth (Text.octets entry.2.render ++ rest))
    >>= fun read => .ok ((gathered.1, (entry.1, read.1) :: gathered.2), read.2)) = _
  rw [legible.read rest delimited]
  rfl

/-- A tagged record is read up to its end as the name of its variant and its other members. -/
theorem readTagged_object {title name : String} {body : List (String × Tree)}
    (known : name ∈ names) (other : ∀ entry ∈ body, entry.1 ≠ tag)
    (legible : ∀ entry ∈ body, entry.2.Legible restore depth) (rest : Input) :
    readTagged title tag names (depth + 1)
        (Text.octets (Tree.object ((tag, .text name) :: body)).render ++ rest) =
      .ok ((name, .object (body.map (mapMember restore))), rest) := by
  have follows : ∀ entry ∈ (tag, .text name) :: body,
      Follows (readTaggedMember tag names depth) (tagRestored restore tag) entry := by
    intro entry member
    rcases List.mem_cons.mp member with first | member
    · exact first ▸ follows_tag known depth
    · exact follows_other (other entry member) (legible entry member)
  have untagged : ∀ entry ∈ body.map (mapMember restore), entry.1 ≠ tag := by
    intro entry member
    rcases List.mem_map.mp member with ⟨written, held, rfl⟩
    exact other written held
  have folded : ((tag, .text name) :: body).foldlM (tagRestored restore tag) (none, []) =
      .ok (some name, (body.map (mapMember restore)).reverse ++ []) := by
    have stepped : tagRestored restore tag (none, []) (tag, .text name) = .ok (some name, []) :=
      if_pos rfl
    have gathered := foldlM_tagStep untagged (some name) []
    rw [List.foldlM_map] at gathered
    rw [List.foldlM_cons, stepped]
    exact gathered
  rw [octets_render_object]
  apply bind_eq_ok_iff.mpr
  refine ⟨_, readMembers_joined follows folded rest, ?_⟩
  change Except.ok ((name,
    Tree.object ((body.map (mapMember restore)).reverse ++ []).reverse), rest) = _
  rw [List.append_nil, List.reverse_reverse]

end Restoring

/-! ## Members of dictionaries and records -/

/-- Add the value of a member to a dictionary. -/
def insertTree (entry : Shape) (entries : Dictionary entry.Value) (member : String × Tree) :
    Except Cause (Dictionary entry.Value) := do
  let value ← entry.ofTree member.2
  .ok (entries.insert member.1 value)

/-- Read the value of a member and add it to a dictionary. -/
def readEntry (entry : Shape) (depth : Nat) (entries : Dictionary entry.Value) (key : String)
    (input : Input) : Except Fault (Dictionary entry.Value × Input) := do
  let rest ← here (expectColon input)
  let (value, rest) ← inside (.key key) (entry.read depth rest)
  .ok (entries.insert key value, rest)

theorem follows_insertTree {entry : Shape} {depth : Nat} {key : String} {value : entry.Value}
    (held : entry.ofTree (entry.toTree value) = .ok value)
    (read : ReadAs (entry.read depth) (Text.octets (entry.toTree value).render) value) :
    Follows (readEntry entry depth) (insertTree entry) (key, entry.toTree value) := by
  intro entries next stepped rest delimited
  rw [insertTree, held] at stepped
  cases stepped
  rw [List.cons_append, readEntry, expectColon_colon]
  change (inside (.key key) (entry.read depth (Text.octets (entry.toTree value).render ++ rest))
    >>= fun read => .ok (entries.insert key read.1, read.2)) = _
  rw [read rest delimited]
  rfl

/-- Read the value of a member into the slots of a record. -/
def Fields.placeMember (fields : Fields) (depth : Nat) (slots : fields.Slots) (key : String)
    (input : Input) : Except Fault (fields.Slots × Input) :=
  fields.place depth key input slots

theorem Fields.placeMember_again {key : String} {presence : Presence} {shape : Shape}
    {fields : Fields} {met : shape.Value} (depth : Nat) (slots : fields.Slots) (input : Input) :
    (Fields.cons key presence shape fields).placeMember depth (some met, slots) key input =
      .error ⟨.duplicateField key, []⟩ :=
  if_pos rfl

theorem Fields.placeMember_own {key : String} {presence : Presence} {shape : Shape}
    {fields : Fields} (depth : Nat) (slots : fields.Slots) (input : Input) :
    (Fields.cons key presence shape fields).placeMember depth (none, slots) key input =
      here (expectColon input) >>= fun place =>
        inside (.key key) (shape.read depth place) >>= fun read =>
          .ok ((some read.1, slots), read.2) :=
  if_pos rfl

theorem Fields.placeMember_other {key name : String} {presence : Presence} {shape : Shape}
    {fields : Fields} (different : name ≠ key) (depth : Nat) (slot : Option shape.Value)
    (slots : fields.Slots) (input : Input) :
    (Fields.cons key presence shape fields).placeMember depth (slot, slots) name input =
      fields.placeMember depth slots name input >>= fun placed =>
        .ok ((slot, placed.1), placed.2) :=
  if_neg different

/-- The first field of a record takes the member that it was written as. -/
theorem Fields.follows_first {key : String} {presence : Presence} {shape : Shape} {fields : Fields}
    {depth : Nat} {value : shape.Value} (held : shape.ofTree (shape.toTree value) = .ok value)
    (read : ReadAs (shape.read depth) (Text.octets (shape.toTree value).render) value) :
    Follows ((Fields.cons key presence shape fields).placeMember depth)
      (Fields.cons key presence shape fields).stepTree (key, shape.toTree value) := by
  rintro ⟨slot, slots⟩ next stepped rest delimited
  unfold Fields.stepTree Fields.placeTree at stepped
  rw [if_pos rfl] at stepped
  cases slot with
  | some met => cases stepped
  | none =>
    dsimp only at stepped
    rw [held] at stepped
    cases stepped
    rw [placeMember_own, List.cons_append, expectColon_colon]
    change (inside (.key key) (shape.read depth (Text.octets (shape.toTree value).render ++ rest))
      >>= fun read => .ok ((some read.1, slots), read.2)) = _
    rw [read rest delimited]
    rfl

theorem Fields.follows_later {key : String} {presence : Presence} {shape : Shape} {fields : Fields}
    {depth : Nat} {entry : String × Tree} (different : entry.1 ≠ key)
    (follows : Follows (fields.placeMember depth) fields.stepTree entry) :
    Follows ((Fields.cons key presence shape fields).placeMember depth)
      (Fields.cons key presence shape fields).stepTree entry := by
  rintro ⟨slot, slots⟩ next stepped rest delimited
  unfold Fields.stepTree Fields.placeTree at stepped
  rw [if_neg different] at stepped
  rcases bind_eq_ok_iff.mp stepped with ⟨between, placed, done⟩
  cases done
  have read := follows slots between placed rest delimited
  rw [placeMember_other different, read]
  rfl

/-! ## Containers -/

section Opening

variable (depth : Nat) (rest : Input)

theorem Shape.read_list_opened (item : Shape) :
    (Shape.list item).read (depth + 1) (0x5b :: rest) = readList (item.read depth) rest :=
  rfl

theorem Shape.read_dictionary_opened (entry : Shape) :
    (Shape.dictionary entry).read (depth + 1) (0x7b :: rest) =
      readMembers (readEntry entry depth) (rest.length + 1) true Dictionary.empty rest
        >>= fun read => here (closeObject read.2) >>= fun rest => .ok (read.1, rest) :=
  rfl

theorem Shape.read_record_opened (title : String) (fields : Fields) :
    (Shape.record title fields).read (depth + 1) (0x7b :: rest) =
      readMembers (fields.placeMember depth) (rest.length + 1) true fields.noSlots rest
        >>= fun read => here (fields.fill read.1)
        >>= fun values => here (closeObject read.2) >>= fun rest => .ok (values, rest) :=
  rfl

theorem Shape.read_tagged_eq (title tag : String) (variants : Variants) :
    (Shape.tagged title tag variants).read depth rest =
      readTagged title tag variants.names depth rest
        >>= fun read => here (variants.ofTree read.1.1 read.1.2)
        >>= fun value => .ok (value, read.2) :=
  rfl

end Opening

section Written

variable {depth : Nat}

/-- A value that is there is read as such.  Only null begins with the letter that the reader
takes for the absence of a value. -/
theorem Shape.readAs_some {inner : Shape} (single : ∀ other, inner ≠ .optional other)
    {value : inner.Value} (legible : (inner.toTree value).Legible .number depth)
    (read : ReadAs (inner.read depth) (Text.octets (inner.toTree value).render) value) :
    ReadAs ((Shape.optional inner).read depth)
      (Text.octets ((Shape.optional inner).toTree (some value)).render) (some value) := by
  intro rest delimited
  have read := read rest delimited
  rcases legible.head with ⟨octet, others, written, solid, _, absent⟩
  have present : octet ≠ 0x6e := fun same =>
    Shape.toTree_ne_null value single ((Tree.mapNumbers_number _).symm.trans (absent same))
  change (Shape.optional inner).read depth (Text.octets (inner.toTree value).render ++ rest) = _
  rw [written, List.cons_append] at read ⊢
  rw [Shape.read_optional solid present, read]
  rfl

/-- A list is read as its items are. -/
theorem Shape.readAs_list {item : Shape} {items : List item.Value}
    (opens : ∀ value ∈ items, Opens (Text.octets (item.toTree value).render))
    (read : ∀ value ∈ items,
      ReadAs (item.read depth) (Text.octets (item.toTree value).render) value) :
    ReadAs ((Shape.list item).read (depth + 1))
      (Text.octets ((Shape.list item).toTree items).render) items := by
  intro rest _
  rw [Shape.toTree, octets_render_list, read_list_opened, List.map_map]
  have joined := readList_joined opens read rest
  rw [List.map_id'] at joined
  exact joined

/-- A dictionary is read as the values of its entries are. -/
theorem Shape.readAs_dictionary {entry : Shape} (formed : entry.wellFormed = true)
    {entries : Dictionary entry.Value}
    (read : ∀ held ∈ entries.entries,
      ReadAs (entry.read depth) (Text.octets (entry.toTree held.2).render) held.2) :
    ReadAs ((Shape.dictionary entry).read (depth + 1))
      (Text.octets ((Shape.dictionary entry).toTree entries).render) entries := by
  have written : (Shape.dictionary entry).toTree entries =
      .object (entries.entries.map fun held => (held.1, entry.toTree held.2)) := rfl
  have follows : ∀ member ∈ entries.entries.map fun held => (held.1, entry.toTree held.2),
      Follows (readEntry entry depth) (insertTree entry) member := by
    intro member found
    rcases List.mem_map.mp found with ⟨held, kept, rfl⟩
    exact follows_insertTree (Shape.ofTree_toTree entry formed held.2) (read held kept)
  have folded : (entries.entries.map fun held => (held.1, entry.toTree held.2)).foldlM
      (insertTree entry) Dictionary.empty = .ok entries :=
    Shape.ofTree_toTree (.dictionary entry) formed entries
  intro rest _
  rw [written, octets_render_object, read_dictionary_opened,
    readMembers_joined follows folded rest]
  rfl

/-- A record is read as its members are placed. -/
theorem Shape.readAs_record {title : String} {fields : Fields} (formed : fields.wellFormed = true)
    {values : fields.Value}
    (follows : ∀ entry ∈ fields.toMembers values,
      Follows (fields.placeMember depth) fields.stepTree entry) :
    ReadAs ((Shape.record title fields).read (depth + 1))
      (Text.octets ((Shape.record title fields).toTree values).render) values := by
  intro rest _
  rw [Shape.toTree, octets_render_object, read_record_opened,
    readMembers_joined follows (Fields.foldlM_stepTree fields formed values) rest]
  change (here (fields.fill (fields.slotsOf values)) >>= fun values => .ok (values, rest)) = _
  rw [Fields.fill_slotsOf]
  rfl

/-- A tagged record is read as a tree that is as good as the one written, so the law of trees
finds the variant. -/
theorem Shape.readAs_tagged {title tag : String} {variants : Variants}
    (formed : variants.wellFormed tag = true) {value : variants.Value}
    (legible : ∀ entry ∈ variants.toMembers tag value, entry.2.Legible .number depth) :
    ReadAs ((Shape.tagged title tag variants).read (depth + 1))
      (Text.octets ((Shape.tagged title tag variants).toTree value).render) value := by
  rcases Variants.ofTree_toMembers tag variants formed value with
    ⟨name, body, written, known, untagged, held⟩
  rw [written] at legible
  have rewritten := (List.forall_mem_cons.mp legible).2
  intro rest _
  rw [Shape.toTree, written, read_tagged_eq, readTagged_object known untagged rewritten,
    map_mapMember_number]
  change (here (variants.ofTree name (.object body)) >>= fun value => .ok (value, rest)) = _
  rw [held]
  rfl

end Written

/-! ## Values -/

mutual

/-- The text of a value is read as that value. -/
theorem Shape.read_toTree : (shape : Shape) → shape.wellFormed = true → {depth : Nat} →
    shape.depth ≤ depth → (value : shape.Value) → shape.EveryReal ReadsBack value →
      ReadAs (shape.read depth) (Text.octets (shape.toTree value).render) value
  | .text, _, depth, _, text, _ => by
    intro rest _
    exact congrArg here (readString_text .text text rest)
  | .real, _, depth, _, real, readBack => by
    intro rest delimited
    exact congrArg here (readNumber_of_legible (fun number => .ok number.toReal)
      (readNumeral_real readBack) rfl delimited)
  | .int64, _, depth, _, number, _ => by
    intro rest delimited
    exact congrArg here (readNumber_of_legible Numeral.toInt64 (legible_int64 number)
      (toInt64_integer number) delimited)
  | .nat64, _, depth, _, number, _ => by
    intro rest delimited
    exact congrArg here (readNumber_of_legible Numeral.toUInt64 (legible_nat64 number)
      (toUInt64_integer number) delimited)
  | .optional inner, formed, depth, enough, held, readBack => by
    rcases Shape.wellFormed_optional formed with ⟨single, formed⟩
    cases held with
    | none => exact fun rest _ => rfl
    | some value =>
      exact Shape.readAs_some single
        (Shape.legible_toTree restores_number inner enough value (readBack value rfl))
        (Shape.read_toTree inner formed enough value (readBack value rfl))
  | .list item, formed, depth, enough, items, readBack => by
    rcases exists_level enough with ⟨depth, rfl, fits⟩
    apply Shape.readAs_list
    · intro value held
      exact (Shape.legible_toTree restores_number item fits value (readBack value held)).opens
    · intro value held
      exact Shape.read_toTree item formed fits value (readBack value held)
  | .choice first others, formed, depth, _, position, _ => by
    rw [Shape.wellFormed, decide_eq_true_eq] at formed
    intro rest _
    exact congrArg here (readChoice_text (chooseName_get formed position) depth rest)
  | .dictionary entry, formed, depth, enough, entries, readBack => by
    rcases exists_level enough with ⟨depth, rfl, fits⟩
    have formed : entry.wellFormed = true := formed
    apply Shape.readAs_dictionary formed
    intro held member
    exact Shape.read_toTree entry formed fits held.2 (readBack held member)
  | .record title fields, formed, depth, enough, values, readBack => by
    rcases exists_level enough with ⟨depth, rfl, fits⟩
    exact Shape.readAs_record formed (Fields.follows_place fields formed fits values readBack)
  | .tagged title tag variants, formed, depth, enough, value, readBack => by
    rcases exists_level enough with ⟨depth, rfl, fits⟩
    exact Shape.readAs_tagged formed
      (Variants.legible_toMembers restores_number tag variants fits value readBack)

/-- The members of a record are placed by the direct reader as by that of trees. -/
theorem Fields.follows_place : (fields : Fields) → fields.wellFormed = true → {depth : Nat} →
    fields.depth ≤ depth → (values : fields.Value) → fields.EveryReal ReadsBack values →
      ∀ entry ∈ fields.toMembers values,
        Follows (fields.placeMember depth) fields.stepTree entry
  | .nil, _, _, _, _, _ => fun _ member => nomatch member
  | .cons key presence shape rest, formed, depth, enough, (value, values), readBack => by
    rcases Fields.wellFormed_cons formed with ⟨fresh, formedShape, formedRest⟩
    have later := Fields.follows_place rest formedRest (Nat.le_trans (Nat.le_max_right _ _) enough)
      values readBack.2
    have others := Fields.ne_of_mem_toMembers fresh values
    intro entry member
    rw [Fields.toMembers] at member
    split at member
    · exact Fields.follows_later (others entry member) (later entry member)
    · rcases List.mem_cons.mp member with first | member
      · rw [first]
        exact Fields.follows_first (Shape.ofTree_toTree shape formedShape value)
          (Shape.read_toTree shape formedShape (Nat.le_trans (Nat.le_max_left _ _) enough) value
            readBack.1)
      · exact Fields.follows_later (others entry member) (later entry member)

end

/-! ## Whole documents -/

/-- The document of a value holds that value. -/
theorem Shape.parse_toTree {shape : Shape} (formed : shape.wellFormed = true)
    (fits : shape.depth ≤ nestingLimit) {value : shape.Value}
    (readBack : shape.EveryReal ReadsBack value) :
    shape.parse (Text.octets (shape.toTree value).render) = .ok value := by
  have read := Shape.read_toTree shape formed fits value readBack [] delimited_nil
  rw [List.append_nil] at read
  rw [Shape.parse, read]
  rfl

namespace Wire

variable {α : Type} [Wire α]

/-- Decoding undoes encoding. -/
def RoundTrips (value : α) : Prop :=
  decode α (Text.octets (encode value)) = .ok value

theorem roundTrips_of_shape (formed : (shape α).wellFormed = true)
    (fits : (shape α).depth ≤ nestingLimit) {value : α}
    (readBack : (shape α).EveryReal ReadsBack (toValue value)) : RoundTrips value := by
  rw [RoundTrips, decode, encode, tree, Shape.parse_toTree formed fits readBack]
  exact congrArg Except.ok (ofValue_toValue value)

end Wire

end Json
end LendingGateway
