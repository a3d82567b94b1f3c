import LendingGateway.Proofs.Json.Grammar

namespace LendingGateway
namespace Json

open Traversal

/-!
# What documents mean

The values that a document has by a shape are given here by recursion on the shape, without
regard to octets, gaps or levels: a record takes the one member with the key of each field, and
no other member counts.  Beside that stands what a reader meets where a document stands: the
octet it begins with, and the places of its elements and members.
-/

/-! ## Texts, keys and numbers -/

/-- The text that a quotation stands for, unless there is no such text. -/
def Quotation.text? (quotation : Quotation) : Option String :=
  match readText quotation.octets with
  | .ok (text, _) => some text
  | .error _ => none

theorem readText_quotation_iff {quotation : Quotation} {rest after : Input} {text : String} :
    readText (quotation.octets ++ rest) = .ok (text, after) ↔
      quotation.text? = some text ∧ after = rest := by
  constructor
  · intro read
    have skipped := (skipText_of_readText read).symm.trans (skipText_quotation quotation rest)
    obtain rfl : after = rest := Except.ok.inj skipped
    rcases closed_readText text read with ⟨front, _, split, keeps⟩
    have alone := keeps []
    rw [← List.append_cancel_right split, List.append_nil] at alone
    exact ⟨by rw [Quotation.text?, alone], rfl⟩
  · rintro ⟨known, rfl⟩
    unfold Quotation.text? at known
    split at known
    · rename_i found last read
      cases known
      rcases closed_readText text read with ⟨front, _, split, keeps⟩
      have skipped := skipText_quotation quotation []
      rw [List.append_nil] at skipped
      obtain rfl : last = [] := Except.ok.inj ((skipText_of_readText read).symm.trans skipped)
      rw [split, List.append_nil]
      exact keeps after
    · cases known

/-- The name of a member, unless its key stands for no text. -/
def Member.name? {α : Type} (member : Member α) : Option String :=
  member.key.text?

/-- The number that some octets stand for, unless it is out of range. -/
def Number.numeral? (number : Number) : Option Numeral :=
  match readNumeral number.octets with
  | .ok (numeral, _) => some numeral
  | .error _ => none

theorem readNumeral_number_iff {number : Number} {rest after : Input} {numeral : Numeral}
    (stops : Stops rest) :
    readNumeral (number.octets ++ rest) = .ok (numeral, after) ↔
      number.numeral? = some numeral ∧ after = rest := by
  rcases lexLiteral_of_isNumber number.formed with ⟨literal, lexed⟩
  have read : ∀ {behind : Input}, Stops behind → readNumeral (number.octets ++ behind) =
      literal.value >>= fun value => .ok (value, behind) := by
    intro behind stops
    rw [readNumeral, lexed .endInValue behind stops]
    rfl
  have alone := read stops_nil
  rw [List.append_nil] at alone
  rw [Number.numeral?, read stops, alone]
  cases literal.value with
  | error cause => exact ⟨fun impossible => (nomatch impossible), fun both => (nomatch both.1)⟩
  | ok value =>
    constructor
    · intro same
      cases same
      exact ⟨rfl, rfl⟩
    · rintro ⟨same, rfl⟩
      cases same
      rfl

/-! ## The octet a document begins with -/

def Document.Marked (octet : UInt8) : Document → Prop
  | .null => octet = 0x6e
  | .boolean true => octet = 0x74
  | .boolean false => octet = 0x66
  | .number _ => octet = 0x2d ∨ isDigit octet = true
  | .text _ => octet = 0x22
  | .list _ _ => octet = 0x5b
  | .object _ _ => octet = 0x7b

theorem Document.marked_of_starts {document : Document} {octet : UInt8} {rest inner : Input}
    (starts : document.octets ++ rest = octet :: inner) : document.Marked octet := by
  cases document with
  | null | text | list | object => exact (List.cons.inj starts).1.symm
  | boolean value => cases value <;> exact (List.cons.inj starts).1.symm
  | number number =>
    rcases number.formed.head with ⟨first, others, same, begins⟩
    rw [Document.octets, same] at starts
    exact (List.cons.inj starts).1 ▸ begins

theorem Document.eq_null_of_marked {document : Document} (marked : document.Marked 0x6e) :
    document = .null := by
  cases document with
  | null => rfl
  | boolean value => cases value <;> simp [Document.Marked] at marked
  | number | text | list | object => simp [Document.Marked, isDigit] at marked

theorem Document.exists_text {document : Document} (marked : document.Marked 0x22) :
    ∃ quotation, document = .text quotation := by
  cases document with
  | text quotation => exact ⟨quotation, rfl⟩
  | boolean value => cases value <;> simp [Document.Marked] at marked
  | null | number | list | object => simp [Document.Marked, isDigit] at marked

theorem Document.exists_list {document : Document} (marked : document.Marked 0x5b) :
    ∃ opening elements, document = .list opening elements := by
  cases document with
  | list opening elements => exact ⟨opening, elements, rfl⟩
  | boolean value => cases value <;> simp [Document.Marked] at marked
  | null | number | text | object => simp [Document.Marked, isDigit] at marked

theorem Document.exists_object {document : Document} (marked : document.Marked 0x7b) :
    ∃ opening members, document = .object opening members := by
  cases document with
  | object opening members => exact ⟨opening, members, rfl⟩
  | boolean value => cases value <;> simp [Document.Marked] at marked
  | null | number | text | list => simp [Document.Marked, isDigit] at marked

theorem Document.exists_number {document : Document} {octet : UInt8}
    (begins : octet = 0x2d ∨ isDigit octet = true) (marked : document.Marked octet) :
    ∃ number, document = .number number := by
  have head := number_head begins
  cases document with
  | number number => exact ⟨number, rfl⟩
  | null => exact absurd marked head.2.2.2.2.2.1
  | boolean value =>
    cases value with
    | true => exact absurd marked head.2.2.2.2.2.2.1
    | false => exact absurd marked head.2.2.2.2.1
  | text => exact absurd marked head.2.1
  | list => exact absurd marked head.2.2.1
  | object => exact absurd marked head.2.2.2.2.2.2.2

/-- Where a document stands, it begins behind the gap. -/
theorem StandsAt.skipGap {place : Input} {document : Document} (stands : StandsAt place document) :
    ∃ rest, Stops rest ∧ Json.skipGap place = document.octets ++ rest := by
  rcases stands with ⟨gap, rest, stops, rfl⟩
  exact ⟨rest, stops, skipGap_document gap document rest⟩

theorem StandsAt.exists_skipped {place : Input} {document : Document}
    (stands : StandsAt place document) : ∃ rest, Skipped place rest := by
  rcases stands with ⟨gap, rest, stops, rfl⟩
  exact ⟨rest, skipped_gap gap (document.skips rest stops)⟩

/-! ## The values of a document -/

/-- The members with a name. -/
def membersNamed (name : String) (members : List (Member Document)) : List (Member Document) :=
  members.filter fun member => decide (member.name? = some name)

mutual

/-- The values that a document has by a shape.  Tagged records are left out. -/
def Shape.Means : (shape : Shape) → Document → shape.Value → Prop
  | .text, document, text => ∃ quotation, document = .text quotation ∧ quotation.text? = some text
  | .real, document, real => ∃ number numeral, document = .number number ∧
      number.numeral? = some numeral ∧ numeral.toReal = real
  | .int64, document, integer => ∃ number numeral, document = .number number ∧
      number.numeral? = some numeral ∧ numeral.toInt64 = .ok integer
  | .nat64, document, integer => ∃ number numeral, document = .number number ∧
      number.numeral? = some numeral ∧ numeral.toUInt64 = .ok integer
  | .optional inner, document, held => (document = .null ∧ held = none) ∨
      (document ≠ .null ∧ ∃ value, inner.Means document value ∧ held = some value)
  | .list item, document, values => ∃ opening elements, document = .list opening elements ∧
      List.Forall₂ (fun element value => item.Means element.value value) elements values
  | .choice first others, document, position =>
      (∃ quotation name, document = .text quotation ∧ quotation.text? = some name ∧
        chooseName first others name = .ok position) ∨
      (∃ opening member name, document = .object opening [member] ∧ member.name? = some name ∧
        member.element.value = .null ∧ chooseName first others name = .ok position)
  | .dictionary entry, document, entries =>
      ∃ (opening : Gap) (members : List (Member Document)) (found : List (String × entry.Value)),
        document = .object opening members ∧
        List.Forall₂ (fun member pair => member.name? = some pair.1 ∧
          entry.Means member.element.value pair.2) members found ∧
        entries = found.foldl (fun entries pair => entries.insert pair.1 pair.2) Dictionary.empty
  | .record _ fields, document, values =>
      (∃ opening members, document = .object opening members ∧
        (∀ member ∈ members, ∃ name, member.name? = some name) ∧ fields.Holds members values) ∨
      (∃ opening elements, document = .list opening elements ∧
        fields.HoldsElements elements values)
  | .tagged _ _ _, _, _ => False

/-- Each field is the value of the only member with its key, or it is blank for want of such a
member. -/
def Fields.Holds : (fields : Fields) → List (Member Document) → fields.Value → Prop
  | .nil, _, _ => True
  | .cons key presence shape rest, members, (value, values) =>
    ((membersNamed key members = [] ∧ presence ≠ .required ∧ value = shape.blank) ∨
      ∃ member, membersNamed key members = [member] ∧ shape.Means member.element.value value) ∧
    rest.Holds members values

/-- Each field is the value of the element in its position, or it is blank behind the last
one. -/
def Fields.HoldsElements : (fields : Fields) → List (Element Document) → fields.Value → Prop
  | .nil, elements, _ => elements = []
  | .cons _ presence shape rest, elements, (value, values) =>
    match elements with
    | element :: elements => shape.Means element.value value ∧ rest.HoldsElements elements values
    | [] => presence ≠ .required ∧ value = shape.blank ∧ rest.HoldsElements [] values

end

/-! ## The members of an object and their places -/

/-- A member stands at the place of its value. -/
def MemberAt (place : String × Input) (member : Member Document) : Prop :=
  member.name? = some place.1 ∧ StandsAt place.2 member.element.value

/-- What stands behind the key of a member. -/
def Member.afterKey (member : Member Document) (rest : Input) : Input :=
  member.between.octets ++ 0x3a :: (member.element.octets ++ rest)

theorem Member.skipGap_octets (member : Member Document) (rest : Input) :
    skipGap (member.octets ++ rest) = 0x22 :: (member.key.octets ++ member.afterKey rest) := by
  rw [member.octets_append, member.before.skip]
  exact skipGap_cons (by decide) _

theorem Member.expectColon_afterKey (member : Member Document) (rest : Input) :
    expectColon (member.afterKey rest) = .ok (member.element.octets ++ rest) :=
  expectColon_eq_ok_iff.mpr ((member.between.skip _).trans (skipGap_cons (by decide) _))

theorem nextKey_opening_iff {gap : Gap} {member : Member Document} {rest beyond : Input}
    {key : String} :
    NextKey true (gap.octets ++ (member.octets ++ rest)) (some key) beyond ↔
      member.name? = some key ∧ beyond = member.afterKey rest := by
  have starts := (gap.skip (member.octets ++ rest)).trans (member.skipGap_octets rest)
  constructor
  · intro next
    cases next with
    | opening _ same text =>
      rw [starts] at same
      cases same
      exact readText_quotation_iff.mp text
    | comma impossible => cases impossible
  · intro named
    exact .opening rfl starts (readText_quotation_iff.mpr named)

theorem nextKey_separated_iff {gap : Gap} {member : Member Document} {rest beyond : Input}
    {key : String} :
    NextKey false (gap.octets ++ 0x2c :: (member.octets ++ rest)) (some key) beyond ↔
      member.name? = some key ∧ beyond = member.afterKey rest := by
  have starts := (gap.skip (0x2c :: (member.octets ++ rest))).trans (skipGap_cons (by decide) _)
  constructor
  · intro next
    cases next with
    | opening impossible => cases impossible
    | comma _ comma same text =>
      rw [starts] at comma
      cases comma
      rw [member.skipGap_octets] at same
      cases same
      exact readText_quotation_iff.mp text
  · intro named
    exact .comma rfl starts (member.skipGap_octets rest) (readText_quotation_iff.mpr named)

theorem memberAt_of_name {member : Member Document} {name : String} {rest : Input}
    (named : member.name? = some name) (stops : Stops rest) :
    MemberAt (name, member.element.octets ++ rest) member := by
  refine ⟨named, member.element.before, _, member.element.behind.stops stops, ?_⟩
  exact member.element.octets_append rest

theorem exists_objectPlaces_separated {members : List (Member Document)}
    (named : ∀ member ∈ members, ∃ name, member.name? = some name) (rest : Input) : ∀ gap : Gap,
      ∃ places, ObjectPlaces false
          (gap.octets ++ (separatedBy Member.octets members ++ 0x7d :: rest)) places rest ∧
        List.Forall₂ MemberAt places members := by
  induction members with
  | nil => exact fun gap =>
      ⟨[], .close ((gap.skip _).trans (skipGap_cons (by decide) rest)), .nil⟩
  | cons member members inductionHypothesis =>
    intro gap
    rw [List.forall_mem_cons] at named
    rcases named.1 with ⟨name, known⟩
    rcases inductionHypothesis named.2 member.element.behind with ⟨places, later, each⟩
    have stops := stops_separatedBy Member.octets members (Or.inr rfl) rest
    refine ⟨_ :: places, ?_, .cons (memberAt_of_name known stops) each⟩
    rw [separatedBy_cons]
    exact .member (nextKey_separated_iff.mpr ⟨known, rfl⟩) (member.expectColon_afterKey _)
      (skipped_element member.element.value.skips stops) later

/-- Members whose keys are texts stand at the places of an object. -/
theorem exists_objectPlaces {members : List (Member Document)}
    (named : ∀ member ∈ members, ∃ name, member.name? = some name) (opening : Gap) (rest : Input) :
    ∃ places, ObjectPlaces true
        (opening.octets ++ (joined (memberTexts members) ++ 0x7d :: rest)) places rest ∧
      List.Forall₂ MemberAt places members := by
  rw [memberTexts_eq_map]
  cases members with
  | nil => exact ⟨[], .close ((opening.skip _).trans (skipGap_cons (by decide) rest)), .nil⟩
  | cons member members =>
    rw [List.forall_mem_cons] at named
    rcases named.1 with ⟨name, known⟩
    rcases exists_objectPlaces_separated named.2 rest member.element.behind with
      ⟨places, later, each⟩
    have stops := stops_separatedBy Member.octets members (Or.inr rfl) rest
    refine ⟨_ :: places, ?_, .cons (memberAt_of_name known stops) each⟩
    rw [joined_map_cons, List.append_assoc]
    exact .member (nextKey_opening_iff.mpr ⟨known, rfl⟩) (member.expectColon_afterKey _)
      (skipped_element member.element.value.skips stops) later

theorem named_of_separated {members : List (Member Document)} {rest after : Input} :
    ∀ {gap : Gap} {places : List (String × Input)},
      ObjectPlaces false (gap.octets ++ (separatedBy Member.octets members ++ 0x7d :: rest))
        places after → ∀ member ∈ members, ∃ name, member.name? = some name := by
  induction members with
  | nil => exact fun _ _ member => absurd member List.not_mem_nil
  | cons member members inductionHypothesis =>
    intro gap places marks
    rw [separatedBy_cons] at marks
    have stops := stops_separatedBy Member.octets members (Or.inr rfl) rest
    cases marks with
    | close ends =>
      rw [gap.skip, skipGap_cons (by decide)] at ends
      cases ends
    | member next colon skipped later =>
      rcases nextKey_separated_iff.mp next with ⟨known, rfl⟩
      rw [member.expectColon_afterKey] at colon
      cases colon
      obtain rfl := skipped.unique (skipped_element member.element.value.skips stops)
      exact List.forall_mem_cons.mpr ⟨⟨_, known⟩, inductionHypothesis later⟩

/-- An object that has places has a text for each of its keys. -/
theorem named_of_objectPlaces {members : List (Member Document)} {opening : Gap}
    {rest after : Input} {places : List (String × Input)}
    (marks : ObjectPlaces true
      (opening.octets ++ (joined (memberTexts members) ++ 0x7d :: rest)) places after) :
    ∀ member ∈ members, ∃ name, member.name? = some name := by
  rw [memberTexts_eq_map] at marks
  cases members with
  | nil => exact fun _ member => absurd member List.not_mem_nil
  | cons member members =>
    rw [joined_map_cons, List.append_assoc] at marks
    have stops := stops_separatedBy Member.octets members (Or.inr rfl) rest
    cases marks with
    | close ends =>
      rw [opening.skip, member.skipGap_octets] at ends
      cases ends
    | member next colon skipped later =>
      rcases nextKey_opening_iff.mp next with ⟨known, rfl⟩
      rw [member.expectColon_afterKey] at colon
      cases colon
      obtain rfl := skipped.unique (skipped_element member.element.value.skips stops)
      exact List.forall_mem_cons.mpr ⟨⟨_, known⟩, named_of_separated later⟩

/-- The places of a list that stands somewhere. -/
theorem StandsAt.exists_listPlaces {place : Input} {opening : Gap}
    {elements : List (Element Document)} (stands : StandsAt place (.list opening elements)) :
    ∃ inner places after, Json.skipGap place = 0x5b :: inner ∧ ListPlaces true inner places after ∧
      List.Forall₂ (fun place element => StandsAt place element.value) places elements := by
  rcases stands.skipGap with ⟨rest, _, starts⟩
  rcases Json.exists_listPlaces (fun element _ => element.value.skips) opening rest with
    ⟨places, marks, each⟩
  rw [Document.octets, List.cons_append, List.append_assoc, List.append_assoc] at starts
  exact ⟨_, places, rest, starts, marks, each⟩

/-- An object that stands somewhere has places if each of its keys is a text, and its members
stand at them. -/
theorem StandsAt.objectPlaces {place : Input} {opening : Gap} {members : List (Member Document)}
    (stands : StandsAt place (.object opening members)) :
    ∃ inner rest, Json.skipGap place = 0x7b :: inner ∧
      ((∀ member ∈ members, ∃ name, member.name? = some name) →
        ∃ places, ObjectPlaces true inner places rest ∧ List.Forall₂ MemberAt places members) ∧
      ∀ places after, ObjectPlaces true inner places after →
        (∀ member ∈ members, ∃ name, member.name? = some name) ∧
          List.Forall₂ MemberAt places members := by
  rcases stands.skipGap with ⟨rest, _, starts⟩
  rw [Document.octets, List.cons_append, List.append_assoc, List.append_assoc] at starts
  refine ⟨_, rest, starts, fun named => exists_objectPlaces named opening rest, ?_⟩
  intro places after marks
  have named := named_of_objectPlaces marks
  rcases exists_objectPlaces named opening rest with ⟨others, marked, each⟩
  rcases marks.unique marked with ⟨rfl, _⟩
  exact ⟨named, each⟩

end Json
end LendingGateway
