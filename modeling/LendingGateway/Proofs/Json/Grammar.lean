import LendingGateway.Proofs.Json.Places
import LendingGateway.Proofs.Json.Tokens

namespace LendingGateway
namespace Json

open Traversal

/-!
# Documents as they are written

A document is made of tokens with gaps between them, to any depth and with any keys.  The
forms of documents are generated here without regard to a reader.  The machine that skips
values passes over exactly these forms: over each of them wherever it stands, and over nothing
that is not one of them.
-/

/-! ## Documents -/

/-- A value between two gaps. -/
structure Element (α : Type) where
  before : Gap
  value : α
  behind : Gap

/-- A key and a value, with a gap before the key and one before the colon. -/
structure Member (α : Type) where
  before : Gap
  key : Quotation
  between : Gap
  element : Element α

/-- A value as it is written, with all its gaps.  The first gap of a list or an object stands
behind the opening mark. -/
inductive Document where
  | null
  | boolean (value : Bool)
  | number (number : Number)
  | text (quotation : Quotation)
  | list (opening : Gap) (elements : List (Element Document))
  | object (opening : Gap) (members : List (Member Document))

mutual

def Document.octets : Document → Input
  | .null => Text.octets "null"
  | .boolean true => Text.octets "true"
  | .boolean false => Text.octets "false"
  | .number number => number.octets
  | .text quotation => 0x22 :: quotation.octets
  | .list opening elements => 0x5b :: (opening.octets ++ (joined (elementTexts elements) ++ [0x5d]))
  | .object opening members => 0x7b :: (opening.octets ++ (joined (memberTexts members) ++ [0x7d]))

def elementTexts : List (Element Document) → List Input
  | [] => []
  | ⟨before, value, behind⟩ :: elements =>
    (before.octets ++ (value.octets ++ behind.octets)) :: elementTexts elements

def memberTexts : List (Member Document) → List Input
  | [] => []
  | ⟨before, key, between, ⟨gap, value, behind⟩⟩ :: members =>
    (before.octets ++ 0x22 :: (key.octets ++ (between.octets ++ 0x3a ::
      (gap.octets ++ (value.octets ++ behind.octets))))) :: memberTexts members

end

def Element.octets (element : Element Document) : Input :=
  element.before.octets ++ (element.value.octets ++ element.behind.octets)

def Member.octets (member : Member Document) : Input :=
  member.before.octets ++ 0x22 :: (member.key.octets ++ (member.between.octets ++ 0x3a ::
    member.element.octets))

theorem elementTexts_eq_map (elements : List (Element Document)) :
    elementTexts elements = elements.map Element.octets := by
  induction elements with
  | nil => rfl
  | cons element elements inductionHypothesis =>
    rw [List.map_cons, ← inductionHypothesis]
    rfl

theorem memberTexts_eq_map (members : List (Member Document)) :
    memberTexts members = members.map Member.octets := by
  induction members with
  | nil => rfl
  | cons member members inductionHypothesis =>
    rw [List.map_cons, ← inductionHypothesis]
    rfl

/-- What holds of a container as soon as it holds of the values in it holds of every
document. -/
theorem Document.induction {motive : Document → Prop} (null : motive .null)
    (boolean : ∀ value, motive (.boolean value)) (number : ∀ number, motive (.number number))
    (text : ∀ quotation, motive (.text quotation))
    (list : ∀ opening elements, (∀ element ∈ elements, motive element.value) →
      motive (.list opening elements))
    (object : ∀ opening members, (∀ member ∈ members, motive member.element.value) →
      motive (.object opening members)) : ∀ document, motive document
  | .null => null
  | .boolean value => boolean value
  | .number figure => number figure
  | .text quotation => text quotation
  | .list opening elements => list opening elements fun element _ =>
    Document.induction null boolean number text list object element.value
  | .object opening members => object opening members fun entry _ =>
    Document.induction null boolean number text list object entry.element.value
termination_by document => sizeOf document
decreasing_by
  · rename_i member
    have smaller := List.sizeOf_lt_of_mem member
    rcases element with ⟨before, value, behind⟩
    simp only [Element.mk.sizeOf_spec, Document.list.sizeOf_spec] at smaller ⊢
    omega
  · rename_i member
    have smaller := List.sizeOf_lt_of_mem member
    rcases entry with ⟨before, key, between, ⟨gap, value, behind⟩⟩
    simp only [Element.mk.sizeOf_spec, Member.mk.sizeOf_spec, Document.object.sizeOf_spec]
      at smaller ⊢
    omega

theorem IsNumber.head {octets : Input} (number : IsNumber octets) :
    ∃ octet others, octets = octet :: others ∧ (octet = 0x2d ∨ isDigit octet = true) := by
  rcases lexLiteral_of_isNumber number with ⟨literal, read⟩
  have lexed := read .endInValue [] stops_nil
  rw [List.append_nil] at lexed
  exact lexLiteral_head lexed

/-- No document begins with a gap or with what would close a list. -/
theorem Document.opens (document : Document) : Opens document.octets := by
  cases document with
  | null => exact ⟨0x6e, _, rfl, by decide, by decide⟩
  | boolean value =>
    cases value with
    | true => exact ⟨0x74, _, rfl, by decide, by decide⟩
    | false => exact ⟨0x66, _, rfl, by decide, by decide⟩
  | number number =>
    rcases number.formed.head with ⟨octet, others, same, begins⟩
    have head := number_head begins
    exact ⟨octet, others, same, head.1, head.2.2.2.1⟩
  | text quotation => exact ⟨0x22, _, rfl, by decide, by decide⟩
  | list opening elements => exact ⟨0x5b, _, rfl, by decide, by decide⟩
  | object opening members => exact ⟨0x7b, _, rfl, by decide, by decide⟩

/-- What stands behind an element or a member up to the end of its container. -/
def separatedBy {α : Type} (text : α → Input) (items : List α) : Input :=
  items.flatMap fun item => 0x2c :: text item

theorem joined_map_cons {α : Type} (text : α → Input) (item : α) (items : List α) :
    joined ((item :: items).map text) = text item ++ separatedBy text items := by
  rw [List.map_cons, joined, List.flatMap_map]
  rfl

theorem separatedBy_cons {α : Type} (text : α → Input) (item : α) (items : List α)
    (rest : Input) :
    separatedBy text (item :: items) ++ rest =
      0x2c :: (text item ++ (separatedBy text items ++ rest)) := by
  rw [separatedBy, List.flatMap_cons, List.cons_append, List.cons_append, List.append_assoc]
  rfl

theorem stops_separatedBy {α : Type} (text : α → Input) (items : List α) {closing : UInt8}
    (closes : closing = 0x5d ∨ closing = 0x7d) (rest : Input) :
    Stops (separatedBy text items ++ closing :: rest) := by
  cases items with
  | nil => rcases closes with rfl | rfl <;> exact stops_cons (by decide) rest
  | cons item items => exact stops_cons (by decide) _

/-! ## Documents are skipped -/

/-- A document is skipped wherever it stands. -/
def Document.Skips (document : Document) : Prop :=
  ∀ rest, Stops rest → Skipped (document.octets ++ rest) rest

theorem skipped_gap (gap : Gap) {input after : Input} (skipped : Skipped input after) :
    Skipped (gap.octets ++ input) after :=
  skipped_of_gap (gap.skip input) skipped

theorem Element.octets_append (element : Element Document) (rest : Input) :
    element.octets ++ rest =
      element.before.octets ++ (element.value.octets ++ (element.behind.octets ++ rest)) := by
  rw [Element.octets, List.append_assoc, List.append_assoc]

theorem Member.octets_append (member : Member Document) (rest : Input) :
    member.octets ++ rest = member.before.octets ++ 0x22 :: (member.key.octets ++
      (member.between.octets ++ 0x3a :: (member.element.octets ++ rest))) := by
  simp only [Member.octets, List.append_assoc, List.cons_append]

theorem skipGap_document (gap : Gap) (document : Document) (rest : Input) :
    skipGap (gap.octets ++ (document.octets ++ rest)) = document.octets ++ rest := by
  rcases document.opens with ⟨octet, others, same, solid, _⟩
  rw [gap.skip, same]
  exact skipGap_cons solid _

theorem nextElement_opening (gap : Gap) (element : Element Document) (rest : Input) :
    NextElement true (gap.octets ++ (element.octets ++ rest)) true
      (element.value.octets ++ (element.behind.octets ++ rest)) := by
  rcases element.value.opens with ⟨octet, others, same, _, different⟩
  have starts := skipGap_document element.before element.value (element.behind.octets ++ rest)
  rw [element.octets_append]
  rw [same] at starts ⊢
  exact .opening rfl ((gap.skip _).trans starts) different

theorem nextElement_separated (gap : Gap) (element : Element Document) (rest : Input) :
    NextElement false (gap.octets ++ 0x2c :: (element.octets ++ rest)) true
      (element.value.octets ++ (element.behind.octets ++ rest)) := by
  rcases element.value.opens with ⟨octet, others, same, _, different⟩
  have starts := skipGap_document element.before element.value (element.behind.octets ++ rest)
  rw [element.octets_append]
  rw [same] at starts ⊢
  exact .comma rfl ((gap.skip _).trans (skipGap_cons (by decide) _)) starts different

/-- A value stands at a place, behind a gap and before something that does not continue it. -/
def StandsAt (place : Input) (document : Document) : Prop :=
  ∃ (gap : Gap) (rest : Input), Stops rest ∧ place = gap.octets ++ (document.octets ++ rest)

theorem listPlaces_separated {elements : List (Element Document)}
    (skips : ∀ element ∈ elements, element.value.Skips) (rest : Input) : ∀ gap : Gap,
      ∃ places, ListPlaces false
          (gap.octets ++ (separatedBy Element.octets elements ++ 0x5d :: rest)) places rest ∧
        List.Forall₂ (fun place element => StandsAt place element.value) places elements := by
  induction elements with
  | nil => exact fun gap =>
      ⟨[], .close ((gap.skip _).trans (skipGap_cons (by decide) rest)), .nil⟩
  | cons element elements inductionHypothesis =>
    intro gap
    rw [List.forall_mem_cons] at skips
    rcases inductionHypothesis skips.2 element.behind with ⟨places, later, stand⟩
    have stops := element.behind.stops (stops_separatedBy Element.octets elements (Or.inl rfl) rest)
    have next := nextElement_separated gap element
      (separatedBy Element.octets elements ++ 0x5d :: rest)
    refine ⟨_ :: places, ?_, .cons ⟨.none, _, stops, rfl⟩ stand⟩
    rw [separatedBy_cons]
    exact .element next (skips.1 _ stops) later

/-- The elements of a list stand at its places. -/
theorem exists_listPlaces {elements : List (Element Document)}
    (skips : ∀ element ∈ elements, element.value.Skips) (opening : Gap) (rest : Input) :
    ∃ places, ListPlaces true
        (opening.octets ++ (joined (elementTexts elements) ++ 0x5d :: rest)) places rest ∧
      List.Forall₂ (fun place element => StandsAt place element.value) places elements := by
  rw [elementTexts_eq_map]
  cases elements with
  | nil => exact ⟨[], .close ((opening.skip _).trans (skipGap_cons (by decide) rest)), .nil⟩
  | cons element elements =>
    rw [List.forall_mem_cons] at skips
    rcases listPlaces_separated skips.2 rest element.behind with ⟨places, later, stand⟩
    have stops := element.behind.stops (stops_separatedBy Element.octets elements (Or.inl rfl) rest)
    have next := nextElement_opening opening element
      (separatedBy Element.octets elements ++ 0x5d :: rest)
    refine ⟨_ :: places, ?_, .cons ⟨.none, _, stops, rfl⟩ stand⟩
    rw [joined_map_cons, List.append_assoc]
    exact .element next (skips.1 _ stops) later

theorem ListPlaces.runs {first : Bool} {input after : Input} {places : List Input}
    (marks : ListPlaces first input places after) (frames : List Frame) :
    Runs ⟨.list :: frames, dueBefore first⟩ input ⟨frames, .next⟩ after := by
  induction marks with
  | close ends => exact .step (skipStep_close _ .list ends) (.refl _ _)
  | element next skipped _ inductionHypothesis =>
    exact (runs_element next skipped frames).trans inductionHypothesis

theorem skipElement_gap (frames : List Frame) (gap : Gap) (input : Input) :
    skipElement .object frames (gap.octets ++ input) = skipElement .object frames input := by
  unfold skipElement
  rw [gap.skip]

theorem skipElement_key (frames : List Frame) (member : Member Document) (rest : Input) :
    skipElement .object frames (member.octets ++ rest) =
      .ok (⟨.object :: frames, .value⟩, member.element.octets ++ rest) := by
  have starts : skipGap (member.octets ++ rest) = 0x22 :: (member.key.octets ++
      (member.between.octets ++ 0x3a :: (member.element.octets ++ rest))) := by
    rw [member.octets_append, member.before.skip]
    exact skipGap_cons (by decide) _
  have colon : expectColon (member.between.octets ++ 0x3a :: (member.element.octets ++ rest)) =
      .ok (member.element.octets ++ rest) :=
    expectColon_eq_ok_iff.mpr ((member.between.skip _).trans (skipGap_cons (by decide) _))
  unfold skipElement
  dsimp only
  rw [starts]
  refine bind_eq_ok_iff.mpr ⟨_, skipText_quotation member.key _, ?_⟩
  exact bind_eq_ok_iff.mpr ⟨_, colon, rfl⟩

theorem skipStep_first_key (frames : List Frame) {input quoted : Input}
    (starts : skipGap input = 0x22 :: quoted) :
    skipStep ⟨.object :: frames, .first⟩ input = skipElement .object frames input := by
  unfold skipStep
  dsimp only
  rw [starts]
  change skipElement .object frames (0x22 :: quoted) = _
  unfold skipElement
  rw [starts, skipGap_cons (by decide)]

theorem skipped_element {element : Element Document} (skips : element.value.Skips) {rest : Input}
    (stops : Stops rest) :
    Skipped (element.octets ++ rest) (element.behind.octets ++ rest) := by
  rw [element.octets_append]
  exact skipped_gap element.before (skips _ (element.behind.stops stops))

theorem runs_separated_members {members : List (Member Document)}
    (skips : ∀ member ∈ members, member.element.value.Skips) (frames : List Frame)
    (rest : Input) : ∀ gap : Gap,
      Runs ⟨.object :: frames, .next⟩
        (gap.octets ++ (separatedBy Member.octets members ++ 0x7d :: rest))
        ⟨frames, .next⟩ rest := by
  induction members with
  | nil =>
    intro gap
    have ends := (gap.skip (0x7d :: rest)).trans (skipGap_cons (by decide) rest)
    exact .step (skipStep_close false .object ends) (.refl _ _)
  | cons member members inductionHypothesis =>
    intro gap
    rw [List.forall_mem_cons] at skips
    have stops := stops_separatedBy Member.octets members (Or.inr rfl) rest
    have keyed : skipStep ⟨.object :: frames, .next⟩
        (gap.octets ++ (separatedBy Member.octets (member :: members) ++ 0x7d :: rest)) =
          .ok (⟨.object :: frames, .value⟩,
            member.element.octets ++ (separatedBy Member.octets members ++ 0x7d :: rest)) := by
      rw [separatedBy_cons]
      unfold skipStep
      dsimp only
      rw [gap.skip, skipGap_cons (by decide)]
      exact skipElement_key frames member _
    refine .step keyed (Runs.trans ?_ (inductionHypothesis skips.2 member.element.behind))
    exact skipped_element skips.1 stops _

theorem runs_members {members : List (Member Document)}
    (skips : ∀ member ∈ members, member.element.value.Skips) (opening : Gap) (rest : Input)
    (frames : List Frame) :
    Runs ⟨.object :: frames, .first⟩
      (opening.octets ++ (joined (memberTexts members) ++ 0x7d :: rest)) ⟨frames, .next⟩ rest := by
  rw [memberTexts_eq_map]
  cases members with
  | nil =>
    have ends := (opening.skip (0x7d :: rest)).trans (skipGap_cons (by decide) rest)
    exact .step (skipStep_close true .object ends) (.refl _ _)
  | cons member members =>
    rw [List.forall_mem_cons] at skips
    have stops := stops_separatedBy Member.octets members (Or.inr rfl) rest
    have starts : skipGap (opening.octets ++
        (member.octets ++ (separatedBy Member.octets members ++ 0x7d :: rest))) =
          0x22 :: (member.key.octets ++ (member.between.octets ++ 0x3a :: (member.element.octets ++
            (separatedBy Member.octets members ++ 0x7d :: rest)))) := by
      rw [opening.skip, member.octets_append, member.before.skip]
      exact skipGap_cons (by decide) _
    have keyed := skipStep_first_key frames starts
    rw [skipElement_gap, skipElement_key] at keyed
    rw [joined_map_cons, List.append_assoc]
    refine .step keyed (Runs.trans ?_ (runs_separated_members skips.2 frames rest
      member.element.behind))
    exact skipped_element skips.1 stops _

/-- Lists and objects end by themselves. -/
def Document.isContainer : Document → Bool
  | .list _ _ | .object _ _ => true
  | _ => false

theorem skipped_list_document {elements : List (Element Document)}
    (skips : ∀ element ∈ elements, element.value.Skips) (opening : Gap) (rest : Input) :
    Skipped ((Document.list opening elements).octets ++ rest) rest := by
  rcases exists_listPlaces skips opening rest with ⟨places, marks, _⟩
  rw [Document.octets, List.cons_append, List.append_assoc, List.append_assoc]
  exact skipped_list (skipGap_cons (by decide) _) marks.runs

theorem skipped_object_document {members : List (Member Document)}
    (skips : ∀ member ∈ members, member.element.value.Skips) (opening : Gap) (rest : Input) :
    Skipped ((Document.object opening members).octets ++ rest) rest := by
  rw [Document.octets, List.cons_append, List.append_assoc, List.append_assoc]
  exact skipped_object (skipGap_cons (by decide) _) (runs_members skips opening rest)

theorem expectWord_append (word : List UInt8) (rest : Input) :
    expectWord word (word ++ rest) = .ok rest := by
  induction word with
  | nil => rfl
  | cons letter letters inductionHypothesis => exact (if_pos rfl).trans inductionHypothesis

theorem skipped_word_document (letter : UInt8) (word : String)
    (known : (letter, word) ∈ [((0x6e : UInt8), "ull"), (0x74, "rue"), (0x66, "alse")])
    (rest : Input) : Skipped (letter :: (Text.octets word ++ rest)) rest := by
  have solid : isGap letter = false := by
    simp only [List.mem_cons, Prod.mk.injEq, List.not_mem_nil, or_false] at known
    rcases known with ⟨rfl, _⟩ | ⟨rfl, _⟩ | ⟨rfl, _⟩ <;> rfl
  exact skipped_word (skipGap_cons solid _) known (expectWord_append _ rest)

/-- Every document is skipped, and so are the documents in it. -/
theorem Document.skips (document : Document) : document.Skips := by
  induction document using Document.induction with
  | null => exact fun rest _ => skipped_word_document 0x6e "ull" (by decide) rest
  | boolean value =>
    intro rest _
    cases value with
    | true => exact skipped_word_document 0x74 "rue" (by decide) rest
    | false => exact skipped_word_document 0x66 "alse" (by decide) rest
  | number number =>
    intro rest stops
    rcases number.formed.head with ⟨octet, others, same, begins⟩
    rcases lexLiteral_of_isNumber number.formed with ⟨literal, read⟩
    have lexed := read .badNumber rest stops
    rw [Document.octets]
    rw [same, List.cons_append] at lexed ⊢
    rcases number_head begins with
      ⟨solid, notQuote, notList, _, notFalse, notNull, notTrue, notObject⟩
    apply skipped_of_opening
    intro frames
    have scalar : skipScalar octet (others ++ rest) = .ok rest := by
      rw [skipScalar, if_neg notNull, if_neg notTrue, if_neg notFalse, if_neg notQuote,
        if_pos begins]
      exact bind_eq_ok_iff.mpr ⟨_, lexed, rfl⟩
    unfold skipOpening
    rw [skipGap_cons solid]
    dsimp only
    rw [if_neg notList, if_neg notObject, scalar]
    rfl
  | text quotation =>
    intro rest _
    apply skipped_of_opening
    intro frames
    exact bind_eq_ok_iff.mpr ⟨rest, skipText_quotation quotation rest, rfl⟩
  | list opening elements each => exact fun rest _ => skipped_list_document each opening rest
  | object opening members each => exact fun rest _ => skipped_object_document each opening rest

/-- A container is skipped whatever follows it. -/
theorem Document.skipped_container {document : Document} (container : document.isContainer = true)
    (rest : Input) : Skipped (document.octets ++ rest) rest := by
  cases document with
  | list opening elements =>
    exact skipped_list_document (fun element _ => element.value.skips) opening rest
  | object opening members =>
    exact skipped_object_document (fun member _ => member.element.value.skips) opening rest
  | null | boolean | number | text => cases container

/-! ## Whatever is skipped is a document -/

/-- The text of an element of a list, or of a member of an object. -/
def Frame.IsItem : Frame → Input → Prop
  | .list, text => ∃ element : Element Document, element.octets = text
  | .object, text => ∃ member : Member Document, member.octets = text

/-- What a container still lacks, from a point where something is due in it up to its end. -/
def Frame.Lacks (frame : Frame) : Due → Input → Input → Prop
  | .first, input, rest => ∃ (opening : Gap) (items : List Input),
    (∀ item ∈ items, frame.IsItem item) ∧
      input = opening.octets ++ (joined items ++ frame.closing :: rest)
  | .next, input, rest => ∃ (gap : Gap) (items : List Input),
    (∀ item ∈ items, frame.IsItem item) ∧
      input = gap.octets ++ (separatedBy id items ++ frame.closing :: rest)
  | .value, input, rest => ∃ (element : Element Document) (items : List Input),
    (∀ item ∈ items, frame.IsItem item) ∧
      input = element.octets ++ (separatedBy id items ++ frame.closing :: rest)

/-- What the machine still has to pass over, up to the end of the value it began with. -/
def Completes : List Frame → Due → Input → Input → Prop
  | [], .value, input, after => ∃ (gap : Gap) (document : Document),
    input = gap.octets ++ (document.octets ++ after)
  | [], _, input, after => input = after
  | frame :: outer, due, input, after => ∃ rest, frame.Lacks due input rest ∧
    Completes outer .next rest after

/-- A document where a value is due. -/
theorem completes_value {frames : List Frame} {rest after : Input} (gap : Gap)
    (document : Document) (completes : Completes frames .next rest after) :
    Completes frames .value (gap.octets ++ (document.octets ++ rest)) after := by
  cases frames with
  | nil =>
    obtain rfl : rest = after := completes
    exact ⟨gap, document, rfl⟩
  | cons frame outer =>
    rcases completes with ⟨behind, ⟨last, items, each, rfl⟩, later⟩
    refine ⟨behind, ⟨⟨gap, document, last⟩, items, each, ?_⟩, later⟩
    rw [Element.octets_append]

theorem exists_elements {items : List Input} (each : ∀ item ∈ items, Frame.list.IsItem item) :
    ∃ elements : List (Element Document), items = elementTexts elements := by
  induction items with
  | nil => exact ⟨[], rfl⟩
  | cons item items inductionHypothesis =>
    rw [List.forall_mem_cons] at each
    rcases each.1 with ⟨element, rfl⟩
    rcases inductionHypothesis each.2 with ⟨elements, rfl⟩
    exact ⟨element :: elements, rfl⟩

theorem exists_members {items : List Input} (each : ∀ item ∈ items, Frame.object.IsItem item) :
    ∃ members : List (Member Document), items = memberTexts members := by
  induction items with
  | nil => exact ⟨[], rfl⟩
  | cons item items inductionHypothesis =>
    rw [List.forall_mem_cons] at each
    rcases each.1 with ⟨member, rfl⟩
    rcases inductionHypothesis each.2 with ⟨members, rfl⟩
    exact ⟨member :: members, rfl⟩

theorem append_of_expectWord {word : List UInt8} : ∀ {input rest : Input},
    expectWord word input = .ok rest → input = word ++ rest := by
  induction word with
  | nil =>
    intro input rest met
    cases met
    rfl
  | cons letter letters inductionHypothesis =>
    intro input rest met
    cases input with
    | nil => cases met
    | cons octet others =>
      rw [expectWord] at met
      split at met
      · rename_i same
        rw [same, inductionHypothesis met, List.cons_append]
      · cases met

/-- A scalar that is skipped is a document. -/
theorem exists_document_of_skipScalar {octet : UInt8} {input rest : Input}
    (skipped : skipScalar octet input = .ok rest) :
    ∃ document : Document, octet :: input = document.octets ++ rest := by
  unfold skipScalar at skipped
  split at skipped
  · rename_i letter
    rw [letter, append_of_expectWord skipped]
    exact ⟨.null, rfl⟩
  split at skipped
  · rename_i letter
    rw [letter, append_of_expectWord skipped]
    exact ⟨.boolean true, rfl⟩
  split at skipped
  · rename_i letter
    rw [letter, append_of_expectWord skipped]
    exact ⟨.boolean false, rfl⟩
  split at skipped
  · rename_i quote
    rcases exists_quotation_of_skipText skipped with ⟨quotation, rfl⟩
    exact ⟨.text quotation, by rw [quote]; rfl⟩
  split at skipped
  · rcases bind_eq_ok_iff.mp skipped with ⟨⟨literal, last⟩, lexed, done⟩
    cases done
    rcases exists_number_of_lexLiteral lexed with ⟨number, split⟩
    exact ⟨.number number, split⟩
  · cases skipped

theorem completes_of_skipOpening {frames : List Frame} {input rest after : Input} {next : Skip}
    (opened : skipOpening frames input = .ok (next, rest))
    (completes : Completes next.frames next.due rest after) :
    Completes frames .value input after := by
  rcases exists_gap input with ⟨gap, split⟩
  unfold skipOpening at opened
  split at opened
  · cases opened
  rename_i octet inner starts
  rw [split, starts]
  split at opened
  · rename_i bracket
    cases opened
    rcases completes with ⟨behind, ⟨opening, items, each, rfl⟩, later⟩
    rcases exists_elements each with ⟨elements, rfl⟩
    have document := completes_value gap (.list opening elements) later
    rw [Document.octets, List.cons_append, List.append_assoc, List.append_assoc] at document
    rw [bracket]
    exact document
  split at opened
  · rename_i brace
    cases opened
    rcases completes with ⟨behind, ⟨opening, items, each, rfl⟩, later⟩
    rcases exists_members each with ⟨members, rfl⟩
    have document := completes_value gap (.object opening members) later
    rw [Document.octets, List.cons_append, List.append_assoc, List.append_assoc] at document
    rw [brace]
    exact document
  · rcases bind_eq_ok_iff.mp opened with ⟨last, scalar, done⟩
    cases done
    rcases exists_document_of_skipScalar scalar with ⟨document, same⟩
    rw [same]
    exact completes_value gap document completes

/-- Where an item of a container is due: the item, the others, and what stands behind the end. -/
def Frame.StartsItem (frame : Frame) (outer : List Frame) (input after : Input) : Prop :=
  ∃ (item : Input) (items : List Input) (behind : Input),
    frame.IsItem item ∧ (∀ item ∈ items, frame.IsItem item) ∧
      input = item ++ (separatedBy id items ++ frame.closing :: behind) ∧
        Completes outer .next behind after

section Items

variable {frame : Frame} {outer : List Frame} {input rest after : Input}

/-- Where a value is due in a list, one of its items is. -/
theorem startsItem_of_value (completes : Completes (.list :: outer) .value input after) :
    Frame.list.StartsItem outer input after := by
  rcases completes with ⟨behind, ⟨element, items, each, same⟩, later⟩
  exact ⟨element.octets, items, behind, ⟨element, rfl⟩, each, same, later⟩

/-- Whatever the machine takes for the start of an item is one. -/
theorem startsItem_of_skipElement {next : Skip}
    (skipped : skipElement frame outer input = .ok (next, rest))
    (completes : Completes next.frames next.due rest after) :
    frame.StartsItem outer input after := by
  cases frame with
  | list => exact startsItem_of_value (completes_of_skipOpening skipped completes)
  | object =>
    rcases exists_gap input with ⟨before, split⟩
    unfold skipElement at skipped
    dsimp only at skipped
    split at skipped
    · cases skipped
    rename_i octet quoted starts
    split at skipped
    · rename_i quote
      rcases bind_eq_ok_iff.mp skipped with ⟨beyond, text, skipped⟩
      rcases bind_eq_ok_iff.mp skipped with ⟨place, colon, done⟩
      cases done
      rcases exists_quotation_of_skipText text with ⟨key, rfl⟩
      rcases exists_gap beyond with ⟨between, parted⟩
      rw [expectColon_eq_ok_iff.mp colon] at parted
      rcases completes with ⟨behind, ⟨element, items, each, rfl⟩, later⟩
      refine ⟨_, items, behind, ⟨⟨before, key, between, element⟩, rfl⟩, each, ?_, later⟩
      rw [Member.octets_append, split, starts, quote, parted]
    · cases skipped

theorem Frame.StartsItem.first (starts : frame.StartsItem outer input after) (gap : Gap) :
    Completes (frame :: outer) .first (gap.octets ++ input) after := by
  rcases starts with ⟨item, items, behind, isItem, each, rfl, later⟩
  refine ⟨behind, ⟨gap, item :: items, List.forall_mem_cons.mpr ⟨isItem, each⟩, ?_⟩, later⟩
  rw [joined, List.append_assoc]
  rfl

theorem Frame.StartsItem.next (starts : frame.StartsItem outer input after) (gap : Gap) :
    Completes (frame :: outer) .next (gap.octets ++ 0x2c :: input) after := by
  rcases starts with ⟨item, items, behind, isItem, each, rfl, later⟩
  refine ⟨behind, ⟨gap, item :: items, List.forall_mem_cons.mpr ⟨isItem, each⟩, ?_⟩, later⟩
  rw [separatedBy_cons]
  rfl

/-- The end of a container stands where its first item or a comma might. -/
theorem completes_closing {due : Due} (noValue : due ≠ .value)
    (completes : Completes outer .next rest after) (gap : Gap) :
    Completes (frame :: outer) due (gap.octets ++ frame.closing :: rest) after := by
  have none : ∀ item ∈ ([] : List Input), frame.IsItem item :=
    fun _ member => absurd member List.not_mem_nil
  cases due with
  | value => exact absurd rfl noValue
  | first => exact ⟨rest, ⟨gap, [], none, rfl⟩, completes⟩
  | next => exact ⟨rest, ⟨gap, [], none, rfl⟩, completes⟩

/-- A step within a container, at its first item. -/
theorem completes_of_firstStep {next : Skip}
    (stepped : skipStep ⟨frame :: outer, .first⟩ input = .ok (next, rest))
    (completes : Completes next.frames next.due rest after) :
    Completes (frame :: outer) .first input after := by
  rcases exists_gap input with ⟨gap, parted⟩
  unfold skipStep at stepped
  dsimp only at stepped
  split at stepped
  · cases stepped
  rename_i octet inner starts
  rw [parted]
  split at stepped
  · rename_i closes
    cases stepped
    rw [starts, closes]
    exact completes_closing (by decide) completes gap
  · rw [if_pos rfl, ← starts] at stepped
    exact (startsItem_of_skipElement stepped completes).first gap

/-- A step within a container, behind one of its items. -/
theorem completes_of_nextStep {next : Skip}
    (stepped : skipStep ⟨frame :: outer, .next⟩ input = .ok (next, rest))
    (completes : Completes next.frames next.due rest after) :
    Completes (frame :: outer) .next input after := by
  rcases exists_gap input with ⟨gap, parted⟩
  unfold skipStep at stepped
  dsimp only at stepped
  split at stepped
  · cases stepped
  rename_i octet inner starts
  rw [parted, starts]
  split at stepped
  · rename_i closes
    cases stepped
    rw [closes]
    exact completes_closing (by decide) completes gap
  rw [if_neg (by decide)] at stepped
  split at stepped
  · rename_i comma
    rw [comma]
    cases frame with
    | list =>
      cases stepped
      exact (startsItem_of_value completes).next gap
    | object => exact (startsItem_of_skipElement stepped completes).next gap
  · cases stepped

end Items

/-- One step passes over the front of what the machine still has to pass over. -/
theorem completes_of_skipStep {state next : Skip} {input rest after : Input}
    (stepped : skipStep state input = .ok (next, rest))
    (completes : Completes next.frames next.due rest after) :
    Completes state.frames state.due input after := by
  rcases state with ⟨frames, due⟩
  cases due with
  | value => exact completes_of_skipOpening stepped completes
  | first =>
    cases frames with
    | nil =>
      cases stepped
      exact completes
    | cons frame outer => exact completes_of_firstStep stepped completes
  | next =>
    cases frames with
    | nil =>
      cases stepped
      exact completes
    | cons frame outer => exact completes_of_nextStep stepped completes

theorem completes_of_runs {state last : Skip} {input after : Input}
    (runs : Runs state input last after) (done : last = ⟨[], .next⟩) :
    Completes state.frames state.due input after := by
  induction runs with
  | refl =>
    subst done
    rfl
  | step stepped _ inductionHypothesis =>
    exact completes_of_skipStep stepped (inductionHypothesis done)

/-- Whatever is skipped is a document, perhaps behind a gap. -/
theorem Skipped.exists_document {input after : Input} (skipped : Skipped input after) :
    ∃ (gap : Gap) (document : Document), input = gap.octets ++ (document.octets ++ after) :=
  completes_of_runs (skipped []) rfl

end Json
end LendingGateway
