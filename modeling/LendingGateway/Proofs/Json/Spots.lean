import LendingGateway.Proofs.Json.Integers
import LendingGateway.Proofs.Json.Refilling

namespace LendingGateway
namespace Json

open Traversal

/-!
# The spots of integers

A document has a number at a spot where its shape wants an integer.  With another number there,
everything that was read before is read again, and what becomes of that number decides what
becomes of the document.  Tagged records are read by way of trees, so this is shown twice: of the
trees that are read in their place, and of the values that are read directly.
-/

/-! ## Spots -/

/-- The fields of one of several variants, picked out of the choice. -/
inductive Variants.Variant (fields : Fields) :
    (variants : Variants) → (pick : variants.Value → Option fields.Value) → Prop where
  | one {name title : String} : Variants.Variant fields (.one name title fields) some
  | first {name title : String} {rest : Variants} :
    Variants.Variant fields (.more name title fields rest) (Sum.elim some fun _ => none)
  | later {name title : String} {others : Fields} {rest : Variants}
    {pick : rest.Value → Option fields.Value} (variant : Variants.Variant fields rest pick) :
    Variants.Variant fields (.more name title others rest) (Sum.elim (fun _ => none) pick)

/-- Two documents have a number each at the same spot, where an integer of a kind is wanted, and
are the same elsewhere.  The integer is got from the values of the shape, as far as they have
one there. -/
inductive Spot (kind : IntegerKind) (x y : Number) : (shape : Shape) →
    (first second : Document) → (get : shape.Value → Option kind.shape.Value) → Prop where
  | here : Spot kind x y kind.shape (.number x) (.number y) some
  | present {inner : Shape} {first second : Document}
    {get : inner.Value → Option kind.shape.Value} (spot : Spot kind x y inner first second get) :
    Spot kind x y (.optional inner) first second fun held => held.bind get
  | item {item : Shape} {opening : Gap} {before behind : List (Element Document)}
    {element : Element Document} {second : Document}
    {get : item.Value → Option kind.shape.Value}
    (spot : Spot kind x y item element.value second get) :
    Spot kind x y (.list item) (.list opening (before ++ element :: behind))
      (.list opening (before ++ element.withValue second :: behind))
      fun values => values[before.length]?.bind get
  | member {title key : String} {fields : Fields} {shape : Shape} {position : Nat}
    {pick : fields.Value → shape.Value} {opening : Gap} {before behind : List (Member Document)}
    {member : Member Document} {second : Document}
    {get : shape.Value → Option kind.shape.Value}
    (field : fields.Field key shape position pick) (named : member.name? = some key)
    (spot : Spot kind x y shape member.element.value second get) :
    Spot kind x y (.record title fields) (.object opening (before ++ member :: behind))
      (.object opening (before ++ member.withValue second :: behind))
      fun values => get (pick values)
  | element {title key : String} {fields : Fields} {shape : Shape}
    {pick : fields.Value → shape.Value} {opening : Gap} {before behind : List (Element Document)}
    {element : Element Document} {second : Document}
    {get : shape.Value → Option kind.shape.Value}
    (field : fields.Field key shape before.length pick)
    (spot : Spot kind x y shape element.value second get) :
    Spot kind x y (.record title fields) (.list opening (before ++ element :: behind))
      (.list opening (before ++ element.withValue second :: behind))
      fun values => get (pick values)
  | variantMember {title tag key : String} {variants : Variants} {fields : Fields}
    {choose : variants.Value → Option fields.Value} {shape : Shape} {position : Nat}
    {pick : fields.Value → shape.Value} {opening : Gap} {before behind : List (Member Document)}
    {member : Member Document} {second : Document}
    {get : shape.Value → Option kind.shape.Value}
    (variant : variants.Variant fields choose) (untagged : shape.untagged = true)
    (field : fields.Field key shape position pick) (other : key ≠ tag)
    (named : member.name? = some key)
    (spot : Spot kind x y shape member.element.value second get) :
    Spot kind x y (.tagged title tag variants) (.object opening (before ++ member :: behind))
      (.object opening (before ++ member.withValue second :: behind))
      fun value => (choose value).bind fun values => get (pick values)
  | variantElement {title tag key : String} {variants : Variants} {fields : Fields}
    {choose : variants.Value → Option fields.Value} {shape : Shape}
    {pick : fields.Value → shape.Value} {opening : Gap} {name element : Element Document}
    {before behind : List (Element Document)} {second : Document}
    {get : shape.Value → Option kind.shape.Value}
    (variant : variants.Variant fields choose) (untagged : shape.untagged = true)
    (field : fields.Field key shape before.length pick)
    (spot : Spot kind x y shape element.value second get) :
    Spot kind x y (.tagged title tag variants)
      (.list opening (name :: before ++ element :: behind))
      (.list opening (name :: before ++ element.withValue second :: behind))
      fun value => (choose value).bind fun values => get (pick values)

theorem Spot.ne_null {kind : IntegerKind} {x y : Number} {shape : Shape}
    {first second : Document} {get : shape.Value → Option kind.shape.Value}
    (spot : Spot kind x y shape first second get) : first ≠ .null ∧ second ≠ .null := by
  induction spot with
  | here | item | member | element | variantMember | variantElement => exact ⟨nofun, nofun⟩
  | present _ inductionHypothesis => exact inductionHypothesis

/-! ## Numbers where they stand -/

theorem readNumber_of_standsAt {α : Type} {place : Input} {number : Number}
    (stands : StandsAt place (.number number)) (wanted : Wanted)
    (convert : Numeral → Except Cause α) :
    ∃ last, readNumber wanted convert place =
      (number.numeral >>= convert) >>= fun value => .ok (value, last) := by
  rcases stands.skipGap with ⟨last, stops, starts⟩
  rcases number.formed.head with ⟨octet, others, spelt, begins⟩
  have read := readNumeral_number number stops
  rw [Document.octets, spelt, List.cons_append] at starts
  rw [spelt, List.cons_append] at read
  refine ⟨last, ?_⟩
  rw [readNumber, starts]
  dsimp only
  rw [if_pos begins, read]
  cases number.numeral <;> rfl

theorem readTree_of_standsAt {place : Input} {number : Number}
    (stands : StandsAt place (.number number)) (depth : Nat) :
    ∃ last, Tree.read depth place =
      here (number.numeral >>= fun numeral => .ok (.number numeral, last)) := by
  rcases stands.skipGap with ⟨last, stops, starts⟩
  rcases number.formed.head with ⟨octet, others, spelt, begins⟩
  have read := readNumeral_number number stops
  rw [Document.octets, spelt, List.cons_append] at starts
  rw [spelt, List.cons_append] at read
  rcases number_head begins with ⟨_, notQuote, notList, _, notFalse, notNull, notTrue, notObject⟩
  refine ⟨last, ?_⟩
  unfold Tree.read
  rw [starts]
  dsimp only
  rw [if_neg notList, if_neg notObject, readScalar, if_neg notNull, if_neg notTrue,
    if_neg notFalse, if_neg notQuote, if_pos begins, read]
  cases number.numeral <;> rfl

theorem Tree.ne_null_of_read {depth : Nat} {place last : Input} {document : Document} {tree : Tree}
    (stands : StandsAt place document) (present : document ≠ .null)
    (read : Tree.read depth place = .ok (tree, last)) : tree ≠ .null := by
  rintro rfl
  rcases stands.skipGap with ⟨rest, _, starts⟩
  cases Tree.read_eq_ok_iff.mp read with
  | null opening =>
    exact present (Document.eq_null_of_marked (Document.marked_of_starts (starts.symm.trans opening)))

/-! ## Trees of containers that differ in one value -/

theorem Tree.list_pair {depth : Nat} {place other last : Input} {opening : Gap}
    {before behind : List (Element Document)} {element : Element Document} {document : Document}
    {tree : Tree} (first : StandsAt place (.list opening (before ++ element :: behind)))
    (second : StandsAt other (.list opening (before ++ element.withValue document :: behind)))
    (read : Tree.read depth place = .ok (tree, last)) :
    ∃ below spot hole front item back, tree = .list (front ++ item :: back) ∧
      front.length = before.length ∧ StandsAt spot element.value ∧ StandsAt hole document ∧
      (∃ last, Tree.read below spot = .ok (item, last)) ∧
      (∀ new last, Tree.read below hole = .ok (new, last) →
        ∃ last, Tree.read depth other = .ok (.list (front ++ new :: back), last)) ∧
      ∀ cause, FailsFor cause (Tree.read below hole) → FailsFor cause (Tree.read depth other) := by
  rcases first.exists_listPlaces with ⟨inner, places, after, starts, marks, _⟩
  rcases Tree.items_of_read read starts marks with ⟨items, below, rfl, rfl, each⟩
  rcases listPlaces_pair first second starts marks with
    ⟨rest, before', spot, hole, behind', ended, again, marked, paired, counted, stands, fills⟩
  rcases forall₂_append_cons_iff.mp
    ((forall₂_iff_of_related paired (Tree.portable below).iff).mp each) with
    ⟨front, item, back, rfl, early, own, late⟩
  refine ⟨below, spot, hole, front, item, back, rfl, early.length_eq.symm.trans counted, stands,
    fills, own, ?_, ?_⟩
  · intro new last held
    exact ⟨ended, Tree.read_list_iff_places.mpr ⟨rest, below, _, again, rfl, marked,
      forall₂_append_cons_iff.mpr ⟨front, new, back, rfl, early, ⟨last, held⟩, late⟩⟩⟩
  · intro cause failed
    unfold Tree.read
    rw [again]
    exact (failsFor_readList skipped_of_readTree failed marked early).bind _

theorem Tree.object_pair {depth : Nat} {place other last : Input} {opening : Gap}
    {before behind : List (Member Document)} {member : Member Document} {document : Document}
    {key : String} {tree : Tree}
    (first : StandsAt place (.object opening (before ++ member :: behind)))
    (second : StandsAt other (.object opening (before ++ member.withValue document :: behind)))
    (named : member.name? = some key) (read : Tree.read depth place = .ok (tree, last)) :
    ∃ below spot hole front value back, tree = .object (front ++ (key, value) :: back) ∧
      StandsAt spot member.element.value ∧ StandsAt hole document ∧
      (∃ last, Tree.read below spot = .ok (value, last)) ∧
      (∀ new last, Tree.read below hole = .ok (new, last) →
        ∃ last, Tree.read depth other = .ok (.object (front ++ (key, new) :: back), last)) ∧
      ∀ cause, FailsFor cause (Tree.read below hole) → FailsFor cause (Tree.read depth other) := by
  rcases first.skipGap with ⟨_, _, starts⟩
  rcases (Tree.read_eq_ok_iff.mp read).eq_object starts with ⟨members, rfl⟩
  rcases Tree.read_object_iff_places.mp read with ⟨inner, below, places, starts, rfl, marks, each⟩
  rcases objectPlaces_pair first second named starts marks with
    ⟨rest, before', spot, hole, behind', ended, again, marked, paired, stands, fills⟩
  rcases forall₂_append_cons_iff.mp
    ((forall₂_iff_of_related paired (readAt_iff_of_twins (Tree.portable below))).mp each) with
    ⟨front, ⟨name, value⟩, back, rfl, early, own, late⟩
  obtain rfl : name = key := own.1
  refine ⟨below, spot, hole, front, value, back, rfl, stands, fills, own.2, ?_, ?_⟩
  · intro new last held
    exact ⟨ended, Tree.read_object_iff_places.mpr ⟨rest, below, _, again, rfl, marked,
      forall₂_append_cons_iff.mpr ⟨front, (name, new), back, rfl, early, ⟨rfl, last, held⟩, late⟩⟩⟩
  · intro cause failed
    unfold Tree.read
    rw [again]
    have takes : ∀ ⦃gathered key beyond next after⦄,
        readTreeMember below gathered key beyond = .ok (next, after) ↔
          ∃ place, expectColon beyond = .ok place ∧ Skipped place after ∧
            TreeStep below gathered (key, place) next :=
      fun _ _ _ _ _ => readTreeMember_eq_ok_iff.trans (takes_of_reader skipped_of_readTree)
    have walked : Folds (TreeStep below) [] before' (front.reverse ++ []) :=
      folds_treeStep_iff.mpr ⟨front, early, rfl⟩
    refine (failsFor_readMembers takes ?_ (Nat.lt_succ_self _) marked walked).bind _
    intro beyond colon
    exact failsFor_bind (here_eq_ok_iff.mpr colon) ((failed.inside _).bind _)

/-! ## What decides the value of a tree -/

/-- What becomes of a number decides the tree that is read, and then the value that a shape
takes out of it. -/
def TurnsTree {α : Type} (numeral : Except Cause Numeral) (convert : Numeral → Except Cause α)
    (shape : Shape) (first second : Document) (get : shape.Value → Option α) : Prop :=
  ∀ ⦃depth : Nat⦄ ⦃place other last : Input⦄ ⦃tree : Tree⦄, StandsAt place first →
    StandsAt other second → Tree.read depth place = .ok (tree, last) →
      match numeral with
      | .ok numeral => ∃ new last, Tree.read depth other = .ok (new, last) ∧
          ∀ value, shape.ofTree tree = .ok value →
            Decides (convert numeral) get (shape.ofTree new)
      | .error cause => FailsFor cause (Tree.read depth other)

section Trees

variable {α : Type} {numeral : Except Cause Numeral} {convert : Numeral → Except Cause α}
  {second : Document}

theorem turnsTree_optional {inner : Shape} {first : Document} {get : inner.Value → Option α}
    (present : first ≠ .null) (remains : second ≠ .null)
    (turns : TurnsTree numeral convert inner first second get) :
    TurnsTree numeral convert (.optional inner) first second fun held => held.bind get := by
  intro depth place other last tree stands again read
  have decided := turns stands again read
  cases numeral with
  | error cause => exact decided
  | ok numeral =>
    rcases decided with ⟨new, ended, same, decides⟩
    refine ⟨new, ended, same, ?_⟩
    rw [Shape.ofTree_optional (Tree.ne_null_of_read stands present read),
      Shape.ofTree_optional (Tree.ne_null_of_read again remains same)]
    intro held taken
    rcases bind_eq_ok_iff.mp taken with ⟨value, own, _⟩
    exact (decides value own).bind fun value => ⟨some value, rfl, rfl⟩

variable {before behind : List (Element Document)} {element : Element Document} {opening : Gap}

theorem turnsTree_list {item : Shape} {get : item.Value → Option α}
    (turns : TurnsTree numeral convert item element.value second get) :
    TurnsTree numeral convert (.list item) (.list opening (before ++ element :: behind))
      (.list opening (before ++ element.withValue second :: behind))
      fun values => values[before.length]?.bind get := by
  intro depth place other last tree stands again read
  rcases Tree.list_pair stands again read with
    ⟨below, spot, hole, front, own, back, rfl, counted, first, fills, ⟨_, held⟩, succeeds, fails⟩
  have decided := turns first fills held
  cases numeral with
  | error cause => exact fails cause decided
  | ok numeral =>
    rcases decided with ⟨new, _, same, decides⟩
    rcases succeeds new _ same with ⟨ended, whole⟩
    refine ⟨_, ended, whole, ?_⟩
    intro values taken
    rcases forall₂_append_cons_iff.mp (mapM_eq_ok_iff.mp taken) with
      ⟨earlier, value, later, rfl, early, known, late⟩
    have decided := decides value known
    cases outcome : convert numeral with
    | error cause =>
      rw [outcome] at decided
      exact mapM_of_first_error (mapM_isOk_iff.mp ⟨earlier, mapM_eq_ok_iff.mpr early⟩) decided back
    | ok found =>
      rw [outcome] at decided
      rcases decided with ⟨value, known, got⟩
      have values : ((front ++ new :: back).mapM item.ofTree) = .ok (earlier ++ value :: later) :=
        mapM_eq_ok_iff.mpr (forall₂_append_cons_iff.mpr ⟨_, _, _, rfl, early, known, late⟩)
      have position : earlier.length = before.length := early.length_eq.symm.trans counted
      exact ⟨_, values, (bind_getElem?_of_length position value later get).trans got⟩

variable {title key : String} {fields : Fields} {shape : Shape} {position : Nat}
  {pick : fields.Value → shape.Value} {get : shape.Value → Option α}

theorem turnsTree_element (field : fields.Field key shape before.length pick)
    (turns : TurnsTree numeral convert shape element.value second get) :
    TurnsTree numeral convert (.record title fields) (.list opening (before ++ element :: behind))
      (.list opening (before ++ element.withValue second :: behind))
      fun values => get (pick values) := by
  intro depth place other last tree stands again read
  rcases Tree.list_pair stands again read with
    ⟨below, spot, hole, front, own, back, rfl, counted, first, fills, ⟨_, held⟩, succeeds, fails⟩
  have decided := turns first fills held
  cases numeral with
  | error cause => exact fails cause decided
  | ok numeral =>
    rcases decided with ⟨new, _, same, decides⟩
    rcases succeeds new _ same with ⟨ended, whole⟩
    exact ⟨_, ended, whole, fun values taken => field.decides_list decides counted taken⟩

theorem turnsTree_member {members others : List (Member Document)} {member : Member Document}
    (field : fields.Field key shape position pick) (named : member.name? = some key)
    (turns : TurnsTree numeral convert shape member.element.value second get) :
    TurnsTree numeral convert (.record title fields) (.object opening (members ++ member :: others))
      (.object opening (members ++ member.withValue second :: others))
      fun values => get (pick values) := by
  intro depth place other last tree stands again read
  rcases Tree.object_pair stands again named read with
    ⟨below, spot, hole, front, own, back, rfl, first, fills, ⟨_, held⟩, succeeds, fails⟩
  have decided := turns first fills held
  cases numeral with
  | error cause => exact fails cause decided
  | ok numeral =>
    rcases decided with ⟨new, _, same, decides⟩
    rcases succeeds new _ same with ⟨ended, whole⟩
    exact ⟨_, ended, whole, fun values taken => field.decides_object decides taken⟩

end Trees

theorem Fields.Field.untagged {key : String} {shape : Shape} {fields : Fields} {position : Nat}
    {pick : fields.Value → shape.Value} (field : fields.Field key shape position pick)
    (untagged : fields.untagged = true) : shape.untagged = true := by
  induction field with
  | first => exact (Fields.untagged_cons untagged).1
  | later _ _ inductionHypothesis =>
    exact inductionHypothesis (Fields.untagged_cons untagged).2

/-- The number at a spot decides the tree of the document and its value. -/
theorem Spot.turnsTree {kind : IntegerKind} {x y : Number} {shape : Shape}
    {first second : Document} {get : shape.Value → Option kind.shape.Value}
    (spot : Spot kind x y shape first second get) (untagged : shape.untagged = true) :
    TurnsTree y.numeral kind.convert shape first second get := by
  induction spot with
  | here =>
    intro depth place other last tree _ again _
    rcases readTree_of_standsAt again depth with ⟨ended, same⟩
    cases denoted : y.numeral with
    | error cause =>
      rw [denoted] at same
      exact ⟨[], same⟩
    | ok numeral =>
      rw [denoted] at same
      refine ⟨.number numeral, ended, same, fun _ _ => ?_⟩
      rw [kind.ofTree_number]
      cases kind.convert numeral with
      | error cause => rfl
      | ok found => exact ⟨found, rfl, rfl⟩
  | present spot inductionHypothesis =>
    exact turnsTree_optional spot.ne_null.1 spot.ne_null.2 (inductionHypothesis untagged)
  | item _ inductionHypothesis => exact turnsTree_list (inductionHypothesis untagged)
  | member field named _ inductionHypothesis =>
    exact turnsTree_member field named (inductionHypothesis (field.untagged untagged))
  | element field _ inductionHypothesis =>
    exact turnsTree_element field (inductionHypothesis (field.untagged untagged))
  | variantMember | variantElement => cases untagged

end Json
end LendingGateway
