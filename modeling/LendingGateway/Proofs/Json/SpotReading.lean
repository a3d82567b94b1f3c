import LendingGateway.Proofs.Json.Spots

namespace LendingGateway
namespace Json

open Traversal

/-!
# Reading the number at a spot

The direct reader gets as far as the spot, whatever number is there, and what becomes of the
number decides what it finds.  There is one lemma for each kind of container around the spot.
-/

/-- What becomes of a part decides what is read directly, where the part is found in what is read
first. -/
def Turns {α : Type} (outcome : Except Cause α) (shape : Shape) (first second : Document)
    (get : shape.Value → Option α) : Prop :=
  ∀ ⦃depth : Nat⦄ ⦃place other last : Input⦄ ⦃value : shape.Value⦄, StandsAt place first →
    StandsAt other second → shape.read depth place = .ok (value, last) → get value ≠ none →
      DecidesReading outcome get (shape.read depth other)

theorem StandsAt.skipGap_head {place inner : Input} {octet : UInt8} {document : Document}
    (stands : StandsAt place document) (starts : Json.skipGap place = octet :: inner) :
    document.Marked octet := by
  rcases stands.skipGap with ⟨rest, _, opening⟩
  exact Document.marked_of_starts (opening.symm.trans starts)

theorem Shape.read_optional_of_present {inner : Shape} {depth : Nat} {place : Input}
    {document : Document} (stands : StandsAt place document) (present : document ≠ .null) :
    (Shape.optional inner).read depth place =
      inner.read depth place >>= fun read => .ok (some read.1, read.2) := by
  rw [Shape.read]
  split
  · rename_i rest starts
    exact absurd (Document.eq_null_of_marked (stands.skipGap_head starts)) present
  · rfl

section Containers

variable {α : Type} {outcome : Except Cause α} {second : Document}

theorem turns_optional {inner : Shape} {first : Document} {get : inner.Value → Option α}
    (present : first ≠ .null) (remains : second ≠ .null)
    (turns : Turns outcome inner first second get) :
    Turns outcome (.optional inner) first second fun held => held.bind get := by
  intro depth place other last held stands again read found
  rw [Shape.read_optional_of_present stands present] at read
  rcases bind_eq_ok_iff.mp read with ⟨⟨value, _⟩, direct, done⟩
  cases done
  have decided := turns stands again direct found
  rw [Shape.read_optional_of_present again remains]
  cases outcome with
  | error cause => exact FailsFor.bind decided _
  | ok _ =>
    rcases decided with ⟨new, ended, same, got⟩
    exact ⟨some new, ended, bind_eq_ok_iff.mpr ⟨_, same, rfl⟩, got⟩

variable {before behind : List (Element Document)} {element : Element Document} {opening : Gap}

theorem turns_list {item : Shape} {get : item.Value → Option α}
    (turns : Turns outcome item element.value second get) :
    Turns outcome (.list item) (.list opening (before ++ element :: behind))
      (.list opening (before ++ element.withValue second :: behind))
      fun values => values[before.length]?.bind get := by
  intro depth place other last values stands again read found
  rcases Shape.read_list_iff_places.mp read with ⟨inner, below, places, starts, rfl, marks, each⟩
  rcases listPlaces_pair stands again starts marks with
    ⟨rest, front, spot, hole, back, ended, begins, marked, paired, counted, first, fills⟩
  rcases forall₂_append_cons_iff.mp
    ((forall₂_iff_of_related paired (Shape.portable item below).iff).mp each) with
    ⟨earlier, value, later, rfl, early, ⟨_, own⟩, late⟩
  have position : earlier.length = before.length := early.length_eq.symm.trans counted
  have picked := fun value => bind_getElem?_of_length position value later get
  have decided := turns first fills own fun nothing => found ((picked value).trans nothing)
  cases outcome with
  | error cause =>
    rw [Shape.read, begins]
    exact failsFor_readList (Shape.skipped_of_read item) decided marked early
  | ok _ =>
    rcases decided with ⟨new, tail, same, got⟩
    refine ⟨earlier ++ new :: later, ended, ?_, (picked new).trans got⟩
    exact Shape.read_list_iff_places.mpr ⟨rest, below, _, begins, rfl, marked,
      forall₂_append_cons_iff.mpr ⟨_, _, _, rfl, early, ⟨tail, same⟩, late⟩⟩

variable {key : String} {fields : Fields} {shape : Shape} {position : Nat}
  {pick : fields.Value → shape.Value} {get : shape.Value → Option α}

theorem turns_element {title : String} (field : fields.Field key shape before.length pick)
    (turns : Turns outcome shape element.value second get) :
    Turns outcome (.record title fields) (.list opening (before ++ element :: behind))
      (.list opening (before ++ element.withValue second :: behind))
      fun values => get (pick values) := by
  intro depth place other last values stands again read found
  rcases Shape.read_record_iff_places.mp read with
    ⟨inner, below, places, slots, starts, _⟩ | ⟨inner, below, places, starts, rfl, marks, reads⟩
  · cases stands.skipGap_head starts
  rcases listPlaces_pair stands again starts marks with
    ⟨rest, front, spot, hole, back, ended, begins, marked, paired, counted, first, fills⟩
  have held := (Fields.portableElements fields below paired values).mp reads
  rcases field.exists_read counted held with ⟨_, own⟩
  have decided := turns first fills own found
  cases outcome with
  | error cause =>
    have failed : FailsFor cause (fields.readElements title fields.count below 0 rest) :=
      field.failsFor_readElements decided counted held marked
    rw [Shape.read, begins]
    exact failed.bind _
  | ok _ =>
    rcases decided with ⟨new, tail, same, got⟩
    rcases field.readsPlaces ⟨tail, same⟩ counted held with ⟨values, taken, picked⟩
    refine ⟨values, ended, ?_, (congrArg get picked).trans got⟩
    exact Shape.read_record_iff_places.mpr
      (Or.inr ⟨rest, below, _, begins, rfl, marked, taken⟩)

theorem turns_member {title : String} {members others : List (Member Document)}
    {member : Member Document} (field : fields.Field key shape position pick)
    (named : member.name? = some key)
    (turns : Turns outcome shape member.element.value second get) :
    Turns outcome (.record title fields) (.object opening (members ++ member :: others))
      (.object opening (members ++ member.withValue second :: others))
      fun values => get (pick values) := by
  intro depth place other last values stands again read found
  rcases Shape.read_record_iff_places.mp read with
    ⟨inner, below, places, slots, starts, rfl, marks, folds, filled⟩ | ⟨inner, below, places, starts, _⟩
  swap
  · cases stands.skipGap_head starts
  rcases objectPlaces_pair stands again named starts marks with
    ⟨rest, front, spot, hole, back, ended, begins, marked, paired, first, fills⟩
  have walked := (folds_iff_of_related paired fun same =>
    Fields.portableStep fields below same).mp folds
  have walk := Fields.walk_read below
  rcases walk.reads_pick field walked filled with ⟨_, own⟩
  have decided := turns first fills own found
  cases outcome with
  | error cause =>
    rcases folds_append_iff.mp walked with ⟨middle, early, late⟩
    cases late with
    | cons stepped late =>
      have failed : FailsFor cause (readMembers (fields.placeMember below) (rest.length + 1) true
          fields.noSlots rest) :=
        failsFor_readMembers (fun _ _ _ _ _ => Fields.takes_placeMember)
          (fun _ colon => field.failsFor_placeMember decided colon stepped)
          (Nat.lt_succ_self _) marked early
      rw [Shape.read, begins]
      exact failed.bind _
  | ok _ =>
    rcases decided with ⟨new, tail, same, got⟩
    rcases walk.refill_folds field ⟨tail, same⟩ walked with ⟨_, slots, _, walked, refilled⟩
    rcases (refilled.fill filled).2 with ⟨values, taken, picked⟩
    refine ⟨values, ended, ?_, (congrArg get picked).trans got⟩
    exact Shape.read_record_iff_places.mpr
      (Or.inl ⟨rest, below, _, slots, begins, rfl, marked, walked, taken⟩)

end Containers

/-! ## Tagged records -/

/-- Where the fields of a variant are found, they are taken out of the tree as of a record. -/
theorem Variants.Variant.decides {fields : Fields} {variants : Variants}
    {choose : variants.Value → Option fields.Value} (variant : variants.Variant fields choose)
    {α : Type} {outcome : Except Cause α} {get : fields.Value → Option α} {name : String}
    {tree new : Tree}
    (decides : ∀ title values, (Shape.record title fields).ofTree tree = .ok values →
      Decides outcome get ((Shape.record title fields).ofTree new)) :
    ∀ {value : variants.Value}, variants.ofTree name tree = .ok value → choose value ≠ none →
      Decides outcome (fun value => (choose value).bind get) (variants.ofTree name new) := by
  induction variant with
  | @one _ title =>
    intro values held _
    exact decides title values held
  | @first known title rest =>
    intro value held found
    unfold Variants.ofTree at held ⊢
    by_cases own : name = known
    · rw [if_pos own] at held ⊢
      rcases bind_eq_ok_iff.mp held with ⟨values, record, _⟩
      exact (decides title values record).bind fun values => ⟨.inl values, rfl, rfl⟩
    · rw [if_neg own] at held
      rcases bind_eq_ok_iff.mp held with ⟨values, _, done⟩
      cases done
      exact absurd rfl found
  | @later known title others rest _ _ inductionHypothesis =>
    intro value held found
    unfold Variants.ofTree at held ⊢
    by_cases own : name = known
    · rw [if_pos own] at held
      rcases bind_eq_ok_iff.mp held with ⟨values, _, done⟩
      cases done
      exact absurd rfl found
    · rw [if_neg own] at held ⊢
      rcases bind_eq_ok_iff.mp held with ⟨value, behind, done⟩
      cases done
      exact (inductionHypothesis behind found).bind fun value => ⟨.inr value, rfl, rfl⟩

/-- Of the members of a tagged record, one that is not the tag may have another tree. -/
theorem TaggedPlaces.replace {tag name key : String} {names : List String} {depth : Nat}
    (other : key ≠ tag) {spot : Input} {back : List (String × Input)} :
    ∀ {front : List (String × Input)} {members : List (String × Tree)},
      TaggedPlaces tag names depth name (front ++ (key, spot) :: back) members →
        ∃ earlier value later, members = earlier ++ (key, value) :: later ∧
          (∃ last, Tree.read depth spot = .ok (value, last)) ∧
          ∀ hole new last, Tree.read depth hole = .ok (new, last) →
            TaggedPlaces tag names depth name (front ++ (key, hole) :: back)
              (earlier ++ (key, new) :: later) := by
  intro front
  induction front with
  | nil =>
    intro members tagged
    cases tagged with
    | here => exact absurd rfl other
    | @there _ member _ members _ read behind =>
      rcases member with ⟨name, value⟩
      obtain rfl : name = key := read.1
      exact ⟨[], value, members, rfl, read.2, fun hole new last held =>
        .there other ⟨rfl, last, held⟩ behind⟩
  | cons place front inductionHypothesis =>
    intro members tagged
    cases tagged with
    | here named different each =>
      rcases forall₂_append_cons_iff.mp each with
        ⟨earlier, ⟨name, value⟩, later, rfl, early, own, late⟩
      obtain rfl : name = key := own.1
      refine ⟨earlier, value, later, rfl, own.2, fun hole new last held => .here named ?_ ?_⟩
      · intro twin member
        rcases List.mem_append.mp member with early | member
        · exact different twin (List.mem_append_left _ early)
        · rcases List.mem_cons.mp member with rfl | late
          · exact other
          · exact different twin (List.mem_append_right _ (List.mem_cons_of_mem _ late))
      · exact forall₂_append_cons_iff.mpr ⟨_, _, _, rfl, early, ⟨rfl, last, held⟩, late⟩
    | @there _ member _ members different read behind =>
      rcases inductionHypothesis behind with ⟨earlier, value, later, rfl, own, replaced⟩
      exact ⟨member :: earlier, value, later, rfl, own, fun hole new last held =>
        .there different read (replaced hole new last held)⟩

section Tagged

variable {title tag name : String} {depth : Nat} {opening : Gap} {tree : Tree}
  {place twin last : Input} {document : Document}

theorem failsFor_readTaggedMember {names : List String} {cause : Cause} {key : String}
    (other : key ≠ tag) {hole beyond : Input} (failed : FailsFor cause (Tree.read depth hole))
    (colon : expectColon beyond = .ok hole) (gathered : Option String × List (String × Tree)) :
    FailsFor cause (readTaggedMember tag names depth gathered key beyond) := by
  rw [readTaggedMember, if_neg other]
  exact failsFor_bind (here_eq_ok_iff.mpr colon) ((failed.inside _).bind _)

/-- Two tagged records that differ in one member, which is not the tag. -/
theorem readTagged_object_pair {names : List String} {members others : List (Member Document)}
    {member : Member Document} {key : String}
    (stands : StandsAt place (.object opening (members ++ member :: others)))
    (again : StandsAt twin (.object opening (members ++ member.withValue document :: others)))
    (other : key ≠ tag) (named : member.name? = some key)
    (tagged : readTagged title tag names depth place = .ok ((name, tree), last)) :
    ∃ below spot hole earlier value later, tree = .object (earlier ++ (key, value) :: later) ∧
      StandsAt spot member.element.value ∧ StandsAt hole document ∧
      (∃ last, Tree.read below spot = .ok (value, last)) ∧
      (∀ new last, Tree.read below hole = .ok (new, last) →
        ∃ last, readTagged title tag names depth twin =
          .ok ((name, .object (earlier ++ (key, new) :: later)), last)) ∧
      ∀ cause, FailsFor cause (Tree.read below hole) →
        FailsFor cause (readTagged title tag names depth twin) := by
  rcases readTagged_cases tagged with ⟨inner, starts⟩ | ⟨inner, starts⟩
  swap
  · cases stands.skipGap_head starts
  rcases (readTagged_object_iff_places starts).mp tagged with
    ⟨below, places, gathered, rfl, marks, found, rfl⟩
  rcases objectPlaces_pair stands again named starts marks with
    ⟨rest, front, spot, hole, back, ended, begins, marked, paired, first, fills⟩
  have same := found.of_twins paired
  rcases same.replace other with ⟨earlier, value, later, rfl, own, replaced⟩
  refine ⟨below, spot, hole, earlier, value, later, rfl, first, fills, own, ?_, ?_⟩
  · intro new last read
    exact ⟨ended, (readTagged_object_iff_places begins).mpr
      ⟨below, _, _, rfl, marked, replaced hole new last read, rfl⟩⟩
  · intro cause failed
    have folds : Folds (TagStep tag names below) (none, []) (front ++ (key, spot) :: back)
        (some name, (earlier ++ (key, value) :: later).reverse ++ []) :=
      folds_tagStep_iff.mpr ⟨_, same, rfl⟩
    rcases folds_append_iff.mp folds with ⟨middle, early, _⟩
    have loop : FailsFor cause (readMembers (readTaggedMember tag names below)
        (rest.length + 1) true (none, []) rest) :=
      failsFor_readMembers
        (fun gathered key beyond next after =>
          @takes_readTaggedMember tag names below gathered next key beyond after)
        (fun _ colon => failsFor_readTaggedMember other failed colon middle)
        (Nat.lt_succ_self _) marked early
    rw [readTagged, begins]
    exact loop.bind _

/-- Two tagged records in lists that differ in one element behind the name. -/
theorem readTagged_list_pair {names : List String} {before behind : List (Element Document)}
    {label element : Element Document}
    (stands : StandsAt place (.list opening (label :: before ++ element :: behind)))
    (again : StandsAt twin
      (.list opening (label :: before ++ element.withValue document :: behind)))
    (tagged : readTagged title tag names depth place = .ok ((name, tree), last)) :
    ∃ below spot hole earlier value later, tree = .list (earlier ++ value :: later) ∧
      earlier.length = before.length ∧ StandsAt spot element.value ∧ StandsAt hole document ∧
      (∃ last, Tree.read below spot = .ok (value, last)) ∧
      (∀ new last, Tree.read below hole = .ok (new, last) →
        ∃ last, readTagged title tag names depth twin =
          .ok ((name, .list (earlier ++ new :: later)), last)) ∧
      ∀ cause, FailsFor cause (Tree.read below hole) →
        FailsFor cause (readTagged title tag names depth twin) := by
  rcases readTagged_cases tagged with ⟨inner, starts⟩ | ⟨inner, starts⟩
  · cases stands.skipGap_head starts
  rcases (readTagged_list_iff_places starts).mp tagged with
    ⟨below, head, places, items, rfl, marks, ⟨_, named⟩, each, rfl⟩
  rcases listPlaces_pair stands again starts marks with
    ⟨rest, front, spot, hole, back, ended, begins, marked, paired, counted, first, fills⟩
  cases front with
  | nil => cases counted
  | cons lead front =>
    rcases List.forall₂_cons.mp paired with ⟨same, paired⟩
    rcases readVariantName_of_twins same named with ⟨between, named⟩
    rcases forall₂_append_cons_iff.mp
      ((forall₂_iff_of_related paired (Tree.portable below).iff).mp each) with
      ⟨earlier, value, later, rfl, early, own, late⟩
    have position := early.length_eq.symm.trans (Nat.succ.inj counted)
    refine ⟨below, spot, hole, earlier, value, later, rfl, position, first, fills, own, ?_, ?_⟩
    · intro new last read
      exact ⟨ended, (readTagged_list_iff_places begins).mpr ⟨below, lead, _, _, rfl, marked,
        ⟨_, named⟩, forall₂_append_cons_iff.mpr ⟨_, _, _, rfl, early, ⟨last, read⟩, late⟩, rfl⟩⟩
    · intro cause failed
      cases marked with
      | element next skipped marked =>
        obtain rfl := skipped.unique (skipped_of_readVariantName named)
        have loop : FailsFor cause (readItems (Tree.read below) (_ + 1) 1 [] _) :=
          failsFor_readItems skipped_of_readTree failed (Nat.lt_succ_self _) marked early
        rw [readTagged, begins]
        refine failsFor_bind (here_eq_ok_iff.mpr (nextElement_eq_ok_iff.mpr next)) ?_
        refine failsFor_bind (inside_eq_ok_iff.mpr (here_eq_ok_iff.mpr named)) ?_
        exact loop.bind _

variable {α : Type} {variants : Variants}

theorem decidesReading_tagged {outcome : Except Cause α} {get : variants.Value → Option α}
    (tagged : readTagged title tag variants.names depth place = .ok ((name, tree), last))
    (decided : Decides outcome get (variants.ofTree name tree)) :
    DecidesReading outcome get ((Shape.tagged title tag variants).read depth place) := by
  cases outcome with
  | error cause =>
    rw [Shape.read]
    exact failsFor_bind tagged ((failsFor_here decided).bind _)
  | ok _ =>
    rcases decided with ⟨value, held, got⟩
    exact ⟨value, last, Shape.read_tagged_eq_ok_iff.mpr ⟨name, tree, tagged, held⟩, got⟩

theorem failsFor_tagged {cause : Cause}
    (failed : FailsFor cause (readTagged title tag variants.names depth place)) :
    FailsFor cause ((Shape.tagged title tag variants).read depth place) := by
  rw [Shape.read]
  exact failed.bind _

variable {numeral : Except Cause Numeral} {convert : Numeral → Except Cause α}
  {key : String} {fields : Fields} {shape : Shape} {position : Nat}
  {choose : variants.Value → Option fields.Value} {pick : fields.Value → shape.Value}
  {get : shape.Value → Option α}

theorem turns_variantMember {members others : List (Member Document)} {member : Member Document}
    (variant : variants.Variant fields choose) (field : fields.Field key shape position pick)
    (other : key ≠ tag) (named : member.name? = some key)
    (turns : TurnsTree numeral convert shape member.element.value document get) :
    Turns (numeral >>= convert) (.tagged title tag variants)
      (.object opening (members ++ member :: others))
      (.object opening (members ++ member.withValue document :: others))
      fun value => (choose value).bind fun values => get (pick values) := by
  intro depth place twin last value stands again read found
  rcases Shape.read_tagged_eq_ok_iff.mp read with ⟨name, tree, tagged, held⟩
  rcases readTagged_object_pair stands again other named tagged with
    ⟨below, spot, hole, earlier, tree, later, rfl, first, fills, ⟨_, own⟩, succeeds, fails⟩
  have decided := turns first fills own
  have present : choose value ≠ none := fun nothing =>
    found (congrArg (fun held => held.bind fun values => get (pick values)) nothing)
  cases numeral with
  | error cause => exact failsFor_tagged (fails cause decided)
  | ok numeral =>
    rcases decided with ⟨new, _, same, decides⟩
    rcases succeeds new _ same with ⟨ended, tagged⟩
    refine decidesReading_tagged tagged ?_
    exact variant.decides (fun _ _ taken => field.decides_object decides taken) held present

theorem turns_variantElement {before behind : List (Element Document)}
    {label element : Element Document} (variant : variants.Variant fields choose)
    (field : fields.Field key shape before.length pick)
    (turns : TurnsTree numeral convert shape element.value document get) :
    Turns (numeral >>= convert) (.tagged title tag variants)
      (.list opening (label :: before ++ element :: behind))
      (.list opening (label :: before ++ element.withValue document :: behind))
      fun value => (choose value).bind fun values => get (pick values) := by
  intro depth place twin last value stands again read found
  rcases Shape.read_tagged_eq_ok_iff.mp read with ⟨name, tree, tagged, held⟩
  rcases readTagged_list_pair stands again tagged with
    ⟨below, spot, hole, earlier, tree, later, rfl, counted, first, fills, ⟨_, own⟩, succeeds, fails⟩
  have decided := turns first fills own
  have present : choose value ≠ none := fun nothing =>
    found (congrArg (fun held => held.bind fun values => get (pick values)) nothing)
  cases numeral with
  | error cause => exact failsFor_tagged (fails cause decided)
  | ok numeral =>
    rcases decided with ⟨new, _, same, decides⟩
    rcases succeeds new _ same with ⟨ended, tagged⟩
    refine decidesReading_tagged tagged ?_
    exact variant.decides (fun _ _ taken => field.decides_list decides counted taken) held present

end Tagged

/-! ## All spots -/

/-- The number at a spot decides what is read. -/
theorem Spot.turns {kind : IntegerKind} {x y : Number} {shape : Shape} {first second : Document}
    {get : shape.Value → Option kind.shape.Value}
    (spot : Spot kind x y shape first second get) :
    Turns (kind.outcome y) shape first second get := by
  induction spot with
  | here =>
    intro depth place other last value _ again _ _
    rcases readNumber_of_standsAt again kind.wanted kind.convert with ⟨ended, same⟩
    rw [kind.read_eq, same]
    change DecidesReading (kind.outcome y) some
      (Json.here (kind.outcome y >>= fun value => .ok (value, ended)))
    cases kind.outcome y with
    | error cause => exact ⟨[], rfl⟩
    | ok found => exact ⟨found, ended, rfl, rfl⟩
  | present spot inductionHypothesis =>
    exact turns_optional spot.ne_null.1 spot.ne_null.2 inductionHypothesis
  | item _ inductionHypothesis => exact turns_list inductionHypothesis
  | member field named _ inductionHypothesis =>
    exact turns_member field named inductionHypothesis
  | element field _ inductionHypothesis => exact turns_element field inductionHypothesis
  | variantMember variant untagged field other named spot _ =>
    exact turns_variantMember variant field other named (spot.turnsTree untagged)
  | variantElement variant untagged field spot _ =>
    exact turns_variantElement variant field (spot.turnsTree untagged)

end Json
end LendingGateway
