import LendingGateway.Proofs.Json.Failing

namespace LendingGateway
namespace Json

open Traversal

/-!
# Another value for one field

A record is read again with another value for one of its fields.  Whatever the record is read
from, its other fields stay as they are, and the new one is what is read in the new place.  If
nothing can be read there, then the record fails for that reason.
-/

/-! ## Fields and what decides a result -/

/-- A record has a field of a key and a shape, in a position, and its value is picked out of
those of the record. -/
inductive Fields.Field (key : String) (shape : Shape) :
    (fields : Fields) → (position : Nat) → (pick : fields.Value → shape.Value) → Prop where
  | first {presence : Presence} {rest : Fields} :
    Fields.Field key shape (.cons key presence shape rest) 0 fun values => values.1
  | later {name : String} {presence : Presence} {other : Shape} {rest : Fields} {position : Nat}
    {pick : rest.Value → shape.Value} (different : key ≠ name)
    (field : Fields.Field key shape rest position pick) :
    Fields.Field key shape (.cons name presence other rest) (position + 1)
      fun values => pick values.2

/-- What becomes of a part decides a result: the result has the value of the part where it is
looked for, or it fails as the part does. -/
def Decides {α β : Type} (outcome : Except Cause α) (get : β → Option α)
    (result : Except Cause β) : Prop :=
  match outcome with
  | .ok held => ∃ value, result = .ok value ∧ get value = some held
  | .error cause => result = .error cause

/-- What is decided stays so when a step follows that cannot fail. -/
theorem Decides.bind {α β γ : Type} {outcome : Except Cause α} {get : β → Option α}
    {result : Except Cause β} (decided : Decides outcome get result) {pick : γ → Option α}
    {next : β → Except Cause γ}
    (follows : ∀ value, ∃ other, next value = .ok other ∧ pick other = get value) :
    Decides outcome pick (result >>= next) := by
  cases outcome with
  | error cause => exact bind_of_error decided _
  | ok held =>
    rcases decided with ⟨value, done, got⟩
    rcases follows value with ⟨other, again, picked⟩
    exact ⟨other, bind_eq_ok_iff.mpr ⟨value, done, again⟩, picked.trans got⟩

/-- The same of a reading. -/
def DecidesReading {α β : Type} (outcome : Except Cause α) (get : β → Option α)
    (result : Except Fault (β × Input)) : Prop :=
  match outcome with
  | .ok held => ∃ value last, result = .ok (value, last) ∧ get value = some held
  | .error cause => FailsFor cause result

/-! ## Walks along the members of a record -/

/-- A way to take the members of an object into the fields of a record: the first field reads
the member with its key, if it has not met one, and leaves every other member to the fields
behind it. -/
structure Fields.Walk {ι : Type} (reads : (shape : Shape) → ι → shape.Value → Prop)
    (step : (fields : Fields) → fields.Slots → String × ι → fields.Slots → Prop) : Prop where
  own : ∀ {key : String} {presence : Presence} {shape : Shape} {rest : Fields} {place : ι}
    {slots next : (Fields.cons key presence shape rest).Slots},
    step (.cons key presence shape rest) slots (key, place) next ↔
      slots.1 = none ∧ (∃ value, reads shape place value ∧ next.1 = some value) ∧
        next.2 = slots.2
  other : ∀ {key : String} {presence : Presence} {shape : Shape} {rest : Fields}
    {member : String × ι} {slots next : (Fields.cons key presence shape rest).Slots},
    member.1 ≠ key → (step (.cons key presence shape rest) slots member next ↔
      next.1 = slots.1 ∧ step rest slots.2 member next.2)

/-- The fields read so far, of which one has met a value, and the same with another value for
that field. -/
inductive Fields.Refilled (key : String) {shape : Shape} (met value : shape.Value) :
    (fields : Fields) → (pick : fields.Value → shape.Value) →
      (slots others : fields.Slots) → Prop where
  | first {presence : Presence} {rest : Fields} {slots : rest.Slots} :
    Fields.Refilled key met value (.cons key presence shape rest) (fun values => values.1)
      (some met, slots) (some value, slots)
  | later {name : String} {presence : Presence} {other : Shape} {rest : Fields}
    {pick : rest.Value → shape.Value} {slot : Option other.Value} {slots others : rest.Slots}
    (different : key ≠ name)
    (refilled : Fields.Refilled key met value rest pick slots others) :
    Fields.Refilled key met value (.cons name presence other rest) (fun values => pick values.2)
      (slot, slots) (slot, others)

section Walks

variable {ι : Type} {reads : (shape : Shape) → ι → shape.Value → Prop}
  {step : (fields : Fields) → fields.Slots → String × ι → fields.Slots → Prop}
  {key : String} {shape : Shape} {fields : Fields} {pick : fields.Value → shape.Value}
  {met value : shape.Value}

theorem Fields.Walk.exists_read (walk : Fields.Walk reads step) {position : Nat} {place : ι}
    (field : fields.Field key shape position pick) :
    ∀ {slots next : fields.Slots}, step fields slots (key, place) next →
      ∃ value, reads shape place value := by
  induction field with
  | first =>
    intro slots next stepped
    rcases walk.own.mp stepped with ⟨_, ⟨value, read, _⟩, _⟩
    exact ⟨value, read⟩
  | later different _ inductionHypothesis =>
    intro slots next stepped
    exact inductionHypothesis ((walk.other different).mp stepped).2

/-- Where a member is taken by a field, another value of the field is taken as well. -/
theorem Fields.Walk.refill (walk : Fields.Walk reads step) {position : Nat} {place hole : ι}
    (field : fields.Field key shape position pick) (read : reads shape hole value) :
    ∀ {slots next : fields.Slots}, step fields slots (key, place) next →
      ∃ met refilled, reads shape place met ∧ step fields slots (key, hole) refilled ∧
        Fields.Refilled key met value fields pick next refilled := by
  induction field with
  | first =>
    rintro ⟨slot, slots⟩ ⟨filled, next⟩ stepped
    rcases walk.own.mp stepped with ⟨fresh, ⟨met, own, same⟩, kept⟩
    obtain rfl : filled = some met := same
    exact ⟨met, (some value, next), own, walk.own.mpr ⟨fresh, ⟨value, read, rfl⟩, kept⟩, .first⟩
  | later different _ inductionHypothesis =>
    rintro ⟨slot, slots⟩ ⟨filled, next⟩ stepped
    rcases (walk.other different).mp stepped with ⟨kept, behind⟩
    rcases inductionHypothesis behind with ⟨met, refilled, own, again, changed⟩
    exact ⟨met, (filled, refilled), own, (walk.other different).mpr ⟨kept, again⟩,
      .later different changed⟩

/-- A further member does not notice the change. -/
theorem Fields.Refilled.take (walk : Fields.Walk reads step) {member : String × ι}
    {slots others : fields.Slots} (refilled : Fields.Refilled key met value fields pick slots others) :
    ∀ {next : fields.Slots}, step fields slots member next →
      ∃ following, step fields others member following ∧
        Fields.Refilled key met value fields pick next following := by
  induction refilled with
  | first =>
    rintro ⟨filled, next⟩ stepped
    by_cases own : member.1 = key
    · rcases member with ⟨name, place⟩
      obtain rfl : name = key := own
      cases (walk.own.mp stepped).1
    · rcases (walk.other own).mp stepped with ⟨kept, behind⟩
      obtain rfl : filled = some _ := kept
      exact ⟨(some value, next), (walk.other own).mpr ⟨rfl, behind⟩, .first⟩
  | @later name presence other rest pick slot slots others different changed inductionHypothesis =>
    rintro ⟨filled, next⟩ stepped
    by_cases own : member.1 = name
    · rcases member with ⟨_, place⟩
      obtain rfl : _ = name := own
      rcases walk.own.mp stepped with ⟨fresh, held, kept⟩
      obtain rfl : next = slots := kept
      exact ⟨(filled, others), walk.own.mpr ⟨fresh, held, rfl⟩, .later different changed⟩
    · rcases (walk.other own).mp stepped with ⟨kept, behind⟩
      rcases inductionHypothesis behind with ⟨following, again, changed⟩
      exact ⟨(filled, following), (walk.other own).mpr ⟨kept, again⟩, .later different changed⟩

theorem Fields.Refilled.folds (walk : Fields.Walk reads step) {members : List (String × ι)}
    {slots last : fields.Slots} (folds : Folds (step fields) slots members last) :
    ∀ {others : fields.Slots}, Fields.Refilled key met value fields pick slots others →
      ∃ following, Folds (step fields) others members following ∧
        Fields.Refilled key met value fields pick last following := by
  induction folds with
  | nil => exact fun refilled => ⟨_, .nil _, refilled⟩
  | cons stepped _ inductionHypothesis =>
    intro others refilled
    rcases refilled.take walk stepped with ⟨next, again, changed⟩
    rcases inductionHypothesis changed with ⟨following, later, final⟩
    exact ⟨following, .cons again later, final⟩

/-- A walk along members of which one has another value. -/
theorem Fields.Walk.refill_folds (walk : Fields.Walk reads step) {position : Nat} {place hole : ι}
    (field : fields.Field key shape position pick) (read : reads shape hole value)
    {before behind : List (String × ι)} {slots last : fields.Slots}
    (folds : Folds (step fields) slots (before ++ (key, place) :: behind) last) :
    ∃ met following, reads shape place met ∧
      Folds (step fields) slots (before ++ (key, hole) :: behind) following ∧
        Fields.Refilled key met value fields pick last following := by
  rcases folds_append_iff.mp folds with ⟨middle, early, late⟩
  cases late with
  | cons stepped late =>
    rcases walk.refill field read stepped with ⟨met, next, own, again, changed⟩
    rcases Fields.Refilled.folds walk late changed with ⟨following, later, final⟩
    exact ⟨met, following, own, folds_append_iff.mpr ⟨middle, early, .cons again later⟩, final⟩

/-- The one record has the value that was met, and the other one the new value. -/
theorem Fields.Refilled.fill {slots others : fields.Slots}
    (refilled : Fields.Refilled key met value fields pick slots others) :
    ∀ {values : fields.Value}, fields.fill slots = .ok values →
      pick values = met ∧ ∃ found, fields.fill others = .ok found ∧ pick found = value := by
  induction refilled with
  | first =>
    rintro ⟨held, values⟩ filled
    rcases Fields.fill_cons_eq_ok_iff.mp filled with ⟨own | ⟨impossible, _⟩, later⟩
    · exact ⟨(Option.some.inj own).symm, (value, values),
        Fields.fill_cons_eq_ok_iff.mpr ⟨Or.inl rfl, later⟩, rfl⟩
    · cases impossible
  | later _ _ inductionHypothesis =>
    rintro ⟨held, values⟩ filled
    rcases Fields.fill_cons_eq_ok_iff.mp filled with ⟨own, later⟩
    rcases inductionHypothesis later with ⟨same, found, again, picked⟩
    exact ⟨same, (held, found), Fields.fill_cons_eq_ok_iff.mpr ⟨own, again⟩, picked⟩

/-- The value that is picked out of a record is read in the member with its key. -/
theorem Fields.Walk.reads_pick (walk : Fields.Walk reads step) {position : Nat} {place : ι}
    (field : fields.Field key shape position pick) {before behind : List (String × ι)}
    {slots last : fields.Slots}
    (folds : Folds (step fields) slots (before ++ (key, place) :: behind) last)
    {values : fields.Value} (filled : fields.fill last = .ok values) :
    reads shape place (pick values) := by
  rcases folds_append_iff.mp folds with ⟨middle, _, late⟩
  cases late with
  | cons stepped late =>
    rcases walk.exists_read field stepped with ⟨value, read⟩
    rcases walk.refill_folds field read folds with ⟨met, following, own, _, refilled⟩
    rw [(refilled.fill filled).1]
    exact own

end Walks

/-! ## Records that are read directly -/

theorem Fields.walk_read (depth : Nat) :
    Fields.Walk (fun shape place value => ∃ last, shape.read depth place = .ok (value, last))
      fun fields slots member next => fields.PlaceStep depth slots member next where
  own := by
    intro key presence shape rest place slots next
    rw [Fields.placeStep_own_iff, OwnStep, and_assoc]
    simp only [exists_and_right]
  other different := Fields.placeStep_other_iff different

section Direct

variable {key : String} {shape : Shape} {fields : Fields} {position : Nat}
  {pick : fields.Value → shape.Value} {depth : Nat} {cause : Cause}

/-- A field that cannot be read fails its member. -/
theorem Fields.Field.failsFor_placeMember (field : fields.Field key shape position pick)
    {place hole beyond : Input} (failed : FailsFor cause (shape.read depth hole))
    (colon : expectColon beyond = .ok hole) : ∀ {slots next : fields.Slots},
      fields.PlaceStep depth slots (key, place) next →
        FailsFor cause (fields.placeMember depth slots key beyond) := by
  induction field with
  | first =>
    rintro ⟨slot, slots⟩ next stepped
    obtain rfl : slot = none := ((Fields.walk_read depth).own.mp stepped).1
    rw [Fields.placeMember_own]
    exact failsFor_bind (here_eq_ok_iff.mpr colon) ((failed.inside _).bind _)
  | later different _ inductionHypothesis =>
    rintro ⟨slot, slots⟩ next stepped
    rw [Fields.placeMember_other different]
    exact (inductionHypothesis (((Fields.walk_read depth).other different).mp stepped).2).bind _

/-- The value of a field is read at its position in a list. -/
theorem Fields.Field.exists_read (field : fields.Field key shape position pick)
    {place : Input} {behind : List Input} :
    ∀ {before : List Input} {values : fields.Value}, before.length = position →
      fields.ReadsPlaces depth (before ++ place :: behind) values →
        ∃ last, shape.read depth place = .ok (pick values, last) := by
  induction field with
  | first =>
    rintro before ⟨_, values⟩ counted reads
    obtain rfl := List.length_eq_zero_iff.mp counted
    exact reads.1
  | later _ _ inductionHypothesis =>
    rintro before ⟨held, values⟩ counted reads
    cases before with
    | nil => cases counted
    | cons first before => exact inductionHypothesis (Nat.succ.inj counted) reads.2

/-- The fields of a list are read with another element for one of them. -/
theorem Fields.Field.readsPlaces (field : fields.Field key shape position pick)
    {place hole : Input} {value : shape.Value}
    (read : ∃ last, shape.read depth hole = .ok (value, last)) {behind : List Input} :
    ∀ {before : List Input} {values : fields.Value}, before.length = position →
      fields.ReadsPlaces depth (before ++ place :: behind) values →
        ∃ found, fields.ReadsPlaces depth (before ++ hole :: behind) found ∧ pick found = value := by
  induction field with
  | first =>
    rintro before ⟨_, values⟩ counted reads
    obtain rfl := List.length_eq_zero_iff.mp counted
    exact ⟨(value, values), ⟨read, reads.2⟩, rfl⟩
  | later _ _ inductionHypothesis =>
    rintro before ⟨held, values⟩ counted reads
    cases before with
    | nil => cases counted
    | cons first before =>
      rcases inductionHypothesis (Nat.succ.inj counted) reads.2 with ⟨found, again, picked⟩
      exact ⟨(held, found), ⟨reads.1, again⟩, picked⟩

theorem Fields.Field.failsFor_readElements (field : fields.Field key shape position pick)
    {title : String} {total : Nat} {place hole : Input}
    (failed : FailsFor cause (shape.read depth hole)) {behind : List Input} {after : Input} :
    ∀ {before : List Input} {values : fields.Value} {index : Nat} {input : Input},
      before.length = position → fields.ReadsPlaces depth (before ++ place :: behind) values →
      ListPlaces (index == 0) input (before ++ hole :: behind) after →
        FailsFor cause (fields.readElements title total depth index input) := by
  induction field with
  | first =>
    rintro before ⟨_, values⟩ index input counted _ marks
    obtain rfl := List.length_eq_zero_iff.mp counted
    cases marks with
    | element next =>
      rw [Fields.readElements]
      refine failsFor_bind (here_eq_ok_iff.mpr (nextElement_eq_ok_iff.mpr next)) ?_
      exact (failed.inside _).bind _
  | later _ _ inductionHypothesis =>
    rintro before ⟨held, values⟩ index input counted reads marks
    cases before with
    | nil => cases counted
    | cons first before =>
      cases marks with
      | element next skipped later =>
        rcases reads with ⟨⟨last, read⟩, reads⟩
        obtain rfl := skipped.unique (Shape.skipped_of_read _ read)
        rw [Fields.readElements]
        refine failsFor_bind (here_eq_ok_iff.mpr (nextElement_eq_ok_iff.mpr next)) ?_
        refine failsFor_bind (inside_eq_ok_iff.mpr read) (FailsFor.bind ?_ _)
        exact inductionHypothesis (Nat.succ.inj counted) reads later

end Direct

/-! ## Records out of trees -/

section Steps

variable {key name : String} {presence : Presence} {shape : Shape} {rest : Fields}

theorem Fields.stepTree_own (slots : rest.Slots) (tree : Tree) :
    (Fields.cons key presence shape rest).stepTree (none, slots) (key, tree) =
      shape.ofTree tree >>= fun value => .ok (some value, slots) :=
  if_pos rfl

theorem Fields.stepTree_again (met : shape.Value) (slots : rest.Slots) (tree : Tree) :
    (Fields.cons key presence shape rest).stepTree (some met, slots) (key, tree) =
      .error (.duplicateField key) :=
  if_pos rfl

theorem Fields.stepTree_other (different : name ≠ key) (slot : Option shape.Value)
    (slots : rest.Slots) (tree : Tree) :
    (Fields.cons key presence shape rest).stepTree (slot, slots) (name, tree) =
      rest.stepTree slots (name, tree) >>= fun others => .ok (slot, others) :=
  if_neg different

end Steps

theorem Fields.walk_ofTree :
    Fields.Walk (fun shape tree value => shape.ofTree tree = .ok value)
      fun fields slots member next => fields.stepTree slots member = .ok next where
  own := by
    rintro key presence shape rest tree ⟨slot, slots⟩ ⟨filled, next⟩
    constructor
    · intro placed
      cases slot with
      | some met =>
        rw [Fields.stepTree_again] at placed
        cases placed
      | none =>
        rw [Fields.stepTree_own] at placed
        rcases bind_eq_ok_iff.mp placed with ⟨value, held, done⟩
        cases done
        exact ⟨rfl, ⟨value, held, rfl⟩, rfl⟩
    · rintro ⟨fresh, ⟨value, held, same⟩, kept⟩
      obtain rfl : slot = none := fresh
      obtain rfl : filled = some value := same
      obtain rfl : next = slots := kept
      rw [Fields.stepTree_own]
      exact bind_eq_ok_iff.mpr ⟨value, held, rfl⟩
  other := by
    rintro key presence shape rest ⟨name, tree⟩ ⟨slot, slots⟩ ⟨filled, next⟩ different
    rw [Fields.stepTree_other different]
    constructor
    · intro placed
      rcases bind_eq_ok_iff.mp placed with ⟨others, held, done⟩
      cases done
      exact ⟨rfl, held⟩
    · rintro ⟨kept, held⟩
      obtain rfl : filled = slot := kept
      exact bind_eq_ok_iff.mpr ⟨next, held, rfl⟩

theorem foldlM_eq_ok_iff_folds {σ α : Type} {step : σ → α → Except Cause σ} {items : List α}
    {state last : σ} : items.foldlM step state = .ok last ↔
      Folds (fun state item next => step state item = .ok next) state items last := by
  have law : Folds (fun state item next => step state item = .ok next ∧ True) state items last ↔
      items.foldlM step state = .ok last ∧ ∀ item ∈ items, True := folds_iff_foldlM
  simp only [and_true, implies_true] at law
  exact law.symm

section Trees

variable {key : String} {shape : Shape} {fields : Fields} {position : Nat}
  {pick : fields.Value → shape.Value} {cause : Cause}

theorem Fields.Field.stepTree_error (field : fields.Field key shape position pick)
    {tree other : Tree} (failed : shape.ofTree other = .error cause) :
    ∀ {slots next : fields.Slots}, fields.stepTree slots (key, tree) = .ok next →
      fields.stepTree slots (key, other) = .error cause := by
  induction field with
  | first =>
    rintro ⟨slot, slots⟩ next stepped
    obtain rfl : slot = none := (Fields.walk_ofTree.own.mp stepped).1
    rw [Fields.stepTree_own]
    exact bind_of_error failed _
  | later different _ inductionHypothesis =>
    rintro ⟨slot, slots⟩ next stepped
    rw [Fields.stepTree_other different]
    exact bind_of_error
      (inductionHypothesis ((Fields.walk_ofTree.other different).mp stepped).2) _

variable {α : Type} {outcome : Except Cause α} {get : shape.Value → Option α} {title : String}
  {tree other : Tree}

/-- A record that is taken out of an object, with another tree for one of its members. -/
theorem Fields.Field.decides_object (field : fields.Field key shape position pick)
    (decides : ∀ value, shape.ofTree tree = .ok value → Decides outcome get (shape.ofTree other))
    {before behind : List (String × Tree)} {values : fields.Value}
    (held : (Shape.record title fields).ofTree (.object (before ++ (key, tree) :: behind)) =
      .ok values) :
    Decides outcome (fun values => get (pick values))
      ((Shape.record title fields).ofTree (.object (before ++ (key, other) :: behind))) := by
  rcases bind_eq_ok_iff.mp held with ⟨slots, folded, filled⟩
  have folds : Folds (fun slots member next => fields.stepTree slots member = .ok next)
      fields.noSlots (before ++ (key, tree) :: behind) slots := foldlM_eq_ok_iff_folds.mp folded
  rcases folds_append_iff.mp folds with ⟨middle, early, late⟩
  cases late with
  | cons stepped late =>
    rcases Fields.walk_ofTree.exists_read field stepped with ⟨value, own⟩
    have decided := decides value own
    cases outcome with
    | error cause =>
      refine bind_of_error ?_ _
      change (before ++ (key, other) :: behind).foldlM fields.stepTree fields.noSlots = _
      rw [List.foldlM_append, foldlM_eq_ok_iff_folds.mpr early]
      change List.foldlM fields.stepTree middle ((key, other) :: behind) = _
      rw [List.foldlM_cons]
      exact bind_of_error (field.stepTree_error decided stepped) _
    | ok found =>
      rcases decided with ⟨new, read, got⟩
      rcases Fields.walk_ofTree.refill_folds field read folds with ⟨_, others, _, walked, refilled⟩
      rcases (refilled.fill filled).2 with ⟨values, again, picked⟩
      have folded : (before ++ (key, other) :: behind).foldlM fields.stepTree fields.noSlots =
          .ok others := foldlM_eq_ok_iff_folds.mpr walked
      exact ⟨values, bind_eq_ok_iff.mpr ⟨others, folded, again⟩, (congrArg get picked).trans got⟩

theorem Fields.Field.decides_ofItems (field : fields.Field key shape position pick)
    (decides : ∀ value, shape.ofTree tree = .ok value → Decides outcome get (shape.ofTree other))
    {total : Nat} {behind : List Tree} : ∀ {before : List Tree} {index : Nat} {values : fields.Value},
      before.length = position →
      fields.ofItems title total index (before ++ tree :: behind) = .ok values →
        Decides outcome (fun values => get (pick values))
          (fields.ofItems title total index (before ++ other :: behind)) := by
  induction field with
  | first =>
    intro before index values counted held
    obtain rfl := List.length_eq_zero_iff.mp counted
    rw [List.nil_append, Fields.ofItems] at held ⊢
    rcases bind_eq_ok_iff.mp held with ⟨value, own, held⟩
    rcases bind_eq_ok_iff.mp held with ⟨others, later, _⟩
    refine (decides value own).bind fun new => ⟨(new, others), ?_, rfl⟩
    exact bind_eq_ok_iff.mpr ⟨others, later, rfl⟩
  | later _ _ inductionHypothesis =>
    intro before index values counted held
    cases before with
    | nil => cases counted
    | cons first before =>
      rw [List.cons_append, Fields.ofItems] at held ⊢
      rcases bind_eq_ok_iff.mp held with ⟨value, own, held⟩
      rcases bind_eq_ok_iff.mp held with ⟨others, later, _⟩
      rw [own]
      exact (inductionHypothesis (Nat.succ.inj counted) later).bind fun others =>
        ⟨(value, others), rfl, rfl⟩

/-- A record that is taken out of a list, with another tree for one of its elements. -/
theorem Fields.Field.decides_list (field : fields.Field key shape position pick)
    (decides : ∀ value, shape.ofTree tree = .ok value → Decides outcome get (shape.ofTree other))
    {before behind : List Tree} (counted : before.length = position) {values : fields.Value}
    (held : (Shape.record title fields).ofTree (.list (before ++ tree :: behind)) = .ok values) :
    Decides outcome (fun values => get (pick values))
      ((Shape.record title fields).ofTree (.list (before ++ other :: behind))) :=
  field.decides_ofItems decides counted held

end Trees

end Json
end LendingGateway
