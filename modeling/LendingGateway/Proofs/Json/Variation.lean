import LendingGateway.Proofs.Json.Finding

namespace LendingGateway
namespace Json

/-!
# Changes that do not count

Three changes to a document leave the values that it has by a shape as they are: other gaps
between its tokens, another order of the members of an object that stands for a record, and a
further member in such an object whose key is none of the record.  The object may stand
anywhere in the document where the shape has a record.
-/

/-! ## Gaps -/

mutual

/-- The document without its gaps. -/
def Document.bare : Document → Document
  | .null => .null
  | .boolean value => .boolean value
  | .number number => .number number
  | .text quotation => .text quotation
  | .list _ elements => .list .none (bareElements elements)
  | .object _ members => .object .none (bareMembers members)

def bareElements : List (Element Document) → List (Element Document)
  | [] => []
  | ⟨_, value, _⟩ :: elements => ⟨.none, value.bare, .none⟩ :: bareElements elements

def bareMembers : List (Member Document) → List (Member Document)
  | [] => []
  | ⟨_, key, _, ⟨_, value, _⟩⟩ :: members =>
    ⟨.none, key, .none, ⟨.none, value.bare, .none⟩⟩ :: bareMembers members

end

/-- Documents that differ in their gaps at most. -/
def Document.Respaced (first second : Document) : Prop :=
  first.bare = second.bare

theorem respaced_elements {elements : List (Element Document)} :
    ∀ {others : List (Element Document)}, bareElements elements = bareElements others →
      List.Forall₂ (fun element other => element.value.Respaced other.value) elements others := by
  induction elements with
  | nil =>
    intro others same
    cases others with
    | nil => exact .nil
    | cons => cases same
  | cons element elements inductionHypothesis =>
    intro others same
    cases others with
    | nil => cases same
    | cons other others =>
      rcases List.cons.inj same with ⟨first, later⟩
      exact .cons (Element.mk.inj first).2.1 (inductionHypothesis later)

/-- Members with one key, whose values are related. -/
def Member.Alike (related : Document → Document → Prop) (member other : Member Document) : Prop :=
  member.name? = other.name? ∧ related member.element.value other.element.value

theorem respaced_members {members : List (Member Document)} :
    ∀ {others : List (Member Document)}, bareMembers members = bareMembers others →
      List.Forall₂ (Member.Alike Document.Respaced) members others := by
  induction members with
  | nil =>
    intro others same
    cases others with
    | nil => exact .nil
    | cons => cases same
  | cons member members inductionHypothesis =>
    intro others same
    cases others with
    | nil => cases same
    | cons other others =>
      rcases List.cons.inj same with ⟨first, later⟩
      rcases Member.mk.inj first with ⟨_, key, _, value⟩
      refine .cons ⟨?_, (Element.mk.inj value).2.1⟩ (inductionHypothesis later)
      rw [Member.name?, Member.name?, key]

namespace Document.Respaced

variable {second : Document}

theorem eq_null (same : Document.null.Respaced second) : second = .null := by
  cases second with
  | null => rfl
  | boolean | number | text | list | object => cases same

theorem eq_number {number : Number} (same : (Document.number number).Respaced second) :
    second = .number number := by
  cases second with
  | number =>
    cases same
    rfl
  | null | boolean | text | list | object => cases same

theorem eq_text {quotation : Quotation} (same : (Document.text quotation).Respaced second) :
    second = .text quotation := by
  cases second with
  | text =>
    cases same
    rfl
  | null | boolean | number | list | object => cases same

theorem exists_list {opening : Gap} {elements : List (Element Document)}
    (same : (Document.list opening elements).Respaced second) :
    ∃ gap others, second = .list gap others ∧
      List.Forall₂ (fun element other => element.value.Respaced other.value) elements others := by
  cases second with
  | list gap others => exact ⟨gap, others, rfl, respaced_elements (Document.list.inj same).2⟩
  | null | boolean | number | text | object => cases same

theorem exists_object {opening : Gap} {members : List (Member Document)}
    (same : (Document.object opening members).Respaced second) :
    ∃ gap others, second = .object gap others ∧
      List.Forall₂ (Member.Alike Document.Respaced) members others := by
  cases second with
  | object gap others => exact ⟨gap, others, rfl, respaced_members (Document.object.inj same).2⟩
  | null | boolean | number | text | list => cases same

end Document.Respaced

/-! ## What a record takes from its members -/

/-- One of the fields has a key and a shape. -/
def Fields.Has (key : String) (shape : Shape) : Fields → Prop
  | .nil => False
  | .cons name _ first rest => (name = key ∧ first = shape) ∨ rest.Has key shape

theorem Fields.mem_keys_of_has {key : String} {shape : Shape} : (fields : Fields) →
    fields.Has key shape → key ∈ fields.keys
  | .cons _ _ _ _, .inl ⟨same, _⟩ => same ▸ List.mem_cons_self
  | .cons _ _ _ rest, .inr later => List.mem_cons_of_mem _ (Fields.mem_keys_of_has rest later)

/-- Whatever a field gets from the first member it also gets from the second one. -/
def Fields.Yields (fields : Fields) (member other : Member Document) : Prop :=
  member.name? = other.name? ∧ ∀ key shape, fields.Has key shape → member.name? = some key →
    ∀ value, shape.Means member.element.value value → shape.Means other.element.value value

theorem Fields.Yields.name_iff {fields : Fields} {member other : Member Document}
    (yields : fields.Yields member other) (name : String) :
    member.name? = some name ↔ other.name? = some name := by
  rw [yields.1]

theorem yields_named {fields : Fields} {members others : List (Member Document)}
    (each : List.Forall₂ fields.Yields members others) (name : String) :
    List.Forall₂ fields.Yields (membersNamed name members) (membersNamed name others) := by
  refine List.rel_filter ?_ each
  intro member other yields
  dsimp only
  rw [decide_eq_true_eq, decide_eq_true_eq]
  exact yields.name_iff name

theorem named_of_yields {fields : Fields} {members others : List (Member Document)}
    (each : List.Forall₂ fields.Yields members others)
    (named : ∀ member ∈ members, ∃ name, member.name? = some name) :
    ∀ other ∈ others, ∃ name, other.name? = some name := by
  induction each with
  | nil => exact named
  | cons yields _ inductionHypothesis =>
    rw [List.forall_mem_cons] at named ⊢
    exact ⟨yields.1 ▸ named.1, inductionHypothesis named.2⟩

theorem Fields.holds_of_yields : (fields : Fields) → {members others : List (Member Document)} →
    List.Forall₂ fields.Yields members others → {values : fields.Value} →
      fields.Holds members values → fields.Holds others values
  | .nil, _, _, _, _, _ => trivial
  | .cons key presence shape rest, members, others, each, (value, values), holds => by
    have later : List.Forall₂ rest.Yields members others :=
      each.imp fun _ _ yields =>
        ⟨yields.1, fun name inner field => yields.2 name inner (Or.inr field)⟩
    have named := yields_named each key
    refine ⟨?_, Fields.holds_of_yields rest later holds.2⟩
    rcases holds.1 with ⟨none, blank⟩ | ⟨member, alone, means⟩
    · rw [none] at named
      exact Or.inl ⟨List.forall₂_nil_left_iff.mp named, blank⟩
    · rw [alone] at named
      rcases List.forall₂_cons_left_iff.mp named with ⟨other, nothing, yields, ended, same⟩
      cases ended
      have own : member.name? = some key := by
        have kept : member ∈ membersNamed key members := alone ▸ List.mem_cons_self
        exact of_decide_eq_true (List.mem_filter.mp kept).2
      exact Or.inr ⟨other, same, yields.2 key shape (Or.inl ⟨rfl, rfl⟩) own value means⟩

/-- The members with a name stay the same beside a member of another one. -/
theorem membersNamed_insert {name key : String} {member : Member Document}
    (named : member.name? = some name) (different : name ≠ key)
    (before after : List (Member Document)) :
    membersNamed key (before ++ member :: after) = membersNamed key (before ++ after) := by
  have other : ¬ decide (member.name? = some key) = true := by
    rw [decide_eq_true_eq, named, Option.some.injEq]
    exact different
  rw [membersNamed, membersNamed, List.filter_append, List.filter_append, List.filter_cons,
    if_neg other]

/-- A member that belongs to no field does not count. -/
theorem Fields.holds_insert_iff {name : String} {member : Member Document}
    (named : member.name? = some name) (before after : List (Member Document)) :
    (fields : Fields) → name ∉ fields.keys → (values : fields.Value) →
      (fields.Holds (before ++ after) values ↔ fields.Holds (before ++ member :: after) values)
  | .nil, _, _ => Iff.rfl
  | .cons key presence shape rest, unknown, (value, values) => by
    rw [Fields.keys, List.mem_cons, not_or] at unknown
    rw [Fields.Holds, Fields.Holds, membersNamed_insert named unknown.1,
      Fields.holds_insert_iff named before after rest unknown.2]

/-- The order of the members does not count. -/
theorem Fields.holds_of_perm : (fields : Fields) → {members others : List (Member Document)} →
    members.Perm others → {values : fields.Value} → fields.Holds members values →
      fields.Holds others values
  | .nil, _, _, _, _, _ => trivial
  | .cons key presence shape rest, members, others, reordered, (value, values), holds => by
    have named : (membersNamed key members).Perm (membersNamed key others) :=
      reordered.filter fun member : Member Document => decide (member.name? = some key)
    refine ⟨?_, Fields.holds_of_perm rest reordered holds.2⟩
    rcases holds.1 with ⟨none, blank⟩ | ⟨member, alone, means⟩
    · rw [none] at named
      exact Or.inl ⟨List.nil_perm.mp named, blank⟩
    · rw [alone] at named
      exact Or.inr ⟨member, (List.singleton_perm.mp named).symm, means⟩

/-- No two members belong to one field. -/
theorem Fields.once_of_holds {members : List (Member Document)} : (fields : Fields) →
    {values : fields.Value} → fields.Holds members values →
      ∀ key ∈ fields.keys, (membersNamed key members).length ≤ 1
  | .nil, _, _ => fun _ known => absurd known List.not_mem_nil
  | .cons key presence shape rest, (value, values), holds => by
    refine List.forall_mem_cons.mpr ⟨?_, Fields.once_of_holds rest holds.2⟩
    rcases holds.1 with ⟨none, _⟩ | ⟨member, alone, _⟩
    · rw [none]
      exact Nat.zero_le 1
    · rw [alone]
      exact Nat.le_refl 1

/-- A member with the key of a field has a value of its shape. -/
theorem Fields.exists_means_of_has {key : String} {shape : Shape} {member : Member Document}
    {members : List (Member Document)} (named : member.name? = some key)
    (held : member ∈ members) : (fields : Fields) → {values : fields.Value} →
      fields.Holds members values → fields.Has key shape →
        ∃ value, shape.Means member.element.value value
  | .cons _ _ _ rest, (_, _), holds, .inr later =>
    Fields.exists_means_of_has named held rest holds.2 later
  | .cons _ _ _ rest, (value, _), holds, .inl ⟨rfl, rfl⟩ => by
    have own : member ∈ membersNamed key members :=
      List.mem_filter.mpr ⟨held, decide_eq_true named⟩
    rcases holds.1 with ⟨none, _⟩ | ⟨only, alone, means⟩
    · rw [none] at own
      exact absurd own List.not_mem_nil
    · rw [alone] at own
      exact ⟨value, List.mem_singleton.mp own ▸ means⟩

/-! ## Gaps do not count -/

mutual

theorem Shape.means_of_respaced : (shape : Shape) → {first second : Document} →
    first.Respaced second → {value : shape.Value} → shape.Means first value →
      shape.Means second value
  | .text, _, _, same, _, ⟨quotation, spelt, known⟩ => by
    subst spelt
    exact ⟨quotation, same.eq_text, known⟩
  | .real, _, _, same, _, ⟨number, numeral, spelt, known⟩ => by
    subst spelt
    exact ⟨number, numeral, same.eq_number, known⟩
  | .int64, _, _, same, _, ⟨number, numeral, spelt, known⟩ => by
    subst spelt
    exact ⟨number, numeral, same.eq_number, known⟩
  | .nat64, _, _, same, _, ⟨number, numeral, spelt, known⟩ => by
    subst spelt
    exact ⟨number, numeral, same.eq_number, known⟩
  | .optional inner, _, _, same, _, .inl ⟨null, nothing⟩ => by
    subst null
    exact Or.inl ⟨same.eq_null, nothing⟩
  | .optional inner, _, _, same, _, .inr ⟨present, value, means, held⟩ =>
    Or.inr ⟨fun null => present (Document.Respaced.eq_null (null ▸ same.symm)), value,
      Shape.means_of_respaced inner same means, held⟩
  | .list item, _, _, same, _, ⟨opening, elements, spelt, means⟩ => by
    subst spelt
    rcases same.exists_list with ⟨gap, others, spelt, each⟩
    refine ⟨gap, others, spelt, (forall₂_iff_of_related each ?_).mp means⟩
    exact fun related value => ⟨Shape.means_of_respaced item related,
      Shape.means_of_respaced item related.symm⟩
  | .choice first others, _, _, same, _, .inl ⟨quotation, name, spelt, known⟩ => by
    subst spelt
    exact Or.inl ⟨quotation, name, same.eq_text, known⟩
  | .choice first others, _, _, same, _, .inr ⟨opening, member, name, spelt, named, null, chosen⟩ => by
    subst spelt
    rcases same.exists_object with ⟨gap, members, spelt, each⟩
    rcases List.forall₂_cons_left_iff.mp each with ⟨other, nothing, ⟨key, value⟩, ended, rfl⟩
    cases ended
    rw [null] at value
    exact Or.inr ⟨gap, other, name, spelt, key ▸ named, value.eq_null, chosen⟩
  | .dictionary entry, _, _, same, _, ⟨opening, members, found, spelt, means, entries⟩ => by
    subst spelt
    rcases same.exists_object with ⟨gap, others, spelt, each⟩
    refine ⟨gap, others, found, spelt, (forall₂_iff_of_related each ?_).mp means, entries⟩
    intro member other alike pair
    rw [alike.1]
    exact and_congr_right' ⟨Shape.means_of_respaced entry alike.2,
      Shape.means_of_respaced entry alike.2.symm⟩
  | .record _ fields, _, _, same, _, .inl ⟨opening, members, spelt, named, holds⟩ => by
    subst spelt
    rcases same.exists_object with ⟨gap, others, spelt, each⟩
    have yields : List.Forall₂ fields.Yields members others :=
      each.imp fun _ _ alike => ⟨alike.1, fun key shape field _ _ means =>
        Fields.means_of_respaced fields field alike.2 means⟩
    exact Or.inl ⟨gap, others, spelt, named_of_yields yields named,
      Fields.holds_of_yields fields yields holds⟩
  | .record _ fields, _, _, same, _, .inr ⟨opening, elements, spelt, holds⟩ => by
    subst spelt
    rcases same.exists_list with ⟨gap, others, spelt, each⟩
    exact Or.inr ⟨gap, others, spelt, Fields.holdsElements_of_respaced fields each holds⟩

theorem Fields.means_of_respaced : (fields : Fields) → {key : String} → {shape : Shape} →
    fields.Has key shape → {first second : Document} → first.Respaced second →
      {value : shape.Value} → shape.Means first value → shape.Means second value
  | .cons _ _ shape _, _, _, .inl ⟨_, rfl⟩, _, _, same, _, means =>
    Shape.means_of_respaced shape same means
  | .cons _ _ _ rest, _, _, .inr later, _, _, same, _, means =>
    Fields.means_of_respaced rest later same means

theorem Fields.holdsElements_of_respaced : (fields : Fields) →
    {elements others : List (Element Document)} →
      List.Forall₂ (fun element other => element.value.Respaced other.value) elements others →
        {values : fields.Value} → fields.HoldsElements elements values →
          fields.HoldsElements others values
  | .nil, _, _, each, _, holds => by
    cases each with
    | nil => rfl
    | cons => cases holds
  | .cons _ _ shape rest, _, _, each, (_, _), holds => by
    cases each with
    | nil => exact ⟨holds.1, holds.2.1, Fields.holdsElements_of_respaced rest .nil holds.2.2⟩
    | cons same each =>
      exact ⟨Shape.means_of_respaced shape same holds.1,
        Fields.holdsElements_of_respaced rest each holds.2⟩

end

/-- Documents with the same values by a shape. -/
def Shape.SameMeaning (shape : Shape) (first second : Document) : Prop :=
  ∀ value, shape.Means first value ↔ shape.Means second value

theorem Shape.sameMeaning_of_respaced (shape : Shape) {first second : Document}
    (same : first.Respaced second) : shape.SameMeaning first second := fun _ =>
  ⟨Shape.means_of_respaced shape same, Shape.means_of_respaced shape same.symm⟩

/-! ## Objects that stand for records -/

def Element.withValue (element : Element Document) (document : Document) : Element Document :=
  ⟨element.before, document, element.behind⟩

def Member.withValue (member : Member Document) (document : Document) : Member Document :=
  ⟨member.before, member.key, member.between, member.element.withValue document⟩

/-- The shape of the field in a position. -/
def Fields.shapeAt? : Fields → Nat → Option Shape
  | .nil, _ => none
  | .cons _ _ shape _, 0 => some shape
  | .cons _ _ _ rest, position + 1 => rest.shapeAt? position

/-- An object with some members stands for a record with some fields, somewhere in the first
document where a shape has such a record.  The second document has other members there. -/
inductive Within (fields : Fields) (members others : List (Member Document)) :
    Shape → Document → Document → Prop where
  | here (title : String) (opening : Gap) :
    Within fields members others (.record title fields) (.object opening members)
      (.object opening others)
  | present {inner : Shape} {first second : Document}
    (within : Within fields members others inner first second) :
    Within fields members others (.optional inner) first second
  | item {item : Shape} {opening : Gap} {before after : List (Element Document)}
    {element : Element Document} {second : Document}
    (within : Within fields members others item element.value second) :
    Within fields members others (.list item) (.list opening (before ++ element :: after))
      (.list opening (before ++ element.withValue second :: after))
  | entry {entry : Shape} {opening : Gap} {before after : List (Member Document)}
    {member : Member Document} {second : Document}
    (within : Within fields members others entry member.element.value second) :
    Within fields members others (.dictionary entry)
      (.object opening (before ++ member :: after))
      (.object opening (before ++ member.withValue second :: after))
  | member {title key : String} {outer : Fields} {shape : Shape} {opening : Gap}
    {before after : List (Member Document)} {member : Member Document} {second : Document}
    (field : outer.Has key shape) (named : member.name? = some key)
    (within : Within fields members others shape member.element.value second) :
    Within fields members others (.record title outer)
      (.object opening (before ++ member :: after))
      (.object opening (before ++ member.withValue second :: after))
  | element {title : String} {outer : Fields} {shape : Shape} {opening : Gap}
    {before after : List (Element Document)} {element : Element Document} {second : Document}
    (field : outer.shapeAt? before.length = some shape)
    (within : Within fields members others shape element.value second) :
    Within fields members others (.record title outer)
      (.list opening (before ++ element :: after))
      (.list opening (before ++ element.withValue second :: after))

section Places

variable {fields : Fields} {members others : List (Member Document)} {shape : Shape}
  {first second : Document}

theorem Within.ne_null (within : Within fields members others shape first second) :
    first ≠ .null ∧ second ≠ .null := by
  induction within with
  | here | item | entry | member | element => exact ⟨nofun, nofun⟩
  | present _ inductionHypothesis => exact inductionHypothesis

theorem Fields.exists_means_of_shapeAt {element : Element Document} {shape : Shape} :
    (outer : Fields) → {before after : List (Element Document)} → {values : outer.Value} →
      outer.HoldsElements (before ++ element :: after) values →
        outer.shapeAt? before.length = some shape → ∃ value, shape.Means element.value value
  | .cons _ _ _ _, [], _, (value, _), holds, field => by
    cases field
    exact ⟨value, holds.1⟩
  | .cons _ _ _ rest, _ :: _, _, (_, _), holds, field =>
    Fields.exists_means_of_shapeAt rest holds.2 field

/-- The object holds the values of a record if the document has a value. -/
theorem Within.exists_holds (within : Within fields members others shape first second) :
    ∀ {value : shape.Value}, shape.Means first value →
      ∃ values, fields.Holds members values := by
  induction within with
  | here title opening =>
    intro values means
    rcases means with ⟨gap, found, same, _, holds⟩ | ⟨_, _, impossible, _⟩
    · cases same
      exact ⟨values, holds⟩
    · cases impossible
  | present within inductionHypothesis =>
    intro held means
    rcases means with ⟨null, _⟩ | ⟨_, value, means, _⟩
    · exact absurd null within.ne_null.1
    · exact inductionHypothesis means
  | @item item opening before after element second within inductionHypothesis =>
    rintro values ⟨gap, elements, same, means⟩
    cases same
    rcases forall_mem_exists_iff.mpr ⟨values, means⟩ element List.mem_append_cons_self with
      ⟨value, means⟩
    exact inductionHypothesis means
  | @entry entry opening before after member second within inductionHypothesis =>
    rintro entries ⟨gap, found, pairs, same, means, _⟩
    cases same
    rcases forall_mem_exists_iff.mpr ⟨pairs, means⟩ member List.mem_append_cons_self with
      ⟨pair, _, means⟩
    exact inductionHypothesis means
  | member field named within inductionHypothesis =>
    intro values means
    rcases means with ⟨gap, found, same, _, holds⟩ | ⟨_, _, impossible, _⟩
    · cases same
      rcases Fields.exists_means_of_has named List.mem_append_cons_self _ holds field with
        ⟨value, means⟩
      exact inductionHypothesis means
    · cases impossible
  | element field within inductionHypothesis =>
    intro values means
    rcases means with ⟨_, _, impossible, _⟩ | ⟨gap, found, same, holds⟩
    · cases impossible
    · cases same
      rcases Fields.exists_means_of_shapeAt _ holds field with ⟨value, means⟩
      exact inductionHypothesis means

end Places

/-! ## Another object in the place of one -/

theorem forall₂_replace {α : Type} {related : α → α → Prop} (same : ∀ item, related item item)
    {item other : α} (changed : related item other) (before after : List α) :
    List.Forall₂ related (before ++ item :: after) (before ++ other :: after) :=
  List.rel_append (List.forall₂_same.mpr fun item _ => same item)
    (.cons changed (List.forall₂_same.mpr fun item _ => same item))

theorem Fields.shape_unique {key : String} {shape other : Shape} : (fields : Fields) →
    fields.wellFormed = true → fields.Has key shape → fields.Has key other → shape = other
  | .cons _ _ _ _, _, .inl ⟨_, first⟩, .inl ⟨_, second⟩ => first.symm.trans second
  | .cons _ _ _ rest, formed, .inl ⟨same, _⟩, .inr later =>
    absurd (same ▸ Fields.mem_keys_of_has rest later) (Fields.wellFormed_cons formed).1
  | .cons _ _ _ rest, formed, .inr later, .inl ⟨same, _⟩ =>
    absurd (same ▸ Fields.mem_keys_of_has rest later) (Fields.wellFormed_cons formed).1
  | .cons _ _ _ rest, formed, .inr later, .inr again =>
    Fields.shape_unique rest (Fields.wellFormed_cons formed).2.2 later again

theorem Fields.wellFormed_of_has {key : String} {shape : Shape} : (fields : Fields) →
    fields.wellFormed = true → fields.Has key shape → shape.wellFormed = true
  | .cons _ _ _ _, formed, .inl ⟨_, rfl⟩ => (Fields.wellFormed_cons formed).2.1
  | .cons _ _ _ rest, formed, .inr later =>
    Fields.wellFormed_of_has rest (Fields.wellFormed_cons formed).2.2 later

theorem Fields.wellFormed_of_shapeAt {shape : Shape} : (fields : Fields) → {position : Nat} →
    fields.wellFormed = true → fields.shapeAt? position = some shape → shape.wellFormed = true
  | .cons _ _ _ _, 0, formed, field => by
    cases field
    exact (Fields.wellFormed_cons formed).2.1
  | .cons _ _ _ rest, _ + 1, formed, field =>
    Fields.wellFormed_of_shapeAt rest (Fields.wellFormed_cons formed).2.2 field

/-- A member with another value in its place, of which its field gets at least as much. -/
theorem yields_withValue {outer : Fields} (formed : outer.wellFormed = true) {key : String}
    {shape : Shape} (field : outer.Has key shape) {member other : Member Document}
    (named : member.name? = some key) (same : member.name? = other.name?)
    (keeps : ∀ value, shape.Means member.element.value value →
      shape.Means other.element.value value) (before after : List (Member Document)) :
    List.Forall₂ outer.Yields (before ++ member :: after) (before ++ other :: after) := by
  refine forall₂_replace (fun kept => ⟨rfl, fun _ _ _ _ _ means => means⟩) ⟨same, ?_⟩ before after
  intro name inner held own value means
  obtain rfl : key = name := Option.some.inj (named.symm.trans own)
  obtain rfl : shape = inner := Fields.shape_unique outer formed field held
  exact keeps value means

theorem Fields.holdsElements_replace {element other : Element Document} {shape : Shape}
    (keeps : ∀ value, shape.Means element.value value → shape.Means other.value value) :
    (outer : Fields) → {before after : List (Element Document)} → {values : outer.Value} →
      outer.shapeAt? before.length = some shape →
        outer.HoldsElements (before ++ element :: after) values →
          outer.HoldsElements (before ++ other :: after) values
  | .cons _ _ _ _, [], _, (value, _), field, holds => by
    cases field
    exact ⟨keeps value holds.1, holds.2⟩
  | .cons _ _ _ rest, _ :: _, _, (_, _), field, holds =>
    ⟨holds.1, Fields.holdsElements_replace keeps rest field holds.2⟩

theorem Shape.means_present_iff {inner : Shape} {document : Document}
    (present : document ≠ .null) {held : Option inner.Value} :
    (Shape.optional inner).Means document held ↔
      ∃ value, inner.Means document value ∧ held = some value := by
  constructor
  · rintro (⟨null, _⟩ | ⟨_, means⟩)
    · exact absurd null present
    · exact means
  · exact fun means => Or.inr ⟨present, means⟩

theorem Shape.means_list_iff {item : Shape} {opening : Gap} {elements : List (Element Document)}
    {values : List item.Value} :
    (Shape.list item).Means (.list opening elements) values ↔
      List.Forall₂ (fun element value => item.Means element.value value) elements values := by
  constructor
  · rintro ⟨_, _, same, means⟩
    cases same
    exact means
  · exact fun means => ⟨opening, elements, rfl, means⟩

/-- A member and the entry of a dictionary that it gives. -/
def Member.Gives (member : Member Document) (entry : Shape) (pair : String × entry.Value) : Prop :=
  member.name? = some pair.1 ∧ entry.Means member.element.value pair.2

theorem gives_iff_of_alike {entry : Shape} {member other : Member Document}
    (alike : member.Alike entry.SameMeaning other) (pair : String × entry.Value) :
    member.Gives entry pair ↔ other.Gives entry pair := by
  rw [Member.Gives, Member.Gives, alike.1]
  exact and_congr_right' (alike.2 pair.2)

theorem Shape.means_dictionary_iff {entry : Shape} {opening : Gap}
    {members : List (Member Document)} {entries : Dictionary entry.Value} :
    (Shape.dictionary entry).Means (.object opening members) entries ↔
      ∃ found, List.Forall₂ (fun member pair => member.Gives entry pair) members found ∧
        entries = found.foldl (fun entries pair => entries.insert pair.1 pair.2)
          Dictionary.empty := by
  constructor
  · rintro ⟨_, _, found, same, means, entries⟩
    cases same
    exact ⟨found, means, entries⟩
  · rintro ⟨found, means, entries⟩
    exact ⟨opening, members, found, rfl, means, entries⟩

theorem Shape.means_record_of_yields {title : String} {outer : Fields} {opening : Gap}
    {members others : List (Member Document)} (each : List.Forall₂ outer.Yields members others)
    {values : outer.Value}
    (means : (Shape.record title outer).Means (.object opening members) values) :
    (Shape.record title outer).Means (.object opening others) values := by
  rcases means with ⟨gap, found, same, named, holds⟩ | ⟨_, _, impossible, _⟩
  · cases same
    exact Or.inl ⟨opening, others, rfl, named_of_yields each named,
      Fields.holds_of_yields outer each holds⟩
  · cases impossible

theorem Shape.means_record_of_shapeAt {title : String} {outer : Fields} {opening : Gap}
    {before after : List (Element Document)} {element other : Element Document} {shape : Shape}
    (keeps : ∀ value, shape.Means element.value value → shape.Means other.value value)
    (field : outer.shapeAt? before.length = some shape) {values : outer.Value}
    (means : (Shape.record title outer).Means (.list opening (before ++ element :: after)) values) :
    (Shape.record title outer).Means (.list opening (before ++ other :: after)) values := by
  rcases means with ⟨_, _, impossible, _⟩ | ⟨gap, found, same, holds⟩
  · cases impossible
  · cases same
    exact Or.inr ⟨opening, _, rfl, Fields.holdsElements_replace keeps outer field holds⟩

/-- Objects that stand for the same records may take each other's place anywhere. -/
theorem Within.sameMeaning {fields : Fields} {members others : List (Member Document)}
    {shape : Shape} {first second : Document}
    (within : Within fields members others shape first second)
    (same : ∀ title opening, (Shape.record title fields).SameMeaning (.object opening members)
      (.object opening others)) :
    shape.wellFormed = true → shape.SameMeaning first second := by
  induction within with
  | here title opening => exact fun _ => same title opening
  | present within inductionHypothesis =>
    intro formed held
    have inner := inductionHypothesis (Shape.wellFormed_optional formed).2
    rw [Shape.means_present_iff within.ne_null.1, Shape.means_present_iff within.ne_null.2]
    exact exists_congr fun value => and_congr_left' (inner value)
  | @item item opening before after element second _ inductionHypothesis =>
    intro formed values
    have each : List.Forall₂ (fun element other => item.SameMeaning element.value other.value)
        (before ++ element :: after) (before ++ element.withValue second :: after) := by
      refine forall₂_replace (fun _ _ => Iff.rfl) ?_ before after
      exact inductionHypothesis formed
    rw [Shape.means_list_iff, Shape.means_list_iff]
    exact forall₂_iff_of_related each fun related => related
  | @entry entry opening before after member second _ inductionHypothesis =>
    intro formed entries
    have each : List.Forall₂ (Member.Alike entry.SameMeaning)
        (before ++ member :: after) (before ++ member.withValue second :: after) := by
      refine forall₂_replace (fun _ => ⟨rfl, fun _ => Iff.rfl⟩) ⟨rfl, ?_⟩ before after
      exact inductionHypothesis formed
    rw [Shape.means_dictionary_iff, Shape.means_dictionary_iff]
    exact exists_congr fun found => and_congr_left' (forall₂_iff_of_related each gives_iff_of_alike)
  | @member title key outer shape opening before after member second field named _
      inductionHypothesis =>
    intro formed values
    have each := inductionHypothesis (Fields.wellFormed_of_has outer formed field)
    have kept : member.name? = (member.withValue second).name? := rfl
    have forth := yields_withValue formed field named kept (fun value => (each value).mp)
    have back := yields_withValue formed field (kept ▸ named) kept.symm
      (fun value => (each value).mpr)
    exact ⟨Shape.means_record_of_yields (forth before after),
      Shape.means_record_of_yields (back before after)⟩
  | element field _ inductionHypothesis =>
    intro formed values
    have each := inductionHypothesis (Fields.wellFormed_of_shapeAt _ formed field)
    exact ⟨Shape.means_record_of_shapeAt (fun value => (each value).mp) field,
      Shape.means_record_of_shapeAt (fun value => (each value).mpr) field⟩

/-! ## Other members in an object -/

theorem Shape.means_object_iff {title : String} {fields : Fields} {opening : Gap}
    {members : List (Member Document)} {values : fields.Value} :
    (Shape.record title fields).Means (.object opening members) values ↔
      (∀ member ∈ members, ∃ name, member.name? = some name) ∧ fields.Holds members values := by
  constructor
  · rintro (⟨_, _, same, held⟩ | ⟨_, _, impossible, _⟩)
    · cases same
      exact held
    · cases impossible
  · exact fun held => Or.inl ⟨opening, members, rfl, held⟩

theorem sameMeaning_of_perm {fields : Fields} {members others : List (Member Document)}
    (reordered : members.Perm others) (title : String) (opening : Gap) :
    (Shape.record title fields).SameMeaning (.object opening members)
      (.object opening others) := by
  intro values
  rw [Shape.means_object_iff, Shape.means_object_iff]
  have named : (∀ member ∈ members, ∃ name, member.name? = some name) ↔
      ∀ member ∈ others, ∃ name, member.name? = some name :=
    forall_congr' fun member => imp_congr_left reordered.mem_iff
  exact and_congr named ⟨Fields.holds_of_perm fields reordered,
    Fields.holds_of_perm fields reordered.symm⟩

theorem sameMeaning_of_insert {fields : Fields} {name : String} {member : Member Document}
    (named : member.name? = some name) (unknown : name ∉ fields.keys)
    (before after : List (Member Document)) (title : String) (opening : Gap) :
    (Shape.record title fields).SameMeaning (.object opening (before ++ after))
      (.object opening (before ++ member :: after)) := by
  intro values
  rw [Shape.means_object_iff, Shape.means_object_iff]
  refine and_congr ?_ (Fields.holds_insert_iff named before after fields unknown values)
  rw [List.forall_mem_append, List.forall_mem_append, List.forall_mem_cons]
  have known : ∃ name, member.name? = some name := ⟨name, named⟩
  exact and_congr_right' (and_iff_right known).symm

/-! ## Whole texts -/

/-- A change to a text that does not count: to its gaps, to the order of the members of an
object that stands for a record, or by a member in such an object that belongs to no field. -/
inductive Shape.Variation (shape : Shape) (first second : Element Document) : Prop where
  | respaced (same : first.value.Respaced second.value)
  | reordered {fields : Fields} {members others : List (Member Document)}
    (within : Within fields members others shape first.value second.value)
    (reordered : members.Perm others)
  | inserted {fields : Fields} {before after : List (Member Document)} {member : Member Document}
    {name : String}
    (within : Within fields (before ++ after) (before ++ member :: after) shape first.value
      second.value)
    (named : member.name? = some name) (unknown : name ∉ fields.keys)

theorem Shape.Variation.sameMeaning {shape : Shape} {first second : Element Document}
    (formed : shape.wellFormed = true) (variation : shape.Variation first second) :
    shape.SameMeaning first.value second.value := by
  cases variation with
  | respaced same => exact Shape.sameMeaning_of_respaced shape same
  | reordered within reordered => exact within.sameMeaning (sameMeaning_of_perm reordered) formed
  | inserted within named unknown =>
    exact within.sameMeaning (sameMeaning_of_insert named unknown _ _) formed

theorem Gap.stops_alone (gap : Gap) : Stops gap.octets := by
  have stops := gap.stops stops_nil
  rw [List.append_nil] at stops
  exact stops

theorem Element.standsAt (whole : Element Document) : StandsAt whole.octets whole.value :=
  ⟨whole.before, _, whole.behind.stops_alone, rfl⟩

/-- A text with one value in it is parsed if that value is read, since only a gap is left. -/
theorem Shape.parse_whole_iff {shape : Shape} {whole : Element Document} {value : shape.Value} :
    shape.parse whole.octets = .ok value ↔
      ∃ last, shape.read nestingLimit whole.octets = .ok (value, last) := by
  rw [Shape.parse_eq_ok_iff]
  constructor
  · rintro ⟨rest, read, _⟩
    exact ⟨rest, read⟩
  · rintro ⟨last, read⟩
    have skipped : Skipped whole.octets whole.behind.octets :=
      skipped_gap whole.before (whole.value.skips _ whole.behind.stops_alone)
    obtain rfl := skipped.unique (Shape.skipped_of_read shape read)
    exact ⟨_, read, whole.behind.skip_all⟩

/-- A text with one value in it is parsed as the values of that document. -/
theorem Shape.parse_iff_means {shape : Shape} (untagged : shape.untagged = true)
    (formed : shape.wellFormed = true) (shallow : shape.depth < nestingLimit)
    {whole : Element Document} {value : shape.Value} :
    shape.parse whole.octets = .ok value ↔ shape.Means whole.value value := by
  rw [← Shape.finds shape untagged formed shallow whole.standsAt value, Shape.parse_whole_iff]

theorem Wire.decode_iff_means {α : Type} [Wire α] (untagged : (Wire.shape α).untagged = true)
    (formed : (Wire.shape α).wellFormed = true) (shallow : (Wire.shape α).depth < nestingLimit)
    {whole : Element Document} {value : α} :
    Wire.decode α whole.octets = .ok value ↔
      ∃ held, (Wire.shape α).Means whole.value held ∧ Wire.ofValue held = value := by
  rw [Wire.decode_eq_ok_iff]
  exact exists_congr fun _ => and_congr_left' (Shape.parse_iff_means untagged formed shallow)

/-- A text that is parsed is one value between gaps. -/
theorem Shape.exists_whole_of_parse {shape : Shape} {input : Input} {value : shape.Value}
    (parsed : shape.parse input = .ok value) :
    ∃ whole : Element Document, input = whole.octets := by
  rcases Shape.parse_eq_ok_iff.mp parsed with ⟨rest, read, blank⟩
  rcases (Shape.skipped_of_read shape read).exists_document with ⟨before, document, split⟩
  rcases exists_gap_of_blank blank with ⟨behind, rfl⟩
  exact ⟨⟨before, document, behind⟩, split⟩

/-- Only the members that a type knows decide what a text decodes to. -/
structure Wire.ReadsKnownMembers (α : Type) [Wire α] : Prop where
  laidOut : ∀ input (value : α), Wire.decode α input = .ok value →
    ∃ whole : Element Document, input = whole.octets
  varied : ∀ first second : Element Document, (Wire.shape α).Variation first second →
    ∀ value : α, Wire.decode α first.octets = .ok value ↔ Wire.decode α second.octets = .ok value
  once : ∀ (whole : Element Document) (value : α), Wire.decode α whole.octets = .ok value →
    ∀ fields members, Within fields members members (Wire.shape α) whole.value whole.value →
      ∀ key ∈ fields.keys, (membersNamed key members).length ≤ 1

theorem Wire.readsKnownMembers {α : Type} [Wire α] (untagged : (Wire.shape α).untagged = true)
    (formed : (Wire.shape α).wellFormed = true) (shallow : (Wire.shape α).depth < nestingLimit) :
    Wire.ReadsKnownMembers α where
  laidOut input value decoded := by
    rcases Wire.decode_eq_ok_iff.mp decoded with ⟨held, parsed, _⟩
    exact Shape.exists_whole_of_parse parsed
  varied first second variation value := by
    rw [Wire.decode_iff_means untagged formed shallow, Wire.decode_iff_means untagged formed shallow]
    exact exists_congr fun held => and_congr_left' (variation.sameMeaning formed held)
  once whole value decoded fields members within := by
    rcases (Wire.decode_iff_means untagged formed shallow).mp decoded with ⟨held, means, _⟩
    rcases within.exists_holds means with ⟨values, holds⟩
    exact Fields.once_of_holds fields holds

end Json
end LendingGateway
