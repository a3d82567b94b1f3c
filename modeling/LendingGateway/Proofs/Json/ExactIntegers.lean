import LendingGateway.Proofs.Json.SpotReading

namespace LendingGateway
namespace Json

open Traversal

/-!
# Integers of whole documents

A document in which one number is left open is a function of that number.  Where an integer of
some type is given by that number, a text decodes exactly if its number writes an integer of the
range, and the type then has this integer and no other.
-/

/-! ## Documents with an open number -/

/-- A document in which one number is left open. -/
abbrev Template :=
  Number → Document

/-- A list has another template at a position. -/
inductive InItem (inner : Template) : (position : Nat) → Template → Prop where
  | at {opening : Gap} {before behind : List (Element Document)} (element : Element Document) :
    InItem inner before.length fun number =>
      .list opening (before ++ element.withValue (inner number) :: behind)

/-- A record has another template for one of its fields: in a member with the key of the field,
or at a position of a list. -/
inductive InField (key : String) (position : Nat) (inner : Template) : Template → Prop where
  | member {opening : Gap} {before behind : List (Member Document)} (member : Member Document)
    (named : member.name? = some key) : InField key position inner fun number =>
      .object opening (before ++ member.withValue (inner number) :: behind)
  | element {opening : Gap} {before behind : List (Element Document)} (element : Element Document)
    (counted : before.length = position) : InField key position inner fun number =>
      .list opening (before ++ element.withValue (inner number) :: behind)

section Spots

variable {kind : IntegerKind} {shape : Shape} {get : shape.Value → Option kind.shape.Value}
  {inner outer : Template} {key : String} {position : Nat} {fields : Fields}
  {pick : fields.Value → shape.Value}

theorem InItem.spot (within : InItem inner position outer)
    (spots : ∀ x y, Spot kind x y shape (inner x) (inner y) get) (x y : Number) :
    Spot kind x y (.list shape) (outer x) (outer y) fun values => values[position]?.bind get := by
  cases within with
  | «at» element => exact @Spot.item kind x y _ _ _ _ (element.withValue (inner x)) _ _ (spots x y)

theorem InField.spot {title : String} (within : InField key position inner outer)
    (field : fields.Field key shape position pick)
    (spots : ∀ x y, Spot kind x y shape (inner x) (inner y) get) (x y : Number) :
    Spot kind x y (.record title fields) (outer x) (outer y) fun values => get (pick values) := by
  cases within with
  | member member named => exact .member field named (spots x y)
  | element element counted =>
    subst counted
    exact .element field (spots x y)

/-- In the list of a variant the name comes first, so its fields stand one further back. -/
theorem InField.variant_spot {title tag : String} {variants : Variants}
    {choose : variants.Value → Option fields.Value}
    (within : InField key (position + 1) inner outer) (variant : variants.Variant fields choose)
    (untagged : shape.untagged = true) (field : fields.Field key shape position pick)
    (other : key ≠ tag) (spots : ∀ x y, Spot kind x y shape (inner x) (inner y) get)
    (x y : Number) :
    Spot kind x y (.tagged title tag variants) (outer x) (outer y)
      fun value => (choose value).bind fun values => get (pick values) := by
  cases within with
  | member member named => exact .variantMember variant untagged field other named (spots x y)
  | @element opening before behind element counted =>
    cases before with
    | nil => cases counted
    | cons name before =>
      obtain rfl := Nat.succ.inj counted
      exact .variantElement variant untagged field (spots x y)

end Spots

/-! ## Exactness -/

/-- The text of a template with a number in it, between two gaps. -/
def Template.text (template : Template) (before behind : Gap) (number : Number) : Input :=
  Element.octets ⟨before, template number, behind⟩

/-- An integer is exact where the number of a template gives it.  A text that decodes has the
integer that its number writes.  If a text decodes with any number at all, then with every number
that writes an integer of the range, and with no other: those are refused as values of a wrong
type or as out of range. -/
structure Wire.ExactAt (α : Type) [Wire α] (kind : IntegerKind) (template : Template)
    (field : α → Option kind.shape.Value) : Prop where
  exact : ∀ {before behind number} {value : α} {held},
    Wire.decode α (template.text before behind number) = .ok value → field value = some held →
      number.Writes (kind.toInt held)
  accepts : ∀ {before behind given} {found : α},
    Wire.decode α (template.text before behind given) = .ok found → field found ≠ none →
      ∀ {number integer}, number.Writes integer → kind.least ≤ integer → integer ≤ kind.most →
        ∃ (value : α) (held : _), Wire.decode α (template.text before behind number) = .ok value ∧
          field value = some held ∧ kind.toInt held = integer
  refuses : ∀ {before behind given} {found : α},
    Wire.decode α (template.text before behind given) = .ok found → field found ≠ none →
      ∀ {number}, (¬ ∃ integer, number.Writes integer ∧ kind.least ≤ integer ∧
        integer ≤ kind.most) →
        ∃ fault, Wire.decode α (template.text before behind number) = .error fault ∧
          (fault.cause.category = .mismatch ∨ fault.cause = .numberOutOfRange)

/-- Where the number of a template gives an integer of a type. -/
structure Wire.SpotAt (α : Type) [Wire α] (kind : IntegerKind) (template : Template)
    (field : α → Option kind.shape.Value) (get : (Wire.shape α).Value → Option kind.shape.Value) :
    Prop where
  spots : ∀ x y, Spot kind x y (Wire.shape α) (template x) (template y) get
  shown : ∀ held, field (Wire.ofValue held) = get held

section Exactness

variable {α : Type} [Wire α] {kind : IntegerKind} {template : Template}
  {field : α → Option kind.shape.Value} {get : (Wire.shape α).Value → Option kind.shape.Value}

/-- If a text decodes, then what becomes of another number decides what its text decodes to. -/
theorem Wire.SpotAt.decides (spot : Wire.SpotAt α kind template field get) {before behind : Gap}
    {given : Number} {found : α}
    (decoded : Wire.decode α (template.text before behind given) = .ok found)
    (present : field found ≠ none) (number : Number) :
    match kind.outcome number with
    | .ok held => ∃ value, Wire.decode α (template.text before behind number) = .ok value ∧
        field value = some held
    | .error cause => FailsFor cause (Wire.decode α (template.text before behind number)) := by
  rcases Wire.decode_eq_ok_iff.mp decoded with ⟨first, parsed, rfl⟩
  rcases Shape.parse_whole_iff.mp parsed with ⟨last, read⟩
  rw [spot.shown] at present
  have decided := (spot.spots given number).turns (Element.standsAt ⟨before, _, behind⟩)
    (Element.standsAt ⟨before, _, behind⟩) read present
  cases outcome : kind.outcome number with
  | ok held =>
    rw [outcome] at decided
    rcases decided with ⟨second, last, again, got⟩
    exact ⟨Wire.ofValue second,
      Wire.decode_eq_ok_iff.mpr ⟨second, Shape.parse_whole_iff.mpr ⟨last, again⟩, rfl⟩,
      (spot.shown second).trans got⟩
  | error cause =>
    rw [outcome] at decided
    exact (FailsFor.bind decided _).bind _

theorem Wire.SpotAt.exactAt (spot : Wire.SpotAt α kind template field get) :
    Wire.ExactAt α kind template field where
  exact := by
    intro before behind number value held decoded got
    have present : field value ≠ none := by
      rw [got]
      exact Option.some_ne_none held
    have decided := spot.decides decoded present number
    cases outcome : kind.outcome number with
    | ok same =>
      rw [outcome] at decided
      rcases decided with ⟨other, again, known⟩
      obtain rfl : value = other := Except.ok.inj (decoded.symm.trans again)
      obtain rfl : held = same := Option.some.inj (got.symm.trans known)
      exact kind.outcome_eq_ok_iff.mp outcome
    | error cause =>
      rw [outcome] at decided
      rcases decided with ⟨path, failed⟩
      cases decoded.symm.trans failed
  accepts := by
    intro before behind given found decoded present number integer writes least most
    rcases kind.range_iff.mpr ⟨least, most⟩ with ⟨held, rfl⟩
    have decided := spot.decides decoded present number
    rw [kind.outcome_eq_ok_iff.mpr writes] at decided
    rcases decided with ⟨value, again, got⟩
    exact ⟨value, held, again, got, rfl⟩
  refuses := by
    intro before behind given found decoded present number beyond
    have decided := spot.decides decoded present number
    cases outcome : kind.outcome number with
    | ok held =>
      exact absurd (kind.exists_outcome_iff.mp ⟨held, outcome⟩) beyond
    | error cause =>
      rw [outcome] at decided
      rcases decided with ⟨path, failed⟩
      exact ⟨_, failed, kind.outcome_error outcome⟩

end Exactness

end Json
end LendingGateway
