import LendingGateway.Json.Shape
import LendingGateway.Json.Skip

namespace LendingGateway
namespace Json

/-!
# Reading a value by its shape

There are two readers.  The direct one takes a value off the front of a document; it
stops at the first fault and never builds a tree.  The other one takes a value out of a
tree.  It is needed for tagged records: their tag may be any of their members, so the
whole object is read as a tree before its variant is known.

A record may be given as an object, whose unknown members are ignored, or as a list of
its fields in the order of their declaration.
-/

/-! ## Fields that have been met -/

/-- The fields of a record read so far. -/
@[reducible]
def Fields.Slots : Fields → Type
  | .nil => Unit
  | .cons _ _ shape rest => Option shape.Value × rest.Slots

def Fields.noSlots : (fields : Fields) → fields.Slots
  | .nil => ()
  | .cons _ _ _ rest => (none, rest.noSlots)

/-- The value of a field that was not met. -/
def absent (key : String) (presence : Presence) (shape : Shape) : Except Cause shape.Value :=
  match presence with
  | .required => .error (.missingField key)
  | .defaulted | .elided => .ok shape.blank

/-- The record, once all its members have been read.  Missing fields are reported in the
order of their declaration. -/
def Fields.fill : (fields : Fields) → fields.Slots → Except Cause fields.Value
  | .nil, _ => .ok ()
  | .cons key presence shape rest, (slot, slots) => do
    let value ← match slot with
      | some value => .ok value
      | none => absent key presence shape
    let values ← rest.fill slots
    .ok (value, values)

/-- The position of a name in a choice. -/
def chooseName (first : String) (others : List String) (name : String) :
    Except Cause (Fin (others.length + 1)) :=
  match (first :: others).finIdxOf? name with
  | some position => .ok position
  | none => .error (.unknownVariant name (first :: others))

/-! ## Reading out of a tree -/

/-- What a tree has to be for a variant without data. -/
def expectUnit : Tree → Except Cause Unit
  | .null => .ok ()
  | .object [] => .ok ()
  | tree => .error (.wrongType tree.found .unit)

/-- Gather the tag of a tagged record and its other members, in order. -/
def splitTag (tag : String) (names : List String) :
    Option String → List (String × Tree) → List (String × Tree) →
      Except Cause (String × List (String × Tree))
  | none, _, [] => .error (.missingField tag)
  | some name, others, [] => .ok (name, others.reverse)
  | name?, others, (key, value) :: members =>
    if key = tag then
      match name?, value with
      | some _, _ => .error (.duplicateField tag)
      | none, .text name =>
        if name ∈ names then splitTag tag names (some name) others members
        else .error (.unknownVariant name names)
      | none, value => .error (.wrongType value.found .variantName)
    else splitTag tag names name? ((key, value) :: others) members

/-- A record out of a tree, by a way to take one member of an object, a way to finish, and
a way to take the elements of a list. -/
def recordOfTree {σ β : Type} (title : String) (place : String → Tree → σ → Except Cause σ)
    (finish : σ → Except Cause β) (ofItems : List Tree → Except Cause β) (start : σ) :
    Tree → Except Cause β
  | .object members => do
    let slots ← members.foldlM (fun slots (key, value) => place key value slots) start
    finish slots
  | .list items => ofItems items
  | tree => .error (.wrongType tree.found (.titled title))

mutual

/-- The value of a shape that a tree holds. -/
def Shape.ofTree : (shape : Shape) → Tree → Except Cause shape.Value
  | .text, tree =>
    match tree with
    | .text text => .ok text
    | _ => .error (.wrongType tree.found .text)
  | .real, tree =>
    match tree with
    | .number number => .ok number.toReal
    | _ => .error (.wrongType tree.found .real)
  | .int64, tree =>
    match tree with
    | .number number => number.toInt64
    | _ => .error (.wrongType tree.found .int64)
  | .nat64, tree =>
    match tree with
    | .number number => number.toUInt64
    | _ => .error (.wrongType tree.found .nat64)
  | .optional inner, tree =>
    match tree with
    | .null => .ok none
    | _ => do
      let value ← inner.ofTree tree
      .ok (some value)
  | .list item, tree =>
    match tree with
    | .list items => items.mapM item.ofTree
    | _ => .error (.wrongType tree.found .sequence)
  | .choice first others, tree =>
    match tree with
    | .text name => chooseName first others name
    | .object [(name, value)] => do
      let position ← chooseName first others name
      expectUnit value
      .ok position
    | .object _ => .error .notOneMember
    | _ => .error (.wrongType tree.found .variantForm)
  | .dictionary entry, tree =>
    match tree with
    | .object members =>
      members.foldlM
        (fun entries (key, value) => do
          let value ← entry.ofTree value
          .ok (entries.insert key value))
        Dictionary.empty
    | _ => .error (.wrongType tree.found .map)
  | .record title fields, tree =>
    recordOfTree title fields.placeTree fields.fill (fields.ofItems title fields.count 0)
      fields.noSlots tree
  | .tagged title tag variants, tree =>
    match tree with
    | .object members => do
      let (name, others) ← splitTag tag variants.names none [] members
      variants.ofTree name (.object others)
    | .list (first :: items) =>
      match first with
      | .text name =>
        if name ∈ variants.names then variants.ofTree name (.list items)
        else .error (.unknownVariant name variants.names)
      | _ => .error (.wrongType first.found .variantName)
    | .list [] => .error (.missingField tag)
    | _ => .error (.wrongType tree.found (.titled title))

/-- Take one member of an object into the fields read so far. -/
def Fields.placeTree : (fields : Fields) → String → Tree → fields.Slots →
    Except Cause fields.Slots
  | .nil, _, _, slots => .ok slots
  | .cons key _ shape rest, name, tree, (slot, slots) =>
    if name = key then
      match slot with
      | some _ => .error (.duplicateField key)
      | none => do
        let value ← shape.ofTree tree
        .ok (some value, slots)
    else do
      let slots ← rest.placeTree name tree slots
      .ok (slot, slots)

/-- The fields of a record of which `index` have been taken, from the elements left. -/
def Fields.ofItems (title : String) (total : Nat) : (fields : Fields) → (index : Nat) →
    List Tree → Except Cause fields.Value
  | .nil, index, items =>
    if items.isEmpty then .ok () else .error (.tooManyElements (index + items.length) index)
  | .cons _ presence shape rest, index, items =>
    match items with
    | item :: items => do
      let value ← shape.ofTree item
      let values ← rest.ofItems title total (index + 1) items
      .ok (value, values)
    | [] =>
      match presence with
      | .required => .error (.tooFewElements index title total)
      | .defaulted | .elided => do
        let values ← rest.ofItems title total (index + 1) []
        .ok (shape.blank, values)

/-- The variant of a name that a tree holds. -/
def Variants.ofTree (name : String) : (variants : Variants) → Tree →
    Except Cause variants.Value
  | .one _ title fields, tree =>
    recordOfTree title fields.placeTree fields.fill (fields.ofItems title fields.count 0)
      fields.noSlots tree
  | .more known title fields rest, tree =>
    if name = known then do
      let values ← recordOfTree title fields.placeTree fields.fill
        (fields.ofItems title fields.count 0) fields.noSlots tree
      .ok (.inl values)
    else do
      let value ← rest.ofTree name tree
      .ok (.inr value)

end

/-! ## Reading off the front of a document -/

def readNumber {α : Type} (wanted : Wanted) (convert : Numeral → Except Cause α)
    (input : Input) : Except Cause (α × Input) :=
  match skipGap input with
  | [] => .error .endInValue
  | octet :: rest =>
    if octet = 0x2d ∨ isDigit octet then do
      let (number, rest) ← readNumeral (octet :: rest)
      let value ← convert number
      .ok (value, rest)
    else misfit wanted (octet :: rest)

/-- Read a text, or say what stands in its place. -/
def readString (wanted : Wanted) (input : Input) : Except Cause (String × Input) :=
  match skipGap input with
  | 0x22 :: rest => readText rest
  | _ => misfit wanted input

/-- Read a name of a choice in either of its spellings. -/
def readChoice (first : String) (others : List String) (depth : Nat) (input : Input) :
    Except Cause (Fin (others.length + 1) × Input) :=
  match skipGap input with
  | [] => .error .endInValue
  | octet :: rest =>
    if octet = 0x22 then do
      let (name, rest) ← readText rest
      let position ← chooseName first others name
      .ok (position, rest)
    else if octet = 0x7b then
      if depth = 0 then .error .tooDeep
      else do
        let (name, rest) ← readString .variantName rest
        let position ← chooseName first others name
        let rest ← expectColon rest
        let rest ← match skipGap rest with
          | 0x6e :: rest => expectText "ull" rest
          | _ => misfit .unit rest
        match skipGap rest with
        | [] => .error .endInObject
        | octet :: rest =>
          if octet = 0x7d then .ok (position, rest) else .error .expectedValue
    else .error .expectedValue

def readVariantName (names : List String) (input : Input) :
    Except Cause (String × Input) := do
  let (name, rest) ← readString .variantName input
  if name ∈ names then .ok (name, rest) else .error (.unknownVariant name names)

/-- Read a member of a tagged record: its tag, or a member to be understood later. -/
def readTaggedMember (tag : String) (names : List String) (depth : Nat)
    (gathered : Option String × List (String × Tree)) (key : String) (input : Input) :
    Except Fault ((Option String × List (String × Tree)) × Input) :=
  if key = tag then
    match gathered.1 with
    | some _ => .error ⟨.duplicateField tag, []⟩
    | none => do
      let rest ← here (expectColon input)
      let (name, rest) ← inside (.key key) (here (readVariantName names rest))
      .ok ((some name, gathered.2), rest)
  else do
    let rest ← here (expectColon input)
    let (value, rest) ← inside (.key key) (Tree.read depth rest)
    .ok ((gathered.1, (key, value) :: gathered.2), rest)

/-- Read a tagged record up to its end: the name of its variant, and a tree of all the
rest. -/
def readTagged (title tag : String) (names : List String) (depth : Nat) (input : Input) :
    Except Fault ((String × Tree) × Input) :=
  match skipGap input with
  | [] => .error ⟨.endInValue, []⟩
  | octet :: rest =>
    if octet = 0x7b then
      match depth with
      | 0 => .error ⟨.tooDeep, []⟩
      | depth + 1 => do
        let (gathered, rest) ← readMembers (readTaggedMember tag names depth)
          (rest.length + 1) true (none, []) rest
        match gathered.1 with
        | none => .error ⟨.missingField tag, []⟩
        | some name =>
          let rest ← here (closeObject rest)
          .ok ((name, .object gathered.2.reverse), rest)
    else if octet = 0x5b then
      match depth with
      | 0 => .error ⟨.tooDeep, []⟩
      | depth + 1 => do
        let (more, rest) ← here (nextElement true rest)
        if more then
          let (name, rest) ← inside (.index 0) (here (readVariantName names rest))
          let (items, rest) ← readItems (Tree.read depth) (rest.length + 1) 1 [] rest
          let rest ← here (closeList rest)
          .ok ((name, .list items), rest)
        else .error ⟨.missingField tag, []⟩
    else here (misfit (.titled title) (octet :: rest))

mutual

/-- Read a value of a shape, with the given number of containers still allowed. -/
def Shape.read : (shape : Shape) → (depth : Nat) → Input → Except Fault (shape.Value × Input)
  | .text, _, input => here (readString .text input)
  | .real, _, input => here (readNumber .real (fun number => .ok number.toReal) input)
  | .int64, _, input => here (readNumber .int64 Numeral.toInt64 input)
  | .nat64, _, input => here (readNumber .nat64 Numeral.toUInt64 input)
  | .optional inner, depth, input =>
    match skipGap input with
    | 0x6e :: rest => do
      let rest ← here (expectText "ull" rest)
      .ok (none, rest)
    | _ => do
      let (value, rest) ← inner.read depth input
      .ok (some value, rest)
  | .list item, depth, input =>
    match skipGap input with
    | 0x5b :: rest =>
      if depth = 0 then .error ⟨.tooDeep, []⟩ else readList (item.read (depth - 1)) rest
    | _ => here (misfit .sequence input)
  | .choice first others, depth, input => here (readChoice first others depth input)
  | .dictionary entry, depth, input =>
    match skipGap input with
    | 0x7b :: rest =>
      if depth = 0 then .error ⟨.tooDeep, []⟩
      else do
        let (entries, rest) ← readMembers
          (fun entries key input => do
            let rest ← here (expectColon input)
            let (value, rest) ← inside (.key key) (entry.read (depth - 1) rest)
            .ok (entries.insert key value, rest))
          (rest.length + 1) true Dictionary.empty rest
        let rest ← here (closeObject rest)
        .ok (entries, rest)
    | _ => here (misfit .map input)
  | .record title fields, depth, input =>
    match skipGap input with
    | 0x7b :: rest =>
      if depth = 0 then .error ⟨.tooDeep, []⟩
      else do
        let (slots, rest) ← readMembers
          (fun slots key input => fields.place (depth - 1) key input slots)
          (rest.length + 1) true fields.noSlots rest
        let values ← here (fields.fill slots)
        let rest ← here (closeObject rest)
        .ok (values, rest)
    | 0x5b :: rest =>
      if depth = 0 then .error ⟨.tooDeep, []⟩
      else do
        let (values, rest) ← fields.readElements title fields.count (depth - 1) 0 rest
        let rest ← here (closeList rest)
        .ok (values, rest)
    | _ => here (misfit (.titled title) input)
  | .tagged title tag variants, depth, input => do
    let ((name, tree), rest) ← readTagged title tag variants.names depth input
    let value ← here (variants.ofTree name tree)
    .ok (value, rest)

/-- Read the value of one member into the fields read so far.  The value of an unknown
member is skipped. -/
def Fields.place : (fields : Fields) → (depth : Nat) → String → Input → fields.Slots →
    Except Fault (fields.Slots × Input)
  | .nil, _, name, input, slots => do
    let rest ← here (expectColon input)
    let rest ← inside (.key name) (here (skipValue rest))
    .ok (slots, rest)
  | .cons key _ shape rest, depth, name, input, (slot, slots) =>
    if name = key then
      match slot with
      | some _ => .error ⟨.duplicateField key, []⟩
      | none => do
        let input ← here (expectColon input)
        let (value, input) ← inside (.key key) (shape.read depth input)
        .ok ((some value, slots), input)
    else do
      let (slots, input) ← rest.place depth name input slots
      .ok ((slot, slots), input)

/-- Read the fields of a record of which `index` have been read, from the elements of a
list up to its end or to the last field. -/
def Fields.readElements (title : String) (total : Nat) : (fields : Fields) →
    (depth index : Nat) → Input → Except Fault (fields.Value × Input)
  | .nil, _, _, input => .ok ((), input)
  | .cons _ presence shape rest, depth, index, input => do
    let (more, input) ← here (nextElement (index == 0) input)
    if more then
      let (value, input) ← inside (.index index) (shape.read depth input)
      let (values, input) ← rest.readElements title total depth (index + 1) input
      .ok ((value, values), input)
    else
      match presence with
      | .required => .error ⟨.tooFewElements index title total, []⟩
      | .defaulted | .elided =>
        let (values, input) ← rest.readElements title total depth (index + 1) input
        .ok ((shape.blank, values), input)

end

/-- Read a document that holds one value of a shape and nothing else. -/
def Shape.parse (shape : Shape) (input : Input) : Except Fault shape.Value := do
  let (value, rest) ← shape.read nestingLimit input
  if (skipGap rest).isEmpty then .ok value else .error ⟨.trailingCharacters, []⟩

end Json
end LendingGateway
