import LendingGateway.Proofs.Json.Containers

namespace LendingGateway
namespace Json

open Traversal

/-!
# Trees as they are written

A tree is read from its text as the same tree but for its numbers, with whatever stands after
it left to be read.  This needs that the tree nests no deeper than the reader may go and that
it is known what its numbers are read as; texts and keys are arbitrary.
-/

/-! ## Numbers -/

/-- A number is read from its text as another one, and nothing of the text is left. -/
def Numeral.RestoresTo (number restored : Numeral) : Prop :=
  readNumeral (Text.octets (renderNumeral number)) = .ok (restored, [])

/-- A number that is read from its text as it was. -/
def Numeral.Legible (number : Numeral) : Prop :=
  number.RestoresTo number

/-- What the text of a number is read as. -/
inductive Numeral.ReadsAs (number : Numeral) : Tree → Prop where
  | number {restored : Numeral} (restores : number.RestoresTo restored) :
    ReadsAs number (.number restored)
  | null (written : renderNumeral number = "null") : ReadsAs number .null

theorem Numeral.RestoresTo.head {number restored : Numeral}
    (restores : number.RestoresTo restored) :
    ∃ octet others, Text.octets (renderNumeral number) = octet :: others ∧
      (octet = 0x2d ∨ isDigit octet = true) := by
  rcases bind_eq_ok_iff.mp restores with ⟨⟨literal, after⟩, lexed, _⟩
  exact lexLiteral_head lexed

theorem Numeral.RestoresTo.read {number restored : Numeral} (restores : number.RestoresTo restored)
    {rest : Input} (delimited : Delimited rest) :
    readNumeral (Text.octets (renderNumeral number) ++ rest) = .ok (restored, rest) :=
  readNumeral_append delimited restores

/-! ## Trees -/

mutual

/-- A tree with other trees for its numbers. -/
def Tree.mapNumbers (restore : Numeral → Tree) : Tree → Tree
  | .null => .null
  | .boolean value => .boolean value
  | .number value => restore value
  | .text value => .text value
  | .list items => .list (mapItems restore items)
  | .object members => .object (mapMembers restore members)

def mapItems (restore : Numeral → Tree) : List Tree → List Tree
  | [] => []
  | item :: items => item.mapNumbers restore :: mapItems restore items

def mapMembers (restore : Numeral → Tree) : List (String × Tree) → List (String × Tree)
  | [] => []
  | (key, value) :: members => (key, value.mapNumbers restore) :: mapMembers restore members

end

theorem mapItems_eq_map (restore : Numeral → Tree) (items : List Tree) :
    mapItems restore items = items.map (Tree.mapNumbers restore) := by
  induction items with
  | nil => rfl
  | cons item items inductionHypothesis =>
    rw [mapItems, inductionHypothesis, List.map_cons]

/-- A member with other trees for its numbers. -/
def mapMember (restore : Numeral → Tree) (entry : String × Tree) : String × Tree :=
  (entry.1, entry.2.mapNumbers restore)

theorem mapMembers_eq_map (restore : Numeral → Tree) (members : List (String × Tree)) :
    mapMembers restore members = members.map (mapMember restore) := by
  induction members with
  | nil => rfl
  | cons entry members inductionHypothesis =>
    rw [mapMembers, inductionHypothesis, List.map_cons, mapMember]

mutual

@[simp]
theorem Tree.mapNumbers_number : (tree : Tree) → tree.mapNumbers .number = tree
  | .null | .boolean _ | .number _ | .text _ => rfl
  | .list items => congrArg Tree.list (mapItems_number items)
  | .object members => congrArg Tree.object (mapMembers_number members)

theorem mapItems_number : (items : List Tree) → mapItems .number items = items
  | [] => rfl
  | item :: items => by rw [mapItems, Tree.mapNumbers_number item, mapItems_number items]

theorem mapMembers_number : (members : List (String × Tree)) → mapMembers .number members = members
  | [] => rfl
  | (key, value) :: members => by
    rw [mapMembers, Tree.mapNumbers_number value, mapMembers_number members]

end

theorem map_mapMember_number (members : List (String × Tree)) :
    members.map (mapMember .number) = members :=
  (mapMembers_eq_map .number members).symm.trans (mapMembers_number members)

/-- A tree that nests at most so many containers and whose numbers are read as given. -/
inductive Tree.Legible (restore : Numeral → Tree) : (depth : Nat) → Tree → Prop where
  | null (depth : Nat) : Legible restore depth .null
  | boolean (depth : Nat) (value : Bool) : Legible restore depth (.boolean value)
  | number (depth : Nat) {value : Numeral} (reads : value.ReadsAs (restore value)) :
    Legible restore depth (.number value)
  | text (depth : Nat) (value : String) : Legible restore depth (.text value)
  | list {depth : Nat} {items : List Tree} (legible : ∀ item ∈ items, Legible restore depth item) :
    Legible restore (depth + 1) (.list items)
  | object {depth : Nat} {members : List (String × Tree)}
    (legible : ∀ entry ∈ members, Legible restore depth entry.2) :
    Legible restore (depth + 1) (.object members)

variable {restore : Numeral → Tree}

/-- An octet that begins a number begins nothing else. -/
theorem number_head {octet : UInt8} (begins : octet = 0x2d ∨ isDigit octet = true) :
    isGap octet = false ∧ octet ≠ 0x22 ∧ octet ≠ 0x5b ∧ octet ≠ 0x5d ∧ octet ≠ 0x66 ∧
      octet ≠ 0x6e ∧ octet ≠ 0x74 ∧ octet ≠ 0x7b := by
  rcases begins with rfl | digit
  · decide
  · rw [isDigit, Bool.and_eq_true, decide_eq_true_eq, decide_eq_true_eq, UInt8.le_iff_toNat_le,
      UInt8.le_iff_toNat_le] at digit
    simp only [UInt8.reduceToNat] at digit
    simp only [isGap, Bool.or_eq_false_iff, beq_eq_false_iff_ne, ne_eq, ← UInt8.toNat_inj,
      UInt8.reduceToNat]
    omega

theorem octets_render_text (text : String) (rest : Input) :
    Text.octets (Tree.text text).render ++ rest = 0x22 :: (escapedOctets text ++ 0x22 :: rest) := by
  rw [Tree.render, octets_renderText, List.cons_append, List.append_assoc]
  rfl

theorem octets_render_list (items : List Tree) (rest : Input) :
    Text.octets (Tree.list items).render ++ rest =
      0x5b :: (joined (items.map fun item => Text.octets item.render) ++ 0x5d :: rest) := by
  have opening : Text.octets "[" = [0x5b] := rfl
  have closing : Text.octets "]" = [0x5d] := rfl
  rw [Tree.render, Text.octets_append, Text.octets_append, opening, closing, octets_intercalate,
    renderItems_eq_map, List.map_map, List.append_assoc]
  rfl

theorem octets_render_object (members : List (String × Tree)) (rest : Input) :
    Text.octets (Tree.object members).render ++ rest =
      0x7b :: (joined (members.map memberOctets) ++ 0x7d :: rest) := by
  have opening : Text.octets "\x7b" = [0x7b] := rfl
  have closing : Text.octets "\x7d" = [0x7d] := rfl
  rw [Tree.render, Text.octets_append, Text.octets_append, opening, closing, octets_intercalate,
    octets_renderMembers, List.append_assoc]
  rfl

/-- The text of a tree begins with no gap and with no bracket that closes a list, and only
what is read as null begins with its letter. -/
theorem Tree.Legible.head {depth : Nat} {tree : Tree} (legible : tree.Legible restore depth) :
    ∃ octet others, Text.octets tree.render = octet :: others ∧ isGap octet = false ∧
      octet ≠ 0x5d ∧ (octet = 0x6e → tree.mapNumbers restore = .null) := by
  rw [← List.append_nil (Text.octets tree.render)]
  cases legible with
  | null => exact ⟨0x6e, _, rfl, rfl, by decide, fun _ => rfl⟩
  | boolean _ value =>
    cases value with
    | true => exact ⟨0x74, _, rfl, rfl, by decide, fun impossible => absurd impossible (by decide)⟩
    | false => exact ⟨0x66, _, rfl, rfl, by decide, fun impossible => absurd impossible (by decide)⟩
  | @number _ value reads =>
    rw [Tree.mapNumbers, Tree.render]
    generalize restore value = restored at reads
    cases reads with
    | number restores =>
      rcases restores.head with ⟨octet, others, written, begins⟩
      rcases number_head begins with ⟨solid, _, _, notBracket, _, notNull, _⟩
      exact ⟨octet, others, (List.append_nil _).trans written, solid, notBracket,
        fun impossible => absurd impossible notNull⟩
    | null written =>
      rw [written]
      exact ⟨0x6e, _, rfl, rfl, by decide, fun _ => rfl⟩
  | text _ value =>
    exact ⟨0x22, _, octets_render_text value [], rfl, by decide,
      fun impossible => absurd impossible (by decide)⟩
  | list =>
    exact ⟨0x5b, _, octets_render_list _ [], rfl, by decide,
      fun impossible => absurd impossible (by decide)⟩
  | object =>
    exact ⟨0x7b, _, octets_render_object _ [], rfl, by decide,
      fun impossible => absurd impossible (by decide)⟩

theorem Tree.Legible.opens {depth : Nat} {tree : Tree} (legible : tree.Legible restore depth) :
    Opens (Text.octets tree.render) := by
  rcases legible.head with ⟨octet, others, written, solid, notBracket, _⟩
  exact ⟨octet, others, written, solid, notBracket⟩

theorem readScalar_number {octet : UInt8} (begins : octet = 0x2d ∨ isDigit octet = true)
    (rest : Input) :
    readScalar octet rest = (do
      let (value, rest) ← readNumeral (octet :: rest)
      .ok (.number value, rest)) := by
  rcases number_head begins with ⟨_, notQuote, _, _, notFalse, notNull, notTrue, _⟩
  unfold readScalar
  rw [if_neg notNull, if_neg notTrue, if_neg notFalse, if_neg notQuote, if_pos begins]

/-- Read a member of an object and put it before those already read. -/
def readTreeMember (depth : Nat) (members : List (String × Tree)) (key : String)
    (input : Input) : Except Fault (List (String × Tree) × Input) := do
  let rest ← here (expectColon input)
  let (value, rest) ← inside (.key key) (Tree.read depth rest)
  .ok ((key, value) :: members, rest)

/-- What the members of an object are gathered to, in reverse. -/
def pushMember (restore : Numeral → Tree) (members : List (String × Tree))
    (entry : String × Tree) : Except Cause (List (String × Tree)) :=
  .ok (mapMember restore entry :: members)

theorem foldlM_pushMember (members done : List (String × Tree)) :
    members.foldlM (pushMember restore) done =
      .ok ((members.map (mapMember restore)).reverse ++ done) := by
  induction members generalizing done with
  | nil => rfl
  | cons entry members inductionHypothesis =>
    have pushed : (entry :: members).foldlM (pushMember restore) done =
        members.foldlM (pushMember restore) (mapMember restore entry :: done) := rfl
    rw [pushed, inductionHypothesis, List.map_cons, List.reverse_cons, List.append_assoc]
    rfl

theorem Tree.read_number {number : Numeral} {tree : Tree} (reads : number.ReadsAs tree)
    (depth : Nat) : ReadAs (Tree.read depth) (Text.octets (renderNumeral number)) tree := by
  intro rest delimited
  cases reads with
  | number restores =>
    rcases restores.head with ⟨octet, others, written, begins⟩
    rcases number_head begins with ⟨solid, _, notList, _, _, _, _, notObject⟩
    have read := restores.read delimited
    rw [written, List.cons_append] at read ⊢
    unfold Tree.read
    rw [skipGap_cons solid]
    dsimp only
    rw [if_neg notList, if_neg notObject, readScalar_number begins, read]
    rfl
  | null written =>
    rw [written]
    unfold Tree.read
    rfl

/-- A tree is read from its text as it was but for its numbers. -/
theorem Tree.Legible.read {depth : Nat} {tree : Tree} (legible : tree.Legible restore depth) :
    ReadAs (Tree.read depth) (Text.octets tree.render) (tree.mapNumbers restore) := by
  induction legible with
  | null depth =>
    intro rest _
    unfold Tree.read
    rfl
  | boolean depth value =>
    intro rest _
    unfold Tree.read
    cases value <;> rfl
  | number depth reads => exact Tree.read_number reads depth
  | text depth value =>
    intro rest _
    rw [octets_render_text]
    unfold Tree.read
    change here (readText (escapedOctets value ++ 0x22 :: rest) >>= fun read =>
      .ok (Tree.text read.1, read.2)) = _
    rw [readText_escapedOctets]
    rfl
  | list legible inductionHypothesis =>
    rename_i depth items
    intro rest _
    rw [octets_render_list, Tree.mapNumbers, mapItems_eq_map]
    unfold Tree.read
    change (readList (Tree.read depth) (joined _ ++ 0x5d :: rest) >>= fun read =>
      .ok (Tree.list read.1, read.2)) = _
    rw [readList_joined (fun item member => (legible item member).opens) inductionHypothesis]
    rfl
  | object legible inductionHypothesis =>
    rename_i depth members
    intro rest _
    rw [octets_render_object, Tree.mapNumbers, mapMembers_eq_map]
    have follows : ∀ entry ∈ members,
        Follows (readTreeMember depth) (pushMember restore) entry := by
      intro entry member gathered next pushed rest delimited
      cases pushed
      have read := inductionHypothesis entry member rest delimited
      rw [List.cons_append, readTreeMember, expectColon_colon]
      change (inside (.key entry.1) (Tree.read depth (Text.octets entry.2.render ++ rest))
        >>= fun read => .ok ((entry.1, read.1) :: gathered, read.2)) = _
      rw [read]
      rfl
    have looped := readMembers_joined follows (foldlM_pushMember members []) rest
    unfold Tree.read
    change (readMembers (readTreeMember depth) _ true [] (joined _ ++ 0x7d :: rest) >>= fun read =>
      here (closeObject read.2) >>= fun rest => .ok (Tree.object read.1.reverse, rest)) = _
    rw [looped]
    change Except.ok
      (Tree.object ((members.map (mapMember restore)).reverse ++ []).reverse, rest) = _
    rw [List.append_nil, List.reverse_reverse]

end Json
end LendingGateway
