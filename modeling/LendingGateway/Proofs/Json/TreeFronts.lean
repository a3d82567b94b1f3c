import LendingGateway.Proofs.Json.ContainerFronts
import LendingGateway.Proofs.Json.Restoring

namespace LendingGateway
namespace Json

open Traversal

/-!
# Trees that were cut off

The text of a tree that was cut off makes the reader of trees run out of input, unless the tree is
a number.  A number that was cut off is a number or makes the reader run out of input.
-/

variable {sound : Prop}

/-! ## Scalars -/

/-- A text is passed if what lacks some of it starves and all of it is read. -/
theorem passes_of_readAs {α : Type} {reader : Input → Except Fault (α × Input)} {text : Input}
    {value : α} (lacking : ∀ front missing, missing ≠ [] → text = front ++ missing →
      Starves sound (reader front)) (read : ReadAs reader text value) :
    Passes sound reader text := by
  have short : StopsShort sound reader text :=
    fun front missing nonempty split => Or.inl (lacking front missing nonempty split)
  exact short.passes fun rest delimited => Or.inr ⟨value, read rest delimited⟩

theorem Tree.read_nil (depth : Nat) : Starves sound (Tree.read depth []) := by
  unfold Tree.read
  exact starves_of_truncated rfl

/-- A word that was cut off. -/
theorem Tree.read_word {letter : UInt8} {word : Input} {depth : Nat} {value : Tree}
    (reads : ∀ rest, Tree.read depth (letter :: rest) = here (expectWord word rest >>= fun rest =>
      .ok (value, rest))) {front missing : Input} (nonempty : missing ≠ [])
    (split : letter :: word = front ++ missing) : Starves sound (Tree.read depth front) := by
  cases front with
  | nil => exact Tree.read_nil depth
  | cons first front =>
    rcases List.cons.inj split with ⟨rfl, behind⟩
    rw [reads, expectWord_front nonempty behind]
    exact starves_of_truncated rfl

theorem Tree.read_null_front {depth : Nat} {front missing : Input} (nonempty : missing ≠ [])
    (split : Text.octets "null" = front ++ missing) : Starves sound (Tree.read depth front) := by
  have reads : ∀ rest, Tree.read depth (0x6e :: rest) =
      here (expectWord [0x75, 0x6c, 0x6c] rest >>= fun rest => .ok (Tree.null, rest)) := by
    intro rest
    unfold Tree.read
    rfl
  exact Tree.read_word reads nonempty split

theorem render_text_eq (text : String) :
    Text.octets (Tree.text text).render = 0x22 :: (escapedOctets text ++ [0x22]) := by
  rw [← List.append_nil (Text.octets _), octets_render_text]

/-- A text that was cut off is empty, or only its first quote is there for sure. -/
theorem text_lacking {text : String} {front missing : Input} (nonempty : missing ≠ [])
    (split : Text.octets (Tree.text text).render = front ++ missing) :
    front = [] ∨ ∃ behind, front = 0x22 :: behind ∧ readText behind = .error .endInText := by
  rw [render_text_eq] at split
  cases front with
  | nil => exact Or.inl rfl
  | cons quote front =>
    rcases List.cons.inj split with ⟨rfl, behind⟩
    exact Or.inr ⟨front, rfl, readText_front nonempty behind⟩

theorem Tree.read_text_front {depth : Nat} {text : String} {front missing : Input}
    (nonempty : missing ≠ []) (split : Text.octets (Tree.text text).render = front ++ missing) :
    Starves sound (Tree.read depth front) := by
  rcases text_lacking nonempty split with rfl | ⟨behind, rfl, ended⟩
  · exact Tree.read_nil depth
  · unfold Tree.read
    change Starves sound (here (readText behind >>= fun read => .ok (Tree.text read.1, read.2)))
    rw [ended]
    exact starves_of_truncated rfl

theorem Tree.read_boolean_front {depth : Nat} {value : Bool} {front missing : Input}
    (nonempty : missing ≠ [])
    (split : Text.octets (Tree.boolean value).render = front ++ missing) :
    Starves sound (Tree.read depth front) := by
  cases value with
  | true =>
    have reads : ∀ rest, Tree.read depth (0x74 :: rest) =
        here (expectWord [0x72, 0x75, 0x65] rest >>= fun rest =>
          .ok (Tree.boolean true, rest)) := by
      intro rest
      unfold Tree.read
      rfl
    exact Tree.read_word reads nonempty split
  | false =>
    have reads : ∀ rest, Tree.read depth (0x66 :: rest) =
        here (expectWord [0x61, 0x6c, 0x73, 0x65] rest >>= fun rest =>
          .ok (Tree.boolean false, rest)) := by
      intro rest
      unfold Tree.read
      rfl
    exact Tree.read_word reads nonempty split

theorem isModerateText_of_restored {number restored : Numeral}
    (same : number.restored = .number restored) (restores : number.RestoresTo restored) :
    IsModerateText (Text.octets (renderNumeral number)) := by
  cases number with
  | integer value =>
    cases same
    rcases bind_eq_ok_iff.mp restores with ⟨⟨literal, after⟩, _, valued⟩
    rcases bind_eq_ok_iff.mp valued with ⟨denoted, meant, done⟩
    cases done
    rcases bounds_of_value meant with ⟨least, most⟩
    exact isModerateText_integer least most
  | real real =>
    rw [Numeral.restored] at same
    split at same
    · cases same
    · rename_i finite
      rw [renderNumeral, if_neg finite]
      exact isModerateText_writeReal (Decimal.isFinite_iff.mpr (Bool.not_eq_true _ ▸ finite))

theorem Numeral.passes {number : Numeral} (reads : number.ReadsAs number.restored) (depth : Nat) :
    Passes sound (Tree.read depth) (Text.octets (renderNumeral number)) := by
  have whole := Tree.read_number reads depth
  generalize same : number.restored = tree at reads whole
  cases reads with
  | null written =>
    rw [written] at whole ⊢
    exact passes_of_readAs (fun front missing => Tree.read_null_front) whole
  | @number restored restores =>
    refine ⟨fun front within => ?_, fun rest delimited => Or.inr ⟨_, whole rest delimited⟩⟩
    have ends := (isModerateText_of_restored same restores).front within
    cases front with
    | nil => exact Or.inl (Tree.read_nil depth)
    | cons octet front =>
      rcases restores.head with ⟨first, others, written, begins⟩
      rw [written] at within
      rcases List.cons_prefix_cons.mp within with ⟨rfl, _⟩
      rcases number_head begins with ⟨solid, _, notList, _, _, _, _, notObject⟩
      unfold Tree.read
      rw [skipGap_cons solid]
      dsimp only
      rw [if_neg notList, if_neg notObject, readScalar_number begins]
      rcases ends with failed | ⟨value, read⟩
      · rw [failed]
        exact Or.inl (starves_of_truncated rfl)
      · rw [read]
        exact Or.inr ⟨.number value, rfl⟩

/-! ## Containers -/

theorem render_list_eq (items : List Tree) :
    Text.octets (Tree.list items).render =
      0x5b :: (joined (items.map fun item => Text.octets item.render) ++ [0x5d]) := by
  rw [← octets_render_list, List.append_nil]

/-- A member of an object as it is written. -/
def writtenMember (entry : String × Tree) : WrittenMember :=
  (entry.1, Text.octets entry.2.render)

theorem memberOctets_eq (entry : String × Tree) :
    memberOctets entry = 0x22 :: keyTail (writtenMember entry) := by
  rw [memberOctets, keyOctets_append, keyTail, List.append_assoc]
  rfl

theorem render_object_eq (members : List (String × Tree)) :
    Text.octets (Tree.object members).render =
      0x7b :: (joined ((members.map writtenMember).map fun entry => 0x22 :: keyTail entry) ++
        [0x7d]) := by
  rw [← List.append_nil (Text.octets (Tree.object members).render), octets_render_object,
    List.map_map]
  congr 3
  exact List.map_congr_left fun entry _ => memberOctets_eq entry

/-- An object that lacks its closing brace, whatever its members are read to. -/
theorem readMembers_lacking {σ : Type} {member : σ → String → Input → Except Fault (σ × Input)}
    {members : List (String × Tree)} {gathered : σ}
    (first : ∀ entry, members.head? = some entry →
      Passes sound (member gathered entry.1) (0x3a :: Text.octets entry.2.render))
    (later : ∀ entry ∈ members.tail, ∀ gathered,
      Passes sound (member gathered entry.1) (0x3a :: Text.octets entry.2.render))
    {front missing : Input} (nonempty : missing ≠ [])
    (split : joined ((members.map writtenMember).map fun entry => 0x22 :: keyTail entry) ++ [0x7d] =
      front ++ missing) (fuel : Nat) :
    Starves sound (readMembers member fuel true gathered front) := by
  have within := prefix_of_lacking nonempty split
  cases members with
  | nil =>
    rw [List.prefix_nil.mp within]
    exact readMembers_nil fuel true gathered
  | cons entry members =>
    refine readMembers_joined_front (first entry rfl) ?_ within fuel
    intro written member gathered
    rcases List.mem_map.mp member with ⟨other, held, rfl⟩
    exact later other held gathered

/-- A tree that was cut off makes its reader starve or is a number. -/
theorem Tree.Legible.passes {depth : Nat} {tree : Tree}
    (legible : tree.Legible Numeral.restored depth) :
    Passes sound (Tree.read depth) (Text.octets tree.render) := by
  have whole := legible.read
  induction legible with
  | null depth => exact passes_of_readAs (fun front missing => Tree.read_null_front) whole
  | boolean depth value =>
    exact passes_of_readAs (fun front missing => Tree.read_boolean_front) whole
  | number depth reads => exact Numeral.passes reads depth
  | text depth value => exact passes_of_readAs (fun front missing => Tree.read_text_front) whole
  | list legible inductionHypothesis =>
    rename_i depth items
    refine passes_of_readAs (fun front missing nonempty split => ?_) whole
    rw [render_list_eq] at split
    cases front with
    | nil => exact Tree.read_nil (depth + 1)
    | cons bracket front =>
      rcases List.cons.inj split with ⟨rfl, behind⟩
      unfold Tree.read
      refine Starves.bind (readList_lacking ?_ ?_ nonempty behind) _
      · intro text member
        rcases List.mem_map.mp member with ⟨item, held, rfl⟩
        exact (legible item held).opens
      · intro text member
        rcases List.mem_map.mp member with ⟨item, held, rfl⟩
        exact inductionHypothesis item held (legible item held).read
  | object legible inductionHypothesis =>
    rename_i depth members
    have each : ∀ entry ∈ members, ∀ gathered, Passes sound
        (readTreeMember depth gathered entry.1) (0x3a :: Text.octets entry.2.render) := by
      intro entry member gathered
      have passes := inductionHypothesis entry member (legible entry member).read
      exact passes.member entry.1 fun value => (entry.1, value) :: gathered
    refine passes_of_readAs (fun front missing nonempty split => ?_) whole
    rw [render_object_eq] at split
    cases front with
    | nil => exact Tree.read_nil (depth + 1)
    | cons brace front =>
      rcases List.cons.inj split with ⟨rfl, behind⟩
      have starves : Starves sound
          (readMembers (readTreeMember depth) (front.length + 1) true [] front) :=
        readMembers_lacking (fun entry first => each entry (List.mem_of_mem_head? first) [])
          (fun entry member => each entry (List.mem_of_mem_tail member)) nonempty behind _
      unfold Tree.read
      exact starves.bind _

/-! ## Tagged records -/

theorem readVariantName_passes {name : String} {names : List String} (known : name ∈ names) :
    Passes sound (fun input => here (readVariantName names input))
      (Text.octets (Tree.text name).render) := by
  have read : ReadAs (fun input => here (readVariantName names input))
      (Text.octets (Tree.text name).render) name := by
    intro rest _
    dsimp only
    rw [readVariantName, readString_text]
    exact congrArg here (if_pos known)
  refine passes_of_readAs (fun front missing nonempty split => ?_) read
  rcases text_lacking nonempty split with rfl | ⟨behind, rfl, ended⟩
  · exact starves_of_truncated rfl
  · change Starves sound (here (readText behind >>= _))
    rw [ended]
    exact starves_of_truncated rfl

/-- The tag and the other members of a tagged record are passed one after the other. -/
theorem readTagged_lacking {title tag name : String} {names : List String} {depth : Nat}
    {body : List (String × Tree)} (known : name ∈ names) (other : ∀ entry ∈ body, entry.1 ≠ tag)
    (legible : ∀ entry ∈ body, entry.2.Legible Numeral.restored depth) {front missing : Input}
    (nonempty : missing ≠ [])
    (split : Text.octets (Tree.object ((tag, .text name) :: body)).render = front ++ missing) :
    Starves sound (readTagged title tag names (depth + 1) front) := by
  rw [render_object_eq] at split
  cases front with
  | nil => exact starves_of_truncated rfl
  | cons brace front =>
    rcases List.cons.inj split with ⟨rfl, behind⟩
    have starves : Starves sound (readMembers (readTaggedMember tag names depth)
        (front.length + 1) true (none, []) front) := by
      refine readMembers_lacking (fun entry first => ?_) (fun entry member gathered => ?_) nonempty
        behind _
      · cases first
        have passes : Passes sound _ (Text.octets (Tree.text name).render) :=
          readVariantName_passes known
        have tagged : readTaggedMember tag names depth (none, []) tag = fun input =>
            here (expectColon input) >>= fun rest =>
              inside (.key tag) (here (readVariantName names rest)) >>= fun read =>
                .ok ((some read.1, []), read.2) := by
          funext input
          rw [readTaggedMember, if_pos rfl]
        rw [tagged]
        exact passes.member tag fun name => (some name, [])
      · have passes : Passes sound _ (Text.octets entry.2.render) := (legible entry member).passes
        have untagged : readTaggedMember tag names depth gathered entry.1 = fun input =>
            here (expectColon input) >>= fun rest =>
              inside (.key entry.1) (Tree.read depth rest) >>= fun read =>
                .ok ((gathered.1, (entry.1, read.1) :: gathered.2), read.2) := by
          funext input
          rw [readTaggedMember, if_neg (other entry member)]
        rw [untagged]
        exact passes.member entry.1 fun value => (gathered.1, (entry.1, value) :: gathered.2)
    exact starves.bind _

/-- A tagged record that was cut off makes its reader starve. -/
theorem Shape.tagged_lacking {title tag : String} {variants : Variants} {depth : Nat}
    (formed : variants.wellFormed tag = true) (fits : variants.depth ≤ depth)
    (value : variants.Value) :
    StopsShort sound ((Shape.tagged title tag variants).read (depth + 1))
      (Text.octets ((Shape.tagged title tag variants).toTree value).render) := by
  intro front missing nonempty split
  have legible := Variants.legible_toMembers restores_restored tag variants fits value
    (Variants.everyReal_of_forall variants (fun _ _ => trivial) value)
  rcases Variants.ofTree_toMembers tag variants formed value with
    ⟨name, body, written, known, untagged, _⟩
  rw [written, List.forall_mem_cons] at legible
  rw [Shape.toTree, written] at split
  exact Or.inl ((readTagged_lacking known untagged legible.2 nonempty split).bind _)

/-- All of a tagged record is read if its reals are finite. -/
theorem Shape.tagged_reaches {title tag : String} {variants : Variants} {depth : Nat}
    (formed : variants.wellFormed tag = true) (fits : variants.depth ≤ depth)
    (value : variants.Value) (rest : Input) :
    Reaches (variants.EveryReal (fun real => real.isFinite = true) value) rest
      ((Shape.tagged title tag variants).read (depth + 1)
        (Text.octets ((Shape.tagged title tag variants).toTree value).render ++ rest)) := by
  have legible := Variants.legible_toMembers restores_restored tag variants fits value
    (Variants.everyReal_of_forall variants (fun _ _ => trivial) value)
  rcases Variants.ofTree_toMembers tag variants formed value with
    ⟨name, body, written, known, untagged, _⟩
  rw [written, List.forall_mem_cons] at legible
  rw [Shape.toTree, written, Shape.read, readTagged_object known untagged legible.2]
  change Starves _ (here (variants.ofTree name _) >>= fun value => .ok (value, rest)) ∨
    ∃ value, (here (variants.ofTree name _) >>= fun value => .ok (value, rest)) = _
  cases read : variants.ofTree name (.object (body.map (mapMember Numeral.restored))) with
  | ok held => exact Or.inr ⟨held, rfl⟩
  | error cause =>
    refine Or.inl ⟨⟨cause, []⟩, rfl, fun finite => ?_⟩
    cases read.symm.trans (Variants.ofTree_restored formed written finite)

/-- A tagged record is passed if its reals are finite. -/
theorem Shape.passes_tagged {title tag : String} {variants : Variants} {depth : Nat}
    (formed : variants.wellFormed tag = true) (fits : variants.depth ≤ depth)
    (value : variants.Value) :
    Passes (variants.EveryReal (fun real => real.isFinite = true) value)
      ((Shape.tagged title tag variants).read (depth + 1))
      (Text.octets ((Shape.tagged title tag variants).toTree value).render) :=
  (Shape.tagged_lacking formed fits value).passes fun rest _ =>
    Shape.tagged_reaches formed fits value rest

/-! ## Lists and records of one field -/

/-- The text of a list up to the end of some of its items. -/
def listOpening (texts : List Input) : Input :=
  0x5b :: joined texts

/-- A list that may be cut off is read as far as it goes if its items are.  All of an item has
to be read only if the text holds it as a whole. -/
theorem Shape.list_front {item : Shape} {depth : Nat} {items : List item.Value} {front : Input}
    (opens : ∀ value ∈ items, Opens (Text.octets (item.toTree value).render))
    (lacking : ∀ value ∈ items,
      StopsShort sound (item.read depth) (Text.octets (item.toTree value).render))
    (passes : ∀ held, held <+: items →
      listOpening (held.map fun value => Text.octets (item.toTree value).render) <+: front →
        ∀ value ∈ held, Passes sound (item.read depth) (Text.octets (item.toTree value).render))
    (within : front <+: Text.octets ((Shape.list item).toTree items).render) :
    Reaches sound [] ((Shape.list item).read (depth + 1) front) := by
  rw [Shape.toTree, render_list_eq, List.map_map] at within
  cases front with
  | nil => exact Or.inl (starves_of_truncated rfl)
  | cons bracket front =>
    rcases List.cons_prefix_cons.mp within with ⟨rfl, behind⟩
    refine readList_front ?_ ?_ ?_ behind
    · exact List.forall_mem_map.mpr opens
    · exact List.forall_mem_map.mpr lacking
    · intro texts some held
      rcases List.prefix_map_iff.mp some with ⟨values, first, rfl⟩
      exact List.forall_mem_map.mpr
        (passes values first (List.cons_prefix_cons.mpr ⟨rfl, held⟩))

/-- The text of a record up to the value of its first field. -/
def recordOpening (key : String) : Input :=
  0x7b :: 0x22 :: (escapedOctets key ++ [0x22, 0x3a])

theorem render_single_eq (key : String) (tree : Tree) :
    Text.octets (Tree.object [(key, tree)]).render =
      recordOpening key ++ Text.octets tree.render ++ [0x7d] := by
  have single : joined (([(key, tree)].map writtenMember).map fun entry => 0x22 :: keyTail entry) =
      0x22 :: keyTail (key, Text.octets tree.render) := List.append_nil _
  rw [render_object_eq, single, keyTail, recordOpening]
  simp only [List.append_assoc, List.cons_append, List.nil_append]

/-- A record whose only field is always written makes its reader starve if it was cut off. -/
theorem Shape.record_lacking {title key : String} {presence : Presence} {shape : Shape}
    {depth : Nat} {value : shape.Value} (always : presence ≠ .elided) {front missing : Input}
    (reaches : ∀ inner, front = recordOpening key ++ inner →
      inner <+: Text.octets (shape.toTree value).render →
        Reaches sound [] (shape.read depth inner))
    (nonempty : missing ≠ [])
    (split : Text.octets ((Shape.record title (.cons key presence shape .nil)).toTree
      (value, ())).render = front ++ missing) :
    Starves sound
      ((Shape.record title (.cons key presence shape .nil)).read (depth + 1) front) := by
  have members : (Fields.cons key presence shape .nil).toMembers (value, ()) =
      [(key, shape.toTree value)] := if_neg fun elided => always elided.1
  have colon : ∀ rest : Input, recordOpening key ++ rest =
      0x7b :: 0x22 :: ((escapedOctets key ++ [0x22]) ++ 0x3a :: rest) := by
    intro rest
    simp only [recordOpening, List.append_assoc, List.cons_append, List.nil_append]
  rw [Shape.toTree, members, render_single_eq] at split
  have within := prefix_of_lacking nonempty split
  rw [colon] at within
  cases front with
  | nil => exact starves_of_truncated rfl
  | cons brace front =>
    rcases List.cons_prefix_cons.mp within with ⟨rfl, quoted⟩
    have starves : ∀ fuel, Starves sound (readMembers
        ((Fields.cons key presence shape .nil).placeMember depth) fuel true (none, ()) front) := by
      intro fuel
      cases front with
      | nil => exact readMembers_nil fuel true _
      | cons quote front =>
        rcases List.cons_prefix_cons.mp quoted with ⟨rfl, place⟩
        rcases front_cases place with ⟨lost, some, cut⟩ | ⟨rest, rfl, further⟩
        · exact readMembers_key rfl some cut fuel
        refine readMembers_turn rfl ?_ (fun fuel gathered => readMembers_nil fuel false gathered)
          fuel
        rw [Fields.placeMember_own]
        cases rest with
        | nil => exact Or.inl (starves_of_truncated rfl)
        | cons octet inner =>
          rcases List.cons_prefix_cons.mp further with ⟨rfl, held⟩
          have reached := reaches inner (colon inner).symm held
          exact (reached.inside (.key key)).bind fun value => Or.inr ⟨_, rfl⟩
    exact (starves _).bind _

end Json
end LendingGateway
