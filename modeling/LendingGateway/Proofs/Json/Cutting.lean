import Mathlib.Data.List.TakeWhile
import LendingGateway.Proofs.Json.Places

namespace LendingGateway
namespace Json

open Traversal

/-!
# The texts of values

The text of a value reaches from its place to the end that skipping finds.  A container ends
by itself, so its text is read as the same tree where nothing follows it, and where anything
else does: it can be cut out of a document, and put into another one.
-/

/-! ## Trees -/

section Trees

variable {depth : Nat}

/-- The elements of a list up to its bracket end by themselves. -/
theorem closed_elements (each : ∀ tree, Local fun input after =>
      Tree.read depth input = .ok (tree, after)) (items : List Tree) :
    ∀ first, Closed fun input after => ∃ places, ListPlaces first input places after ∧
      List.Forall₂ (fun place item => ∃ last, Tree.read depth place = .ok (item, last))
        places items := by
  induction items with
  | nil =>
    rintro first input after ⟨_, marks, trees⟩
    cases trees
    cases marks with
    | close ends =>
      rcases closed_mark 0x5d ends with ⟨text, some, split, keeps⟩
      exact ⟨text, some, split, fun other => ⟨[], .close (keeps other), .nil⟩⟩
  | cons item items inductionHypothesis =>
    rintro first input after ⟨_, marks, trees⟩
    cases marks with
    | close => cases trees
    | @element _ _ place between _ places next skipped later =>
      rcases List.forall₂_cons.mp trees with ⟨⟨last, read⟩, others⟩
      obtain rfl : between = last := skipped.unique (skipped_of_readTree read)
      have parts := (local_nextElement first true).comp_closed
        ((each item).comp_closed (inductionHypothesis false))
      rcases parts ⟨place, nextElement_eq_ok_iff.mpr next, between, read, places, later, others⟩ with
        ⟨text, some, split, keeps⟩
      refine ⟨text, some, split, fun other => ?_⟩
      rcases keeps other with ⟨place, next, between, read, places, later, others⟩
      exact ⟨place :: places, .element (nextElement_eq_ok_iff.mp next) (skipped_of_readTree read)
        later, .cons ⟨between, read⟩ others⟩

/-- The members of an object up to its brace end by themselves. -/
theorem closed_members (each : ∀ tree, Local fun input after =>
      Tree.read depth input = .ok (tree, after)) (members : List (String × Tree)) :
    ∀ first, Closed fun input after => ∃ places, ObjectPlaces first input places after ∧
      List.Forall₂ (ReadAt depth) places members := by
  induction members with
  | nil =>
    rintro first input after ⟨_, marks, trees⟩
    cases trees
    cases marks with
    | close ends =>
      rcases closed_mark 0x7d ends with ⟨text, some, split, keeps⟩
      exact ⟨text, some, split, fun other => ⟨[], .close (keeps other), .nil⟩⟩
  | cons member members inductionHypothesis =>
    rcases member with ⟨name, tree⟩
    rintro first input after ⟨_, marks, trees⟩
    cases marks with
    | close => cases trees
    | @member _ _ beyond place between _ key places next colon skipped later =>
      rcases List.forall₂_cons.mp trees with ⟨⟨same, last, read⟩, others⟩
      obtain rfl : name = key := same
      obtain rfl : between = last := skipped.unique (skipped_of_readTree read)
      have parts := (local_nextKey first (some name)).comp_closed
        ((closed_mark 0x3a).isLocal.comp_closed
          ((each tree).comp_closed (inductionHypothesis false)))
      rcases parts ⟨beyond, nextKey_eq_ok_iff.mpr next, place, expectColon_eq_ok_iff.mp colon,
        between, read, places, later, others⟩ with ⟨text, some, split, keeps⟩
      refine ⟨text, some, split, fun other => ?_⟩
      rcases keeps other with
        ⟨beyond, next, place, colon, between, read, places, later, others⟩
      exact ⟨(name, place) :: places, .member (nextKey_eq_ok_iff.mp next)
        (expectColon_eq_ok_iff.mpr colon) (skipped_of_readTree read) later,
        .cons ⟨rfl, between, read⟩ others⟩

theorem closed_readTree_list (each : ∀ tree, Local fun input after =>
      Tree.read depth input = .ok (tree, after)) (items : List Tree) :
    Closed fun input after => Tree.read (depth + 1) input = .ok (.list items, after) := by
  intro input after read
  rcases Tree.read_list_iff_places.mp read with ⟨inner, _, places, starts, same, marks, trees⟩
  cases same
  have parts := (closed_mark 0x5b).isLocal.comp_closed (closed_elements each items true)
  rcases parts ⟨inner, starts, places, marks, trees⟩ with ⟨text, some, split, keeps⟩
  refine ⟨text, some, split, fun other => ?_⟩
  rcases keeps other with ⟨inner, starts, places, marks, trees⟩
  exact Tree.read_list_iff_places.mpr ⟨inner, depth, places, starts, rfl, marks, trees⟩

theorem closed_readTree_object (each : ∀ tree, Local fun input after =>
      Tree.read depth input = .ok (tree, after)) (members : List (String × Tree)) :
    Closed fun input after => Tree.read (depth + 1) input = .ok (.object members, after) := by
  intro input after read
  rcases Tree.read_object_iff_places.mp read with ⟨inner, _, places, starts, same, marks, trees⟩
  cases same
  have parts := (closed_mark 0x7b).isLocal.comp_closed (closed_members each members true)
  rcases parts ⟨inner, starts, places, marks, trees⟩ with ⟨text, some, split, keeps⟩
  refine ⟨text, some, split, fun other => ?_⟩
  rcases keeps other with ⟨inner, starts, places, marks, trees⟩
  exact Tree.read_object_iff_places.mpr ⟨inner, depth, places, starts, rfl, marks, trees⟩

theorem local_readTree_word (depth : Nat) {letter : UInt8} {word : String} {tree : Tree}
    (reads : ∀ {input rest after}, skipGap input = letter :: rest →
      expectText word rest = .ok after → ReadsTree depth input after tree)
    {input rest after : Input} (starts : skipGap input = letter :: rest)
    (met : expectText word rest = .ok after) :
    ∃ text, input = text ++ after ∧ ∀ other : Input, other.head? = after.head? →
      Tree.read depth (text ++ other) = .ok (tree, other) := by
  have parts := (closed_mark letter).isLocal.comp (local_expectWord (Text.octets word))
  rcases parts ⟨rest, starts, met⟩ with ⟨text, split, keeps⟩
  refine ⟨text, split, fun other alike => ?_⟩
  rcases keeps other alike with ⟨rest, starts, met⟩
  exact Tree.read_eq_ok_iff.mpr (reads starts met)

theorem local_readTree_of_deeper (deeper : ∀ below, depth = below + 1 → ∀ tree,
      Local fun input after => Tree.read below input = .ok (tree, after)) (tree : Tree) :
    Local fun input after => Tree.read depth input = .ok (tree, after) := by
  intro input after read
  cases Tree.read_eq_ok_iff.mp read with
  | null starts word => exact local_readTree_word depth .null starts word
  | yes starts word => exact local_readTree_word depth .yes starts word
  | no starts word => exact local_readTree_word depth .no starts word
  | @text _ _ _ _ value starts quoted =>
    have parts := (closed_mark 0x22).isLocal.comp (closed_readText value).isLocal
    rcases parts ⟨_, starts, quoted⟩ with ⟨text, split, keeps⟩
    refine ⟨text, split, fun other alike => ?_⟩
    rcases keeps other alike with ⟨rest, starts, quoted⟩
    exact Tree.read_eq_ok_iff.mpr (.text starts quoted)
  | @number _ _ _ _ _ value starts _ numeral =>
    have parts := local_skipGap.comp (local_readNumeral value)
    rcases parts ⟨_, starts, numeral⟩ with ⟨text, split, keeps⟩
    refine ⟨text, split, fun other alike => ?_⟩
    rcases keeps other alike with ⟨between, starts, numeral⟩
    rcases bind_eq_ok_iff.mp numeral with ⟨_, lexed, _⟩
    rcases lexLiteral_head lexed with ⟨octet, rest, rfl, begins⟩
    exact Tree.read_eq_ok_iff.mpr (.number starts begins numeral)
  | list => exact (closed_readTree_list (deeper _ rfl) _).isLocal read
  | object => exact (closed_readTree_object (deeper _ rfl) _).isLocal read

/-- What is read as a tree looks one octet ahead at most. -/
theorem local_readTree : ∀ depth tree, Local fun input after =>
    Tree.read depth input = .ok (tree, after)
  | 0, tree =>
    local_readTree_of_deeper (fun below impossible => absurd impossible.symm (Nat.succ_ne_zero below))
      tree
  | depth + 1, tree => by
    refine local_readTree_of_deeper (fun below same => ?_) tree
    cases same
    exact local_readTree depth

/-- Whether a tree is a list or an object. -/
def Tree.isContainer : Tree → Bool
  | .list _ | .object _ => true
  | _ => false

/-- A container ends by itself. -/
theorem closed_readTree (depth : Nat) {tree : Tree} (container : tree.isContainer = true) :
    Closed fun input after => Tree.read depth input = .ok (tree, after) := by
  cases depth with
  | zero =>
    intro input after read
    cases Tree.read_eq_ok_iff.mp read <;> cases container
  | succ depth =>
    cases tree with
    | list items => exact closed_readTree_list (local_readTree depth) items
    | object members => exact closed_readTree_object (local_readTree depth) members
    | null | boolean | number | text => cases container

end Trees

/-! ## Texts -/

/-- The text of the value at a place. -/
def valueText (place : Input) : Input :=
  match skipValue place with
  | .ok after => place.take (place.length - after.length)
  | .error _ => []

/-- The text of the first member of an object that has a key. -/
def memberText (key : String) (input : Input) : Option Input :=
  ((membersOf input).lookup key).map valueText

theorem valueText_append {text after : Input} (skipped : Skipped (text ++ after) after) :
    valueText (text ++ after) = text := by
  unfold valueText
  rw [skipped_iff.mp skipped]
  dsimp only
  rw [List.length_append, Nat.add_sub_cancel, List.take_left]

/-- The text of a container is read as the same tree without the rest of its document. -/
theorem readTree_valueText {depth : Nat} {place after : Input} {tree : Tree}
    (container : tree.isContainer = true) (read : Tree.read depth place = .ok (tree, after)) :
    Tree.read depth (valueText place) = .ok (tree, []) := by
  rcases closed_readTree depth container read with ⟨text, _, rfl, keeps⟩
  rw [valueText_append (skipped_of_readTree read)]
  have alone := keeps []
  rw [List.append_nil] at alone
  exact alone

/-! ## Objects out of the texts of their values -/

/-- The text of an object with some keys and the texts of their values. -/
def objectText (members : List (String × Input)) : Input :=
  0x7b :: (joined (members.map fun (key, text) => keyOctets key ++ text) ++ [0x7d])

example : objectText [("a", Text.octets "1"), ("b", Text.octets "null")] =
    Text.octets "\x7b\"a\":1,\"b\":null\x7d" := by
  decide

/-- A text is a value, and perhaps a gap behind it, whatever follows. -/
def IsValue (text gap : Input) : Prop :=
  skipGap gap = [] ∧ ∀ rest, Skipped (text ++ rest) (gap ++ rest)

/-- A container can be put before anything else. -/
theorem readTree_append {depth : Nat} {text gap : Input} {tree : Tree}
    (container : tree.isContainer = true) (read : Tree.read depth text = .ok (tree, gap))
    (rest : Input) : Tree.read depth (text ++ rest) = .ok (tree, gap ++ rest) := by
  rcases closed_readTree depth container read with ⟨front, _, rfl, keeps⟩
  rw [List.append_assoc]
  exact keeps (gap ++ rest)

theorem isValue_of_readTree {depth : Nat} {text gap : Input} {tree : Tree}
    (container : tree.isContainer = true) (read : Tree.read depth text = .ok (tree, gap))
    (blank : skipGap gap = []) : IsValue text gap :=
  ⟨blank, fun rest => skipped_of_readTree (readTree_append container read rest)⟩

theorem isValue_renderText (text : String) : IsValue (Text.octets (renderText text)) [] := by
  refine ⟨rfl, fun rest => ?_⟩
  rw [octets_renderText, List.cons_append, List.append_assoc]
  exact skipped_text (skipGap_cons (by decide) _) (readText_escapedOctets text rest)

theorem skipGap_append {gap : Input} (blank : skipGap gap = []) (rest : Input) :
    skipGap (gap ++ rest) = skipGap rest :=
  List.dropWhile_append_of_pos (List.dropWhile_eq_nil_iff.mp blank)

/-- A gap does not matter to what comes after it. -/
theorem nextKey_append {gap : Input} (blank : skipGap gap = []) (first : Bool) (rest : Input) :
    nextKey first (gap ++ rest) = nextKey first rest := by
  unfold nextKey
  rw [skipGap_append blank]

/-- Members behind others. -/
def separated (members : List (String × Input)) : Input :=
  members.flatMap fun (key, text) => 0x2c :: (keyOctets key ++ text)

/-- The places of members in the text of an object. -/
def placesOf (behind : Input) : List (String × Input) → List (String × Input)
  | [] => []
  | (key, text) :: members =>
    (key, text ++ (separated members ++ behind)) :: placesOf behind members

theorem objectText_cons (key : String) (text : Input) (members : List (String × Input)) :
    objectText ((key, text) :: members) =
      0x7b :: (keyOctets key ++ (text ++ (separated members ++ [0x7d]))) := by
  rw [objectText, List.map_cons, joined, List.flatMap_map, List.append_assoc, List.append_assoc]
  rfl

theorem objectPlaces_separated {members : List (String × Input)} (rest : Input)
    (values : ∀ member ∈ members, ∃ gap, IsValue member.2 gap) :
    ∀ {gap : Input}, skipGap gap = [] →
      ObjectPlaces false (gap ++ (separated members ++ 0x7d :: rest))
        (placesOf (0x7d :: rest) members) rest := by
  induction members with
  | nil =>
    intro gap blank
    refine .close ?_
    rw [skipGap_append blank]
    exact skipGap_cons (by decide) rest
  | cons member members inductionHypothesis =>
    intro gap blank
    rcases member with ⟨key, text⟩
    rw [List.forall_mem_cons] at values
    rcases values.1 with ⟨behind, value⟩
    have keyed : nextKey false (gap ++ (separated ((key, text) :: members) ++ 0x7d :: rest)) =
        .ok (some key, 0x3a :: (text ++ (separated members ++ 0x7d :: rest))) := by
      rw [nextKey_append blank, ← nextKey_comma key]
      simp only [separated, List.flatMap_cons, List.cons_append, List.append_assoc]
    exact .member (nextKey_eq_ok_iff.mp keyed) (expectColon_colon _) (value.2 _)
      (inductionHypothesis values.2 value.1)

/-- The places in the text of an object. -/
theorem objectPlaces_objectText {members : List (String × Input)}
    (values : ∀ member ∈ members, ∃ gap, IsValue member.2 gap) :
    ∃ inner, objectText members = 0x7b :: inner ∧
      ObjectPlaces true inner (placesOf [0x7d] members) [] := by
  cases members with
  | nil => exact ⟨[0x7d], rfl, .close rfl⟩
  | cons member members =>
    rcases member with ⟨key, text⟩
    rw [List.forall_mem_cons] at values
    rcases values.1 with ⟨gap, value⟩
    exact ⟨_, objectText_cons key text members,
      .member (nextKey_eq_ok_iff.mp (nextKey_first key _)) (expectColon_colon _) (value.2 _)
        (objectPlaces_separated [] values.2 value.1)⟩

end Json
end LendingGateway
