import LendingGateway.Json.Tree
import LendingGateway.Proofs.Json.Literals
import LendingGateway.Proofs.Json.Strings

namespace LendingGateway
namespace Json

open Traversal

/-!
# Lists and objects as they are written

The elements of a list and the members of an object are written one after the other with
commas between them.  The loops that read them go along what was written: one turn reads
one element, so as many turns are needed as there are elements, and the input is always
longer than that.
-/

/-- Texts with commas between them. -/
def joined : List (List UInt8) → List UInt8
  | [] => []
  | first :: others => first ++ others.flatMap (0x2c :: ·)

theorem octets_intercalate (texts : List String) :
    Text.octets (String.intercalate "," texts) = joined (texts.map Text.octets) := by
  induction texts with
  | nil => rfl
  | cons first others inductionHypothesis =>
    cases others with
    | nil =>
      rw [String.intercalate_singleton]
      exact (List.append_nil _).symm
    | cons second others =>
      have comma : Text.octets "," = [0x2c] := rfl
      rw [String.intercalate_cons_cons, Text.octets_append, Text.octets_append, comma,
        inductionHypothesis, List.append_assoc]
      rfl

theorem length_le_joined (texts : List (List UInt8)) :
    texts.length ≤ (joined texts).length + 1 := by
  have separated : ∀ others : List (List UInt8),
      others.length ≤ (others.flatMap (0x2c :: ·)).length := by
    intro others
    induction others with
    | nil => exact Nat.le_refl 0
    | cons first others inductionHypothesis =>
      rw [List.flatMap_cons, List.length_append, List.length_cons, List.length_cons]
      omega
  cases texts with
  | nil => exact Nat.zero_le _
  | cons first others =>
    have bound := separated others
    rw [joined, List.length_append, List.length_cons]
    omega

theorem skipGap_cons {octet : UInt8} (solid : isGap octet = false) (rest : Input) :
    skipGap (octet :: rest) = octet :: rest := by
  rw [skipGap, List.dropWhile_cons, if_neg (Bool.eq_false_iff.mp solid)]

/-- What can stand first in a list: it begins neither with a gap nor with a bracket that
would close the list. -/
def Opens (text : Input) : Prop :=
  ∃ octet others, text = octet :: others ∧ isGap octet = false ∧ octet ≠ 0x5d

/-- A text is read as a value wherever the document goes on after it. -/
def ReadAs {α : Type} (reader : Input → Except Fault (α × Input)) (text : Input) (value : α) :
    Prop :=
  ∀ rest, Delimited rest → reader (text ++ rest) = .ok (value, rest)

/-! ## Lists -/

theorem nextElement_first {text : Input} (opens : Opens text) (rest : Input) :
    nextElement true (text ++ rest) = .ok (true, text ++ rest) := by
  rcases opens with ⟨octet, others, rfl, solid, different⟩
  rw [List.cons_append, nextElement, skipGap_cons solid]
  dsimp only
  rw [if_neg different, if_pos rfl]

theorem nextElement_comma {text : Input} (opens : Opens text) (rest : Input) :
    nextElement false (0x2c :: (text ++ rest)) = .ok (true, text ++ rest) := by
  rcases opens with ⟨octet, others, rfl, solid, different⟩
  have comma : skipGap (0x2c :: ((octet :: others) ++ rest)) =
      0x2c :: ((octet :: others) ++ rest) :=
    skipGap_cons rfl _
  rw [nextElement, comma]
  dsimp only
  rw [if_neg (by decide), if_neg Bool.false_ne_true, if_pos rfl, List.cons_append,
    skipGap_cons solid]
  dsimp only
  rw [if_neg different]

section Lists

variable {α β : Type} {item : Input → Except Fault (β × Input)} {write : α → List UInt8}
  {meaning : α → β}

theorem readItems_close {fuel index : Nat} (enough : 0 < fuel) (done : List β) (rest : Input) :
    readItems item fuel index done (0x5d :: rest) = .ok (done.reverse, 0x5d :: rest) := by
  rcases Nat.exists_eq_add_one.mpr enough with ⟨fuel, rfl⟩
  rfl

theorem readItems_step (index : Nat) {fuel : Nat} {first : Bool} {done : List β}
    {input text rest : Input} {value : β}
    (more : nextElement first input = .ok (true, text ++ rest)) (starts : (index == 0) = first)
    (read : ReadAs item text value) (delimited : Delimited rest) :
    readItems item (fuel + 1) index done input =
      readItems item fuel (index + 1) (value :: done) rest := by
  rw [readItems, starts, more]
  change (inside (.index index) (item (text ++ rest)) >>= fun read =>
    readItems item fuel (index + 1) (read.1 :: done) read.2) = _
  rw [read rest delimited]
  rfl

theorem delimited_separated (text : α → List UInt8) (others : List α) {closing : UInt8}
    (closes : closing = 0x5d ∨ closing = 0x7d) (rest : Input) :
    Delimited (others.flatMap (fun other => 0x2c :: text other) ++ closing :: rest) := by
  cases others with
  | nil => exact delimited_cons (Or.inr closes) rest
  | cons first others => exact delimited_cons (Or.inl rfl) _

theorem readItems_separated {items : List α} (opens : ∀ value ∈ items, Opens (write value))
    (read : ∀ value ∈ items, ReadAs item (write value) (meaning value)) (rest : Input) :
    ∀ {fuel : Nat} (index : Nat) (done : List β), items.length < fuel →
      readItems item fuel (index + 1) done
          (items.flatMap (fun value => 0x2c :: write value) ++ 0x5d :: rest) =
        .ok (done.reverse ++ items.map meaning, 0x5d :: rest) := by
  induction items with
  | nil =>
    intro fuel index done enough
    rw [List.map_nil, List.append_nil]
    exact readItems_close enough done rest
  | cons value items inductionHypothesis =>
    intro fuel index done enough
    rcases Nat.exists_eq_add_one.mpr (Nat.zero_lt_of_lt enough) with ⟨fuel, rfl⟩
    rw [List.forall_mem_cons] at opens read
    rw [List.flatMap_cons, List.cons_append, List.cons_append, List.append_assoc,
      readItems_step (index + 1) (nextElement_comma opens.1 _) rfl read.1
        (delimited_separated write items (Or.inl rfl) rest),
      inductionHypothesis opens.2 read.2 (index + 1) (meaning value :: done)
        (Nat.lt_of_succ_lt_succ enough)]
    rw [List.reverse_cons, List.append_assoc]
    rfl

/-- A list is read as what its elements are read as. -/
theorem readList_joined {items : List α} (opens : ∀ value ∈ items, Opens (write value))
    (read : ∀ value ∈ items, ReadAs item (write value) (meaning value)) (rest : Input) :
    readList item (joined (items.map write) ++ 0x5d :: rest) =
      .ok (items.map meaning, rest) := by
  have enough := length_le_joined (items.map write)
  rw [List.length_map] at enough
  have looped : ∀ fuel, items.length < fuel →
      readItems item fuel 0 [] (joined (items.map write) ++ 0x5d :: rest) =
        .ok (items.map meaning, 0x5d :: rest) := by
    intro fuel enough
    cases items with
    | nil => exact readItems_close enough [] rest
    | cons value items =>
      rcases Nat.exists_eq_add_one.mpr (Nat.zero_lt_of_lt enough) with ⟨fuel, rfl⟩
      rw [List.forall_mem_cons] at opens read
      rw [List.map_cons, joined, List.append_assoc, List.flatMap_map,
        readItems_step 0 (nextElement_first opens.1 _) rfl read.1
          (delimited_separated write items (Or.inl rfl) rest),
        readItems_separated opens.2 read.2 rest 0 [meaning value] (Nat.lt_of_succ_lt_succ enough)]
      rfl
  rw [readList, looped]
  · rfl
  · rw [List.length_append, List.length_cons]
    omega

end Lists

/-! ## Objects -/

/-- The octets of a key with the colon after it. -/
def keyOctets (key : String) : List UInt8 :=
  0x22 :: (escapedOctets key ++ [0x22, 0x3a])

/-- The octets of a member. -/
def memberOctets (member : String × Tree) : List UInt8 :=
  keyOctets member.1 ++ Text.octets member.2.render

theorem renderItems_eq_map (items : List Tree) : renderItems items = items.map Tree.render := by
  induction items with
  | nil => rfl
  | cons item items inductionHypothesis => rw [renderItems, inductionHypothesis, List.map_cons]

theorem octets_renderMembers (members : List (String × Tree)) :
    (renderMembers members).map Text.octets = members.map memberOctets := by
  induction members with
  | nil => rfl
  | cons member members inductionHypothesis =>
    rcases member with ⟨key, tree⟩
    have colon : Text.octets ":" = [0x3a] := rfl
    rw [renderMembers, List.map_cons, List.map_cons, inductionHypothesis, Text.octets_append,
      Text.octets_append, octets_renderText, colon, memberOctets, keyOctets, List.cons_append,
      List.append_assoc]
    rfl

theorem keyOctets_append (key : String) (rest : Input) :
    keyOctets key ++ rest = 0x22 :: (escapedOctets key ++ 0x22 :: 0x3a :: rest) := by
  rw [keyOctets, List.cons_append, List.append_assoc]
  rfl

theorem nextKey_first (key : String) (rest : Input) :
    nextKey true (keyOctets key ++ rest) = .ok (some key, 0x3a :: rest) := by
  rw [keyOctets_append]
  change (readText (escapedOctets key ++ 0x22 :: 0x3a :: rest) >>= fun read =>
    .ok (some read.1, read.2)) = _
  rw [readText_escapedOctets]
  rfl

theorem nextKey_comma (key : String) (rest : Input) :
    nextKey false (0x2c :: (keyOctets key ++ rest)) = .ok (some key, 0x3a :: rest) := by
  rw [keyOctets_append]
  change (readText (escapedOctets key ++ 0x22 :: 0x3a :: rest) >>= fun read =>
    .ok (some read.1, read.2)) = _
  rw [readText_escapedOctets]
  rfl

theorem expectColon_colon (rest : Input) : expectColon (0x3a :: rest) = .ok rest := rfl

section Objects

variable {σ : Type} {member : σ → String → Input → Except Fault (σ × Input)}
  {step : σ → String × Tree → Except Cause σ}

/-- A reader of members does with a member as it is written what a step does with the
member itself. -/
def Follows (member : σ → String → Input → Except Fault (σ × Input))
    (step : σ → String × Tree → Except Cause σ) (entry : String × Tree) : Prop :=
  ∀ gathered next, step gathered entry = .ok next →
    ReadAs (member gathered entry.1) (0x3a :: Text.octets entry.2.render) next

theorem readMembers_close {fuel : Nat} (enough : 0 < fuel) (first : Bool) (gathered : σ)
    (rest : Input) :
    readMembers member fuel first gathered (0x7d :: rest) = .ok (gathered, 0x7d :: rest) := by
  rcases Nat.exists_eq_add_one.mpr enough with ⟨fuel, rfl⟩
  rfl

theorem readMembers_step {fuel : Nat} {first : Bool} {gathered next : σ}
    {entry : String × Tree} {input rest : Input}
    (more : nextKey first input =
      .ok (some entry.1, 0x3a :: (Text.octets entry.2.render ++ rest)))
    (follows : Follows member step entry) (stepped : step gathered entry = .ok next)
    (delimited : Delimited rest) :
    readMembers member (fuel + 1) first gathered input =
      readMembers member fuel false next rest := by
  rw [readMembers, more]
  change (member gathered entry.1 ((0x3a :: Text.octets entry.2.render) ++ rest) >>= fun read =>
    readMembers member fuel false read.1 read.2) = _
  rw [follows gathered next stepped rest delimited]
  rfl

theorem readMembers_separated {members : List (String × Tree)}
    (follows : ∀ entry ∈ members, Follows member step entry) (rest : Input) :
    ∀ {fuel : Nat} {gathered next : σ}, members.foldlM step gathered = .ok next →
      members.length < fuel →
      readMembers member fuel false gathered
          (members.flatMap (fun entry => 0x2c :: memberOctets entry) ++ 0x7d :: rest) =
        .ok (next, 0x7d :: rest) := by
  induction members with
  | nil =>
    intro fuel gathered next folded enough
    cases folded
    exact readMembers_close enough false gathered rest
  | cons entry members inductionHypothesis =>
    intro fuel gathered next folded enough
    rcases Nat.exists_eq_add_one.mpr (Nat.zero_lt_of_lt enough) with ⟨fuel, rfl⟩
    rw [List.foldlM_cons] at folded
    rcases bind_eq_ok_iff.mp folded with ⟨between, stepped, folded⟩
    rw [List.forall_mem_cons] at follows
    have delimited := delimited_separated memberOctets members (Or.inr rfl) rest
    rw [List.flatMap_cons, List.cons_append, List.cons_append, List.append_assoc, memberOctets,
      List.append_assoc, readMembers_step (nextKey_comma entry.1 _) follows.1 stepped delimited]
    exact inductionHypothesis follows.2 folded (Nat.lt_of_succ_lt_succ enough)

/-- An object is read by taking one step for each of its members. -/
theorem readMembers_joined {members : List (String × Tree)}
    (follows : ∀ entry ∈ members, Follows member step entry) {gathered next : σ}
    (folded : members.foldlM step gathered = .ok next) (rest : Input) :
    readMembers member
        ((joined (members.map memberOctets) ++ 0x7d :: rest).length + 1) true gathered
        (joined (members.map memberOctets) ++ 0x7d :: rest) =
      .ok (next, 0x7d :: rest) := by
  have enough := length_le_joined (members.map memberOctets)
  rw [List.length_map] at enough
  have looped : ∀ fuel, members.length < fuel →
      readMembers member fuel true gathered (joined (members.map memberOctets) ++ 0x7d :: rest) =
        .ok (next, 0x7d :: rest) := by
    intro fuel enough
    cases members with
    | nil =>
      cases folded
      exact readMembers_close enough true gathered rest
    | cons entry members =>
      rcases Nat.exists_eq_add_one.mpr (Nat.zero_lt_of_lt enough) with ⟨fuel, rfl⟩
      rw [List.foldlM_cons] at folded
      rcases bind_eq_ok_iff.mp folded with ⟨between, stepped, folded⟩
      rw [List.forall_mem_cons] at follows
      have delimited := delimited_separated memberOctets members (Or.inr rfl) rest
      rw [List.map_cons, joined, List.append_assoc, List.flatMap_map, memberOctets,
        List.append_assoc, readMembers_step (nextKey_first entry.1 _) follows.1 stepped delimited]
      exact readMembers_separated follows.2 rest folded (Nat.lt_of_succ_lt_succ enough)
  apply looped
  rw [List.length_append, List.length_cons]
  omega

end Objects

end Json
end LendingGateway
