import LendingGateway.Proofs.Json.Containers
import LendingGateway.Proofs.Json.Fronts

namespace LendingGateway
namespace Json

open Traversal

/-!
# Lists and objects that were cut off

The loops that read lists and objects come to an end at a closing bracket or brace only.  Without
it they run out of input: before an element, within one, or after one.  Within an element the
front may be read up to its end, as that of a number is, and then the input is used up.
-/

/-- Texts that follow others, each with a comma before it. -/
def trailing (texts : List Input) : Input :=
  texts.flatMap (0x2c :: ·)

theorem delimited_front {texts : List Input} {front : Input} (within : front <+: trailing texts) :
    Delimited front := by
  cases front with
  | nil => exact delimited_nil
  | cons octet front =>
    cases texts with
    | nil => cases List.prefix_nil.mp within
    | cons text texts =>
      rcases List.cons_prefix_cons.mp within with ⟨rfl, _⟩
      exact delimited_cons (Or.inl rfl) front

theorem delimited_trailing (texts : List Input) {beyond : Input} (delimited : Delimited beyond) :
    Delimited (trailing texts ++ beyond) := by
  cases texts with
  | nil => exact delimited
  | cons text texts => exact delimited_cons (Or.inl rfl) _

/-- What a front of a list has behind the elements that it holds as a whole: nothing, or a comma
and a part of the next one. -/
inductive Broken : List Input → Input → Prop where
  | nothing {others : List Input} : Broken others []
  | part {part missing : Input} {others : List Input} (nonempty : missing ≠ []) :
      Broken ((part ++ missing) :: others) (0x2c :: part)

theorem Broken.delimited {others : List Input} {beyond : Input} (broken : Broken others beyond) :
    Delimited beyond := by
  cases broken with
  | nothing => exact delimited_nil
  | part => exact delimited_cons (Or.inl rfl) _

/-- A front of texts that follow others holds some of them as a whole. -/
theorem exists_held {texts : List Input} {front : Input} (within : front <+: trailing texts) :
    ∃ held others beyond, texts = held ++ others ∧ front = trailing held ++ beyond ∧
      Broken others beyond := by
  induction texts generalizing front with
  | nil => exact ⟨[], [], [], rfl, List.prefix_nil.mp within, .nothing⟩
  | cons text texts inductionHypothesis =>
    cases front with
    | nil => exact ⟨[], text :: texts, [], rfl, rfl, .nothing⟩
    | cons comma front =>
      rcases List.cons_prefix_cons.mp within with ⟨rfl, behind⟩
      rcases front_cases behind with ⟨missing, nonempty, rfl⟩ | ⟨further, rfl, later⟩
      · exact ⟨[], (front ++ missing) :: texts, 0x2c :: front, rfl, rfl, .part nonempty⟩
      rcases inductionHypothesis later with ⟨held, others, beyond, rfl, rfl, broken⟩
      refine ⟨text :: held, others, beyond, rfl, ?_, broken⟩
      rw [trailing, trailing, List.flatMap_cons, List.append_assoc, List.cons_append]

theorem Opens.front {text behind front : Input} (opens : Opens text) (nonempty : front ≠ [])
    (within : front <+: text ++ behind) : Opens front := by
  rcases opens with ⟨octet, others, rfl, opened⟩
  rcases List.exists_cons_of_ne_nil nonempty with ⟨first, front, rfl⟩
  rcases List.cons_prefix_cons.mp within with ⟨rfl, _⟩
  exact ⟨first, front, rfl, opened⟩

/-! ## Lists -/

section Lists

variable {sound : Prop} {α : Type} {item : Input → Except Fault (α × Input)}

theorem readItems_nil (fuel index : Nat) (done : List α) :
    Starves sound (readItems item fuel index done []) := by
  cases fuel with
  | zero => exact starves_of_truncated rfl
  | succ fuel => exact starves_of_truncated rfl

/-- One turn of the loop, with an element that is read up to a place. -/
theorem readItems_turn {input place beyond : Input} {index : Nat} {first : Bool}
    (more : nextElement first input = .ok (true, place)) (starts : (index == 0) = first)
    (reaches : Reaches sound beyond (item place))
    (later : ∀ fuel index done, Starves sound (readItems item fuel (index + 1) done beyond))
    (fuel : Nat) (done : List α) : Starves sound (readItems item fuel index done input) := by
  cases fuel with
  | zero => exact starves_of_truncated rfl
  | succ fuel =>
    have turn : readItems item (fuel + 1) index done input =
        inside (.index index) (item place) >>= fun read =>
          readItems item fuel (index + 1) (read.1 :: done) read.2 := by
      rw [readItems, starts, more]
      rfl
    rw [turn]
    rcases reaches with starves | ⟨value, read⟩
    · exact (starves.inside _).bind _
    · rw [read]
      exact later fuel index (value :: done)

/-- Behind elements that are read, the loop starves if it does so on what is left. -/
theorem readItems_trailing {held : List Input} (opens : ∀ text ∈ held, Opens text)
    (passes : ∀ text ∈ held, Passes sound item text) {beyond : Input}
    (delimited : Delimited beyond)
    (later : ∀ fuel index done, Starves sound (readItems item fuel (index + 1) done beyond)) :
    ∀ fuel index done,
      Starves sound (readItems item fuel (index + 1) done (trailing held ++ beyond)) := by
  induction held with
  | nil => exact later
  | cons text held inductionHypothesis =>
    intro fuel index done
    rw [List.forall_mem_cons] at opens passes
    have behind : trailing (text :: held) ++ beyond =
        0x2c :: (text ++ (trailing held ++ beyond)) := by
      rw [trailing, List.flatMap_cons, List.append_assoc, List.cons_append]
      rfl
    rw [behind]
    exact readItems_turn (nextElement_comma opens.1 _) rfl
      (passes.1.whole _ (delimited_trailing held delimited))
      (inductionHypothesis opens.2 passes.2) fuel done

/-- Nothing or a part of an element makes the loop starve. -/
theorem readItems_broken {others : List Input} (opens : ∀ text ∈ others, Opens text)
    (lacking : ∀ text ∈ others, StopsShort sound item text) {beyond : Input}
    (broken : Broken others beyond) (fuel index : Nat) (done : List α) :
    Starves sound (readItems item fuel (index + 1) done beyond) := by
  cases broken with
  | nothing => exact readItems_nil fuel (index + 1) done
  | @part part missing others nonempty =>
    rw [List.forall_mem_cons] at opens lacking
    by_cases nothing : part = []
    · rw [nothing]
      cases fuel with
      | zero => exact starves_of_truncated rfl
      | succ fuel => exact starves_of_truncated rfl
    have within : part <+: (part ++ missing) ++ [] :=
      (List.append_nil _).symm ▸ List.prefix_append part missing
    have more := nextElement_comma (opens.1.front nothing within) []
    rw [List.append_nil] at more
    exact readItems_turn more rfl (lacking.1 part missing nonempty rfl)
      (fun fuel index => readItems_nil fuel (index + 1)) fuel done

/-- A list that lacks its closing bracket makes its reader starve.  Only the elements that it
holds as a whole have to be passed. -/
theorem readItems_joined_front {texts : List Input} (opens : ∀ text ∈ texts, Opens text)
    (lacking : ∀ text ∈ texts, StopsShort sound item text) {front : Input}
    (passes : ∀ held, held <+: texts → joined held <+: front →
      ∀ text ∈ held, Passes sound item text)
    (within : front <+: joined texts) (fuel : Nat) (done : List α) :
    Starves sound (readItems item fuel 0 done front) := by
  by_cases nothing : front = []
  · rw [nothing]
    exact readItems_nil fuel 0 done
  cases texts with
  | nil => exact absurd (List.prefix_nil.mp within) nothing
  | cons text texts =>
    rw [List.forall_mem_cons] at opens lacking
    have more := nextElement_first (opens.1.front nothing within) []
    rw [List.append_nil] at more
    rcases front_cases within with ⟨missing, nonempty, split⟩ | ⟨beyond, rfl, behind⟩
    · exact readItems_turn more rfl (lacking.1 front missing nonempty split)
        (fun fuel index => readItems_nil fuel (index + 1)) fuel done
    rcases exists_held behind with ⟨held, others, beyond, rfl, rfl, broken⟩
    have all := passes (text :: held) ⟨others, rfl⟩
      (by rw [joined, ← trailing, ← List.append_assoc]; exact List.prefix_append _ _)
    rw [List.forall_mem_cons] at all
    rw [List.forall_mem_append] at opens lacking
    exact readItems_turn more rfl
      (all.1.whole _ (delimited_trailing held broken.delimited))
      (readItems_trailing opens.2.1 all.2 broken.delimited
        (readItems_broken opens.2.2 lacking.2.2 broken)) fuel done

theorem readItems_trailing_reaches {texts : List Input} (opens : ∀ text ∈ texts, Opens text)
    (passes : ∀ text ∈ texts, Passes sound item text) (rest : Input) :
    ∀ {fuel : Nat} (index : Nat) (done : List α), texts.length < fuel →
      Reaches sound (0x5d :: rest)
        (readItems item fuel (index + 1) done (trailing texts ++ 0x5d :: rest)) := by
  induction texts with
  | nil => exact fun index done enough => Or.inr ⟨_, readItems_close enough done rest⟩
  | cons text texts inductionHypothesis =>
    intro fuel index done enough
    rcases Nat.exists_eq_add_one.mpr (Nat.zero_lt_of_lt enough) with ⟨fuel, rfl⟩
    rw [List.forall_mem_cons] at opens passes
    have delimited := delimited_separated (fun text : Input => text) texts (Or.inl rfl) rest
    have more := nextElement_comma opens.1 (trailing texts ++ 0x5d :: rest)
    have starts : (index + 1 == 0) = false := rfl
    rw [trailing, List.flatMap_cons, List.cons_append, List.cons_append, List.append_assoc,
      readItems, starts, ← trailing, more]
    exact ((passes.1.whole _ delimited).inside _).bind fun value =>
      inductionHypothesis opens.2 passes.2 (index + 1) (value :: done)
        (Nat.lt_of_succ_lt_succ enough)

theorem readItems_joined_reaches {texts : List Input} (opens : ∀ text ∈ texts, Opens text)
    (passes : ∀ text ∈ texts, Passes sound item text) (rest : Input) {fuel : Nat}
    (enough : texts.length < fuel) :
    Reaches sound (0x5d :: rest) (readItems item fuel 0 [] (joined texts ++ 0x5d :: rest)) := by
  cases texts with
  | nil => exact Or.inr ⟨_, readItems_close enough [] rest⟩
  | cons text texts =>
    rcases Nat.exists_eq_add_one.mpr (Nat.zero_lt_of_lt enough) with ⟨fuel, rfl⟩
    rw [List.forall_mem_cons] at opens passes
    have delimited := delimited_separated (fun text : Input => text) texts (Or.inl rfl) rest
    have more := nextElement_first opens.1 (trailing texts ++ 0x5d :: rest)
    have starts : (0 == 0) = true := rfl
    rw [joined, List.append_assoc, readItems, starts, ← trailing, more]
    exact ((passes.1.whole _ delimited).inside _).bind fun value =>
      readItems_trailing_reaches opens.2 passes.2 rest 0 [value] (Nat.lt_of_succ_lt_succ enough)

/-- A list is passed if its elements are. -/
theorem readList_reaches {texts : List Input} (opens : ∀ text ∈ texts, Opens text)
    (passes : ∀ text ∈ texts, Passes sound item text) (rest : Input) :
    Reaches sound rest (readList item (joined texts ++ 0x5d :: rest)) := by
  have enough : texts.length < (joined texts ++ 0x5d :: rest).length + 1 := by
    have bound := length_le_joined texts
    rw [List.length_append, List.length_cons]
    omega
  exact (readItems_joined_reaches opens passes rest enough).bind fun items => Or.inr ⟨items, rfl⟩

/-- A front of a list, perhaps all of it. -/
theorem readList_front {texts : List Input} (opens : ∀ text ∈ texts, Opens text)
    (lacking : ∀ text ∈ texts, StopsShort sound item text) {front : Input}
    (passes : ∀ held, held <+: texts → joined held <+: front →
      ∀ text ∈ held, Passes sound item text)
    (within : front <+: joined texts ++ [0x5d]) : Reaches sound [] (readList item front) := by
  by_cases all : front = joined texts ++ [0x5d]
  · rw [all] at passes ⊢
    exact readList_reaches opens
      (passes texts (List.prefix_refl texts) (List.prefix_append _ _)) []
  · rcases exists_missing within all with ⟨missing, nonempty, split⟩
    have starves := readItems_joined_front opens lacking passes
      (prefix_of_lacking nonempty split) (front.length + 1) []
    exact Or.inl (starves.bind _)

theorem readList_lacking {texts : List Input} (opens : ∀ text ∈ texts, Opens text)
    (passes : ∀ text ∈ texts, Passes sound item text) {front missing : Input}
    (nonempty : missing ≠ []) (split : joined texts ++ [0x5d] = front ++ missing) :
    Starves sound (readList item front) := by
  have starves := readItems_joined_front opens (fun text member => (passes text member).stopsShort)
    (fun held within _ text member => passes text (within.subset member))
    (prefix_of_lacking nonempty split) (front.length + 1) []
  exact starves.bind _

end Lists

/-! ## Objects -/

/-- A member as it is written: its key, and the text of its value. -/
abbrev WrittenMember := String × Input

/-- The octets of a member behind the quote that opens its key. -/
def keyTail (entry : WrittenMember) : Input :=
  (escapedOctets entry.1 ++ [0x22]) ++ 0x3a :: entry.2

section Objects

variable {sound : Prop} {σ : Type} {member : σ → String → Input → Except Fault (σ × Input)}

theorem readMembers_nil (fuel : Nat) (first : Bool) (gathered : σ) :
    Starves sound (readMembers member fuel first gathered []) := by
  cases fuel with
  | zero => exact starves_of_truncated rfl
  | succ fuel => exact starves_of_truncated rfl

/-- What the reader of an object asks for at a quote: the key behind it. -/
def keyAt (place : Input) : Except Cause (Option String × Input) :=
  readText place >>= fun read => .ok (some read.1, read.2)

/-- A turn of the loop whose key was cut off. -/
theorem readMembers_key {key : String} {input place missing : Input} {gathered : σ} {first : Bool}
    (more : nextKey first input = keyAt place) (nonempty : missing ≠ [])
    (split : escapedOctets key ++ [0x22] = place ++ missing) (fuel : Nat) :
    Starves sound (readMembers member fuel first gathered input) := by
  cases fuel with
  | zero => exact starves_of_truncated rfl
  | succ fuel =>
    have starves : Starves sound (here (nextKey first input)) := by
      rw [more, keyAt, readText_front nonempty split]
      exact starves_of_truncated rfl
    exact starves.bind _

/-- A turn of the loop, with a member that is read up to a place. -/
theorem readMembers_turn {key : String} {input value beyond : Input} {gathered : σ} {first : Bool}
    (more : nextKey first input = keyAt ((escapedOctets key ++ [0x22]) ++ value))
    (reaches : Reaches sound beyond (member gathered key value))
    (later : ∀ fuel gathered, Starves sound (readMembers member fuel false gathered beyond))
    (fuel : Nat) : Starves sound (readMembers member fuel first gathered input) := by
  cases fuel with
  | zero => exact starves_of_truncated rfl
  | succ fuel =>
    have found : nextKey first input = .ok (some key, value) := by
      rw [more, keyAt, List.append_assoc, List.singleton_append, readText_escapedOctets]
      rfl
    have turn : readMembers member (fuel + 1) first gathered input =
        member gathered key value >>= fun read =>
          readMembers member fuel false read.1 read.2 := by
      rw [readMembers, found]
      rfl
    rw [turn]
    rcases reaches with starves | ⟨next, read⟩
    · exact starves.bind _
    · rw [read]
      exact later fuel next

/-- A turn of the loop, at a front of a member without its first quote and of what follows it. -/
theorem readMembers_member {entry : WrittenMember} {behind input place : Input} {gathered : σ}
    (passes : Passes sound (member gathered entry.1) (0x3a :: entry.2))
    (delimited : ∀ beyond, beyond <+: behind → Delimited beyond)
    (later : ∀ beyond, beyond <+: behind → ∀ fuel gathered,
      Starves sound (readMembers member fuel false gathered beyond))
    {first : Bool} (more : nextKey first input = keyAt place)
    (within : place <+: keyTail entry ++ behind) (fuel : Nat) :
    Starves sound (readMembers member fuel first gathered input) := by
  rw [keyTail, List.append_assoc] at within
  rcases front_cases within with ⟨missing, nonempty, split⟩ | ⟨value, rfl, further⟩
  · exact readMembers_key more nonempty split fuel
  · rcases passes.within delimited further with ⟨beyond, behind, reaches⟩
    exact readMembers_turn more reaches (later beyond behind) fuel

theorem readMembers_trailing_front {members : List WrittenMember}
    (passes : ∀ entry ∈ members, ∀ gathered,
      Passes sound (member gathered entry.1) (0x3a :: entry.2)) :
    ∀ front, front <+: trailing (members.map fun entry => 0x22 :: keyTail entry) →
      ∀ fuel gathered, Starves sound (readMembers member fuel false gathered front) := by
  induction members with
  | nil =>
    intro front within fuel gathered
    rw [List.prefix_nil.mp within]
    exact readMembers_nil fuel false gathered
  | cons entry members inductionHypothesis =>
    intro front within fuel gathered
    rw [List.forall_mem_cons] at passes
    rcases front with _ | ⟨comma, _ | ⟨quote, front⟩⟩
    · exact readMembers_nil fuel false gathered
    · rcases List.cons_prefix_cons.mp within with ⟨rfl, _⟩
      cases fuel with
      | zero => exact starves_of_truncated rfl
      | succ fuel => exact starves_of_truncated rfl
    · rcases List.cons_prefix_cons.mp within with ⟨rfl, behind⟩
      rcases List.cons_prefix_cons.mp behind with ⟨rfl, place⟩
      exact readMembers_member (passes.1 gathered) (fun beyond => delimited_front)
        (inductionHypothesis passes.2) rfl place fuel

/-- An object that lacks its closing brace makes its reader starve. -/
theorem readMembers_joined_front {first : WrittenMember} {others : List WrittenMember}
    {gathered : σ} (passes : Passes sound (member gathered first.1) (0x3a :: first.2))
    (later : ∀ entry ∈ others, ∀ gathered,
      Passes sound (member gathered entry.1) (0x3a :: entry.2)) {front : Input}
    (within : front <+: joined ((first :: others).map fun entry => 0x22 :: keyTail entry))
    (fuel : Nat) : Starves sound (readMembers member fuel true gathered front) := by
  cases front with
  | nil => exact readMembers_nil fuel true gathered
  | cons quote front =>
    rcases List.cons_prefix_cons.mp within with ⟨rfl, place⟩
    exact readMembers_member passes (fun beyond => delimited_front)
      (readMembers_trailing_front later) rfl place fuel

end Objects

end Json
end LendingGateway
