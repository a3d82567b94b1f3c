import LendingGateway.Json.Decode
import LendingGateway.Proofs.Json.Trees

namespace LendingGateway
namespace Json

open Traversal

/-!
# What a reader has met

When a reader succeeds, the octets at the front of its input tell which of its branches it
took, and nothing else can have happened.  Each reader has its inversion law here, and the
laws hold in both directions, so a reader can also be followed along another input.
-/

@[simp]
theorem here_eq_ok_iff {α : Type} {result : Except Cause α} {value : α} :
    here result = .ok value ↔ result = .ok value := by
  cases result with
  | ok other => exact ⟨fun same => by cases same; rfl, fun same => by cases same; rfl⟩
  | error cause => exact ⟨fun impossible => (nomatch impossible), fun impossible => (nomatch impossible)⟩

@[simp]
theorem inside_eq_ok_iff {α : Type} {segment : Segment} {result : Except Fault α} {value : α} :
    inside segment result = .ok value ↔ result = .ok value := by
  cases result with
  | ok other => exact ⟨fun same => by cases same; rfl, fun same => by cases same; rfl⟩
  | error fault => exact ⟨fun impossible => (nomatch impossible), fun impossible => (nomatch impossible)⟩

theorem skipGap_idem (input : Input) : skipGap (skipGap input) = skipGap input := by
  induction input with
  | nil => rfl
  | cons octet input inductionHypothesis =>
    by_cases gap : isGap octet = true
    · have skipped : skipGap (octet :: input) = skipGap input := by
        rw [skipGap, List.dropWhile_cons, if_pos gap]
        rfl
      rw [skipped, inductionHypothesis]
    · have kept := skipGap_cons (Bool.eq_false_iff.mpr gap) input
      rw [kept, kept]

/-! ## Text, numbers and marks -/

theorem readText_eq_ok_iff {input after : Input} {text : String} :
    readText input = .ok (text, after) ↔
      ∃ octets, scanText true .plain [] input = .ok (octets, after) ∧
        Text.ofOctets? octets = some text := by
  constructor
  · intro read
    rcases bind_eq_ok_iff.mp read with ⟨⟨octets, last⟩, scanned, decoded⟩
    dsimp only at decoded
    split at decoded
    · rename_i known
      cases decoded
      exact ⟨octets, scanned, known⟩
    · cases decoded
  · rintro ⟨octets, scanned, known⟩
    refine bind_eq_ok_iff.mpr ⟨(octets, after), scanned, ?_⟩
    dsimp only
    rw [known]

theorem expectColon_eq_ok_iff {input after : Input} :
    expectColon input = .ok after ↔ skipGap input = 0x3a :: after := by
  unfold expectColon
  cases start : skipGap input with
  | nil => simp
  | cons octet rest =>
    by_cases colon : octet = 0x3a
    · simp [colon]
    · simp [colon]

theorem closeObject_eq_ok_iff {input after : Input} :
    closeObject input = .ok after ↔ skipGap input = 0x7d :: after := by
  unfold closeObject
  cases start : skipGap input with
  | nil => simp
  | cons octet rest =>
    by_cases brace : octet = 0x7d
    · simp [brace]
    · simp [brace]

theorem closeList_eq_ok_iff {input after : Input} :
    closeList input = .ok after ↔ skipGap input = 0x5d :: after := by
  unfold closeList
  cases start : skipGap input with
  | nil => simp
  | cons octet rest =>
    by_cases bracket : octet = 0x5d
    · simp [bracket]
    · by_cases comma : octet = 0x2c ∧ (skipGap rest).head? = some 0x5d
      · simp [comma]
      · simp [bracket, comma]

theorem misfit_ne_ok {α : Type} {wanted : Wanted} {input : Input} {value : α} :
    misfit wanted input ≠ .ok value := by
  unfold misfit
  split
  · exact nofun
  · split
    · exact nofun
    · split
      · exact nofun
      · intro impossible
        rcases bind_eq_ok_iff.mp impossible with ⟨_, _, wrong⟩
        cases wrong

theorem readString_eq_ok_iff {wanted : Wanted} {input after : Input} {text : String} :
    readString wanted input = .ok (text, after) ↔
      ∃ rest, skipGap input = 0x22 :: rest ∧ readText rest = .ok (text, after) := by
  constructor
  · intro read
    unfold readString at read
    split at read
    · rename_i rest starts
      exact ⟨rest, starts, read⟩
    · exact absurd read misfit_ne_ok
  · rintro ⟨rest, starts, read⟩
    rw [readString, starts]
    exact read

theorem readNumber_eq_ok_iff {α : Type} {wanted : Wanted} {convert : Numeral → Except Cause α}
    {input after : Input} {value : α} :
    readNumber wanted convert input = .ok (value, after) ↔
      ∃ octet rest number, skipGap input = octet :: rest ∧
        (octet = 0x2d ∨ isDigit octet = true) ∧
          readNumeral (octet :: rest) = .ok (number, after) ∧ convert number = .ok value := by
  constructor
  · intro read
    unfold readNumber at read
    split at read
    · cases read
    · rename_i octet rest starts
      split at read
      · rename_i begins
        rcases bind_eq_ok_iff.mp read with ⟨⟨number, last⟩, numeral, read⟩
        rcases bind_eq_ok_iff.mp read with ⟨value, meant, done⟩
        cases done
        exact ⟨octet, rest, number, starts, begins, numeral, meant⟩
      · exact absurd read misfit_ne_ok
  · rintro ⟨octet, rest, number, starts, begins, numeral, meant⟩
    rw [readNumber, starts]
    dsimp only
    rw [if_pos begins]
    exact bind_eq_ok_iff.mpr ⟨_, numeral, bind_eq_ok_iff.mpr ⟨_, meant, rfl⟩⟩

/-- How a list goes on: it ends, or an element follows, at once or after a comma. -/
inductive NextElement (first : Bool) (input : Input) : Bool → Input → Prop where
  | close {rest : Input} (starts : skipGap input = 0x5d :: rest) :
    NextElement first input false (0x5d :: rest)
  | opening {octet : UInt8} {rest : Input} (begins : first = true)
    (starts : skipGap input = octet :: rest) (element : octet ≠ 0x5d) :
    NextElement first input true (octet :: rest)
  | comma {octet : UInt8} {between rest : Input} (continues : first = false)
    (starts : skipGap input = 0x2c :: between) (next : skipGap between = octet :: rest)
    (element : octet ≠ 0x5d) : NextElement first input true (octet :: rest)

theorem nextElement_eq_ok_iff {first more : Bool} {input place : Input} :
    nextElement first input = .ok (more, place) ↔ NextElement first input more place := by
  constructor
  · intro found
    unfold nextElement at found
    cases start : skipGap input with
    | nil =>
      rw [start] at found
      cases found
    | cons octet rest =>
      rw [start] at found
      dsimp only at found
      split at found
      · rename_i bracket
        cases found
        subst bracket
        exact .close start
      · rename_i element
        split at found
        · rename_i begins
          cases found
          exact .opening begins start element
        · rename_i continues
          split at found
          · rename_i comma
            subst comma
            cases next : skipGap rest with
            | nil =>
              rw [next] at found
              cases found
            | cons octet after =>
              rw [next] at found
              dsimp only at found
              split at found
              · cases found
              · rename_i element
                cases found
                exact .comma (Bool.eq_false_iff.mpr continues) start next element
          · cases found
  · intro view
    cases view with
    | close starts =>
      rw [nextElement, starts]
      rfl
    | opening begins starts element =>
      rw [nextElement, starts]
      dsimp only
      rw [if_neg element, if_pos begins]
    | comma continues starts next element =>
      rw [nextElement, starts, continues]
      dsimp only
      rw [if_neg (by decide), if_neg Bool.false_ne_true, if_pos rfl, next]
      dsimp only
      rw [if_neg element]

/-- A list ends at its bracket. -/
theorem endsList_iff {first : Bool} {input rest after : Input} :
    nextElement first input = .ok (false, rest) ∧ closeList rest = .ok after ↔
      skipGap input = 0x5d :: after ∧ rest = 0x5d :: after := by
  rw [nextElement_eq_ok_iff, closeList_eq_ok_iff]
  constructor
  · rintro ⟨next, closes⟩
    cases next with
    | close starts =>
      rw [skipGap_cons (by decide)] at closes
      cases closes
      exact ⟨starts, rfl⟩
  · rintro ⟨starts, rfl⟩
    exact ⟨.close starts, skipGap_cons (by decide) after⟩

/-- How an object goes on: it ends, or a key follows, at once or after a comma. -/
inductive NextKey (first : Bool) (input : Input) : Option String → Input → Prop where
  | close {rest : Input} (starts : skipGap input = 0x7d :: rest) :
    NextKey first input none (0x7d :: rest)
  | opening {key : String} {quoted rest : Input} (begins : first = true)
    (starts : skipGap input = 0x22 :: quoted) (text : readText quoted = .ok (key, rest)) :
    NextKey first input (some key) rest
  | comma {key : String} {between quoted rest : Input} (continues : first = false)
    (starts : skipGap input = 0x2c :: between) (next : skipGap between = 0x22 :: quoted)
    (text : readText quoted = .ok (key, rest)) : NextKey first input (some key) rest

theorem nextKey_eq_ok_iff {first : Bool} {key? : Option String} {input rest : Input} :
    nextKey first input = .ok (key?, rest) ↔ NextKey first input key? rest := by
  constructor
  · intro found
    unfold nextKey at found
    cases start : skipGap input with
    | nil =>
      rw [start] at found
      cases found
    | cons octet quoted =>
      rw [start] at found
      dsimp only at found
      split at found
      · rename_i brace
        cases found
        subst brace
        exact .close start
      · split at found
        · rename_i begins
          split at found
          · rename_i quote
            subst quote
            rcases bind_eq_ok_iff.mp found with ⟨⟨key, after⟩, text, done⟩
            cases done
            exact .opening begins start text
          · cases found
        · rename_i continues
          split at found
          · rename_i comma
            subst comma
            cases next : skipGap quoted with
            | nil =>
              rw [next] at found
              cases found
            | cons octet quoted =>
              rw [next] at found
              dsimp only at found
              split at found
              · rename_i quote
                subst quote
                rcases bind_eq_ok_iff.mp found with ⟨⟨key, after⟩, text, done⟩
                cases done
                exact .comma (Bool.eq_false_iff.mpr continues) start next text
              · split at found <;> cases found
          · cases found
  · intro view
    cases view with
    | close starts =>
      rw [nextKey, starts]
      rfl
    | opening begins starts text =>
      rw [nextKey, starts, begins]
      exact bind_eq_ok_iff.mpr ⟨_, text, rfl⟩
    | comma continues starts next text =>
      rw [nextKey, starts, continues]
      dsimp only
      rw [if_neg (by decide), if_neg Bool.false_ne_true, if_pos rfl, next]
      exact bind_eq_ok_iff.mpr ⟨_, text, rfl⟩

/-- An object ends at its brace. -/
theorem endsObject_iff {first : Bool} {input rest after : Input} :
    nextKey first input = .ok (none, rest) ∧ closeObject rest = .ok after ↔
      skipGap input = 0x7d :: after ∧ rest = 0x7d :: after := by
  rw [nextKey_eq_ok_iff, closeObject_eq_ok_iff]
  constructor
  · rintro ⟨next, closes⟩
    cases next with
    | close starts =>
      rw [skipGap_cons (by decide)] at closes
      cases closes
      exact ⟨starts, rfl⟩
  · rintro ⟨starts, rfl⟩
    exact ⟨.close starts, skipGap_cons (by decide) after⟩

/-! ## Loops -/

theorem readItems_eq_ok_iff {α : Type} {item : Input → Except Fault (α × Input)}
    {fuel index : Nat} {done values : List α} {input rest : Input} :
    readItems item (fuel + 1) index done input = .ok (values, rest) ↔
      (nextElement (index == 0) input = .ok (false, rest) ∧ values = done.reverse) ∨
      ∃ place value after, nextElement (index == 0) input = .ok (true, place) ∧
        item place = .ok (value, after) ∧
          readItems item fuel (index + 1) (value :: done) after = .ok (values, rest) := by
  rw [readItems]
  constructor
  · intro read
    rcases bind_eq_ok_iff.mp read with ⟨⟨more, place⟩, next, read⟩
    rw [here_eq_ok_iff] at next
    cases more with
    | false =>
      cases read
      exact Or.inl ⟨next, rfl⟩
    | true =>
      rcases bind_eq_ok_iff.mp read with ⟨⟨value, after⟩, element, read⟩
      rw [inside_eq_ok_iff] at element
      exact Or.inr ⟨place, value, after, next, element, read⟩
  · rintro (⟨next, rfl⟩ | ⟨place, value, after, next, element, read⟩)
    · rw [next]
      rfl
    · rw [next]
      refine bind_eq_ok_iff.mpr ⟨(true, place), rfl, ?_⟩
      exact bind_eq_ok_iff.mpr ⟨(value, after), inside_eq_ok_iff.mpr element, read⟩

theorem readList_eq_ok_iff {α : Type} {item : Input → Except Fault (α × Input)}
    {values : List α} {input after : Input} :
    readList item input = .ok (values, after) ↔
      ∃ rest, readItems item (input.length + 1) 0 [] input = .ok (values, rest) ∧
        closeList rest = .ok after := by
  constructor
  · intro read
    rcases bind_eq_ok_iff.mp read with ⟨⟨items, rest⟩, elements, read⟩
    rcases bind_eq_ok_iff.mp read with ⟨last, closes, done⟩
    cases done
    exact ⟨rest, elements, here_eq_ok_iff.mp closes⟩
  · rintro ⟨rest, elements, closes⟩
    refine bind_eq_ok_iff.mpr ⟨_, elements, ?_⟩
    exact bind_eq_ok_iff.mpr ⟨_, here_eq_ok_iff.mpr closes, rfl⟩

theorem readMembers_eq_ok_iff {σ : Type} {member : σ → String → Input → Except Fault (σ × Input)}
    {fuel : Nat} {first : Bool} {gathered last : σ} {input rest : Input} :
    readMembers member (fuel + 1) first gathered input = .ok (last, rest) ↔
      (nextKey first input = .ok (none, rest) ∧ last = gathered) ∨
      ∃ key beyond next after, nextKey first input = .ok (some key, beyond) ∧
        member gathered key beyond = .ok (next, after) ∧
          readMembers member fuel false next after = .ok (last, rest) := by
  rw [readMembers]
  constructor
  · intro read
    rcases bind_eq_ok_iff.mp read with ⟨⟨key?, beyond⟩, found, read⟩
    rw [here_eq_ok_iff] at found
    cases key? with
    | none =>
      cases read
      exact Or.inl ⟨found, rfl⟩
    | some key =>
      rcases bind_eq_ok_iff.mp read with ⟨⟨next, after⟩, taken, read⟩
      exact Or.inr ⟨key, beyond, next, after, found, taken, read⟩
  · rintro (⟨found, rfl⟩ | ⟨key, beyond, next, after, found, taken, read⟩)
    · rw [found]
      rfl
    · rw [found]
      exact bind_eq_ok_iff.mpr ⟨(some key, beyond), rfl, bind_eq_ok_iff.mpr ⟨_, taken, read⟩⟩

theorem readTreeMember_eq_ok_iff {depth : Nat} {done members : List (String × Tree)}
    {key : String} {input rest : Input} :
    readTreeMember depth done key input = .ok (members, rest) ↔
      ∃ place tree, expectColon input = .ok place ∧ Tree.read depth place = .ok (tree, rest) ∧
        members = (key, tree) :: done := by
  constructor
  · intro read
    rcases bind_eq_ok_iff.mp read with ⟨place, colon, read⟩
    rcases bind_eq_ok_iff.mp read with ⟨⟨tree, after⟩, value, done⟩
    cases done
    exact ⟨place, tree, here_eq_ok_iff.mp colon, inside_eq_ok_iff.mp value, rfl⟩
  · rintro ⟨place, tree, colon, value, rfl⟩
    refine bind_eq_ok_iff.mpr ⟨place, here_eq_ok_iff.mpr colon, ?_⟩
    exact bind_eq_ok_iff.mpr ⟨_, inside_eq_ok_iff.mpr value, rfl⟩

/-! ## Trees -/

/-- How a tree is read, told by the first octet after a gap. -/
inductive ReadsTree : (depth : Nat) → (input after : Input) → Tree → Prop where
  | null {depth : Nat} {input rest after : Input} (starts : skipGap input = 0x6e :: rest)
    (word : expectText "ull" rest = .ok after) : ReadsTree depth input after .null
  | yes {depth : Nat} {input rest after : Input} (starts : skipGap input = 0x74 :: rest)
    (word : expectText "rue" rest = .ok after) : ReadsTree depth input after (.boolean true)
  | no {depth : Nat} {input rest after : Input} (starts : skipGap input = 0x66 :: rest)
    (word : expectText "alse" rest = .ok after) : ReadsTree depth input after (.boolean false)
  | text {depth : Nat} {input rest after : Input} {value : String}
    (starts : skipGap input = 0x22 :: rest) (quoted : readText rest = .ok (value, after)) :
    ReadsTree depth input after (.text value)
  | number {depth : Nat} {input rest after : Input} {octet : UInt8} {value : Numeral}
    (starts : skipGap input = octet :: rest) (begins : octet = 0x2d ∨ isDigit octet = true)
    (numeral : readNumeral (octet :: rest) = .ok (value, after)) :
    ReadsTree depth input after (.number value)
  | list {depth : Nat} {input inner rest after : Input} {items : List Tree}
    (starts : skipGap input = 0x5b :: inner)
    (elements : readItems (Tree.read depth) (inner.length + 1) 0 [] inner = .ok (items, rest))
    (closes : closeList rest = .ok after) : ReadsTree (depth + 1) input after (.list items)
  | object {depth : Nat} {input inner rest after : Input} {members : List (String × Tree)}
    (starts : skipGap input = 0x7b :: inner)
    (gathered : readMembers (readTreeMember depth) (inner.length + 1) true [] inner =
      .ok (members, rest))
    (closes : closeObject rest = .ok after) :
    ReadsTree (depth + 1) input after (.object members.reverse)

theorem readsTree_of_readScalar {depth : Nat} {input rest after : Input} {octet : UInt8}
    {tree : Tree} (starts : skipGap input = octet :: rest)
    (read : readScalar octet rest = .ok (tree, after)) : ReadsTree depth input after tree := by
  unfold readScalar at read
  split at read
  · rename_i letter
    rcases bind_eq_ok_iff.mp read with ⟨last, word, done⟩
    cases done
    exact .null (letter ▸ starts) word
  split at read
  · rename_i letter
    rcases bind_eq_ok_iff.mp read with ⟨last, word, done⟩
    cases done
    exact .yes (letter ▸ starts) word
  split at read
  · rename_i letter
    rcases bind_eq_ok_iff.mp read with ⟨last, word, done⟩
    cases done
    exact .no (letter ▸ starts) word
  split at read
  · rename_i quote
    rcases bind_eq_ok_iff.mp read with ⟨⟨value, last⟩, quoted, done⟩
    cases done
    exact .text (quote ▸ starts) quoted
  split at read
  · rename_i begins
    rcases bind_eq_ok_iff.mp read with ⟨⟨value, last⟩, numeral, done⟩
    cases done
    exact .number starts begins numeral
  · cases read

theorem Tree.read_eq_ok_iff {depth : Nat} {input after : Input} {tree : Tree} :
    Tree.read depth input = .ok (tree, after) ↔ ReadsTree depth input after tree := by
  constructor
  · intro read
    unfold Tree.read at read
    split at read
    · cases read
    · rename_i octet rest starts
      split at read
      · rename_i bracket
        subst bracket
        split at read
        · cases read
        · rcases bind_eq_ok_iff.mp read with ⟨⟨items, last⟩, elements, done⟩
          cases done
          rcases readList_eq_ok_iff.mp elements with ⟨beyond, elements, closes⟩
          exact .list starts elements closes
      · split at read
        · rename_i brace
          subst brace
          split at read
          · cases read
          · rcases bind_eq_ok_iff.mp read with ⟨⟨members, beyond⟩, gathered, read⟩
            rcases bind_eq_ok_iff.mp read with ⟨last, closes, done⟩
            cases done
            exact .object starts gathered (here_eq_ok_iff.mp closes)
        · exact readsTree_of_readScalar starts (here_eq_ok_iff.mp read)
  · intro view
    cases view with
    | null starts word =>
      rw [Tree.read, starts]
      exact here_eq_ok_iff.mpr (bind_eq_ok_iff.mpr ⟨_, word, rfl⟩)
    | yes starts word =>
      rw [Tree.read, starts]
      exact here_eq_ok_iff.mpr (bind_eq_ok_iff.mpr ⟨_, word, rfl⟩)
    | no starts word =>
      rw [Tree.read, starts]
      exact here_eq_ok_iff.mpr (bind_eq_ok_iff.mpr ⟨_, word, rfl⟩)
    | text starts quoted =>
      rw [Tree.read, starts]
      exact here_eq_ok_iff.mpr (bind_eq_ok_iff.mpr ⟨_, quoted, rfl⟩)
    | number starts begins numeral =>
      rcases number_head begins with ⟨_, _, notList, _, _, _, _, notObject⟩
      rw [Tree.read, starts]
      dsimp only
      rw [if_neg notList, if_neg notObject, readScalar_number begins]
      exact here_eq_ok_iff.mpr (bind_eq_ok_iff.mpr ⟨_, numeral, rfl⟩)
    | list starts elements closes =>
      rw [Tree.read, starts]
      exact bind_eq_ok_iff.mpr ⟨_, readList_eq_ok_iff.mpr ⟨_, elements, closes⟩, rfl⟩
    | object starts gathered closes =>
      rw [Tree.read, starts]
      refine bind_eq_ok_iff.mpr ⟨_, gathered, ?_⟩
      exact bind_eq_ok_iff.mpr ⟨_, here_eq_ok_iff.mpr closes, rfl⟩

end Json
end LendingGateway
