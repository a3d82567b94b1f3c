import LendingGateway.Json.Tree
import LendingGateway.Proofs.Json.Literals
import LendingGateway.Proofs.Json.Strings

namespace LendingGateway
namespace Json

open Traversal

/-!
# Running out of input

A document that was cut off has to be told from one that says something wrong.  Within a word or
a text every front makes the reader run out of input, because nothing but the last octet could
have ended them.
-/

/-- A front of two texts in a row ends before the first of them does, or it has the first of
them and a front of the second. -/
theorem front_cases {front text rest : Input} (within : front <+: text ++ rest) :
    (∃ missing, missing ≠ [] ∧ text = front ++ missing) ∨
      ∃ beyond, front = text ++ beyond ∧ beyond <+: rest := by
  rcases within with ⟨others, split⟩
  rcases List.append_eq_append_iff.mp split with ⟨missing, whole, _⟩ | ⟨beyond, whole, behind⟩
  · by_cases nothing : missing = []
    · subst nothing
      rw [List.append_nil] at whole
      exact Or.inr ⟨[], by rw [whole, List.append_nil], List.nil_prefix⟩
    · exact Or.inl ⟨missing, nothing, whole⟩
  · exact Or.inr ⟨beyond, whole, ⟨others, behind.symm⟩⟩

/-- A front that is shorter than the text lacks some of it. -/
theorem exists_missing {front text : Input} (within : front <+: text) (strict : front ≠ text) :
    ∃ missing, missing ≠ [] ∧ text = front ++ missing := by
  rcases within with ⟨missing, whole⟩
  refine ⟨missing, ?_, whole.symm⟩
  rintro rfl
  exact strict (by rw [← whole, List.append_nil])

/-- What lacks some of a text with an octet at its end is a front of the text. -/
theorem prefix_of_lacking {text front missing : Input} {closing : UInt8} (nonempty : missing ≠ [])
    (split : text ++ [closing] = front ++ missing) : front <+: text := by
  rcases List.eq_nil_or_concat missing with rfl | ⟨between, last, rfl⟩
  · exact absurd rfl nonempty
  · rw [List.concat_eq_append, ← List.append_assoc] at split
    exact ⟨between, (List.append_inj' split rfl).1.symm⟩

/-! ## Readers that starve -/

/-- A reader failed, and if what was written is sound, because it ran out of input. -/
def Starves (sound : Prop) {α : Type} (result : Except Fault α) : Prop :=
  ∃ fault, result = .error fault ∧ (sound → fault.cause.category = .truncated)

/-- A reader starves, or it reads up to a place. -/
def Reaches (sound : Prop) {α : Type} (place : Input) (result : Except Fault (α × Input)) : Prop :=
  Starves sound result ∨ ∃ value, result = .ok (value, place)

/-- A reader that is given a front of a text starves or reads all of it, and one that is given
the text with more of the document behind it starves or reads the text. -/
structure Passes (sound : Prop) {α : Type} (reader : Input → Except Fault (α × Input))
    (text : Input) : Prop where
  front : ∀ front, front <+: text → Reaches sound [] (reader front)
  whole : ∀ rest, Delimited rest → Reaches sound rest (reader (text ++ rest))

/-- A reader that is given less than a text starves or reads all of it. -/
def StopsShort (sound : Prop) {α : Type} (reader : Input → Except Fault (α × Input))
    (text : Input) : Prop :=
  ∀ front missing, missing ≠ [] → text = front ++ missing → Reaches sound [] (reader front)

section Steps

variable {sound : Prop} {α β : Type}

theorem starves_of_truncated {fault : Fault} (ended : fault.cause.category = .truncated) :
    Starves sound (.error fault : Except Fault α) :=
  ⟨fault, rfl, fun _ => ended⟩

theorem Starves.inside {result : Except Fault α} (starves : Starves sound result)
    (segment : Segment) : Starves sound (inside segment result) := by
  rcases starves with ⟨fault, rfl, ended⟩
  exact ⟨fault.within segment, rfl, ended⟩

/-- Whatever comes after a reader that starves is not reached. -/
theorem Starves.bind {result : Except Fault α} (starves : Starves sound result)
    (next : α → Except Fault β) : Starves sound (result >>= next) := by
  rcases starves with ⟨fault, rfl, ended⟩
  exact ⟨fault, rfl, ended⟩

theorem Starves.weaken {other : Prop} (weaker : other → sound) {result : Except Fault α}
    (starves : Starves sound result) : Starves other result := by
  rcases starves with ⟨fault, failed, ended⟩
  exact ⟨fault, failed, fun holds => ended (weaker holds)⟩

theorem Reaches.inside {place : Input} {result : Except Fault (α × Input)}
    (reaches : Reaches sound place result) (segment : Segment) :
    Reaches sound place (inside segment result) := by
  rcases reaches with starves | ⟨value, rfl⟩
  · exact Or.inl (starves.inside segment)
  · exact Or.inr ⟨value, rfl⟩

theorem Reaches.bind {between place : Input} {result : Except Fault (α × Input)}
    (reaches : Reaches sound between result) {next : α × Input → Except Fault (β × Input)}
    (later : ∀ value, Reaches sound place (next (value, between))) :
    Reaches sound place (result >>= next) := by
  rcases reaches with starves | ⟨value, rfl⟩
  · exact Or.inl (starves.bind next)
  · exact later value

variable {reader : Input → Except Fault (α × Input)} {text : Input}

theorem Passes.weaken {other : Prop} (weaker : other → sound) (passes : Passes sound reader text) :
    Passes other reader text where
  front front within := (passes.front front within).imp_left (Starves.weaken weaker)
  whole rest delimited := (passes.whole rest delimited).imp_left (Starves.weaken weaker)

theorem Passes.stopsShort (passes : Passes sound reader text) : StopsShort sound reader text :=
  fun front missing _ split => passes.front front ⟨missing, split.symm⟩

/-- It is enough to look at what lacks some of the text, and at all of it. -/
theorem StopsShort.passes (lacking : StopsShort sound reader text)
    (whole : ∀ rest, Delimited rest → Reaches sound rest (reader (text ++ rest))) :
    Passes sound reader text := by
  refine ⟨fun front within => ?_, whole⟩
  by_cases same : front = text
  · have all := whole [] delimited_nil
    rwa [List.append_nil, ← same] at all
  · rcases exists_missing within same with ⟨missing, nonempty, split⟩
    exact lacking front missing nonempty split

/-- At a front of a text and of what follows it a reader starves or leaves a front of that. -/
theorem Passes.within {behind place : Input} (passes : Passes sound reader text)
    (delimited : ∀ beyond, beyond <+: behind → Delimited beyond)
    (within : place <+: text ++ behind) :
    ∃ beyond, beyond <+: behind ∧ Reaches sound beyond (reader place) := by
  rcases front_cases within with ⟨missing, _, split⟩ | ⟨beyond, rfl, further⟩
  · exact ⟨[], List.nil_prefix, passes.front place ⟨missing, split.symm⟩⟩
  · exact ⟨beyond, further, passes.whole beyond (delimited beyond further)⟩

theorem Passes.inside (passes : Passes sound reader text) (segment : Segment) :
    Passes sound (fun input => inside segment (reader input)) text where
  front front within := (passes.front front within).inside segment
  whole rest delimited := (passes.whole rest delimited).inside segment

theorem Passes.map (passes : Passes sound reader text) (image : α → β) :
    Passes sound (fun input => reader input >>= fun read => .ok (image read.1, read.2)) text where
  front front within := (passes.front front within).bind fun value => Or.inr ⟨image value, rfl⟩
  whole rest delimited := (passes.whole rest delimited).bind fun value => Or.inr ⟨image value, rfl⟩

/-- A colon may stand before the text. -/
theorem Passes.colon (passes : Passes sound reader text) :
    Passes sound (fun input => here (expectColon input) >>= reader) (0x3a :: text) where
  front front within := by
    cases front with
    | nil => exact Or.inl (starves_of_truncated rfl)
    | cons octet front =>
      rcases List.cons_prefix_cons.mp within with ⟨rfl, behind⟩
      exact passes.front front behind
  whole rest delimited := passes.whole rest delimited

/-- Behind its key, a member is passed if its value is. -/
theorem Passes.member (passes : Passes sound reader text) (key : String) (keep : α → β) :
    Passes sound (fun input => here (expectColon input) >>= fun rest =>
      Json.inside (.key key) (reader rest) >>= fun read => .ok (keep read.1, read.2))
        (0x3a :: text) :=
  ((passes.inside (.key key)).map keep).colon

end Steps

/-! ## Words and texts -/

theorem expectWord_front {word front missing : Input} (nonempty : missing ≠ [])
    (split : word = front ++ missing) : expectWord word front = .error .endInValue := by
  subst split
  induction front with
  | nil =>
    rcases List.exists_cons_of_ne_nil nonempty with ⟨letter, letters, rfl⟩
    rfl
  | cons letter front inductionHypothesis =>
    exact (if_pos rfl).trans inductionHypothesis

/-- The automaton for text runs out of input if there is more up to the closing quote. -/
theorem scanText_front {strict : Bool} {front missing octets : List UInt8}
    (nonempty : missing ≠ []) {state : TextState} {done : List UInt8}
    (scanned : scanText strict state done (front ++ missing) = .ok (octets, [])) :
    scanText strict state done front = .error .endInText := by
  induction front generalizing state done with
  | nil => rfl
  | cons octet front inductionHypothesis =>
    rw [List.cons_append, scanText] at scanned
    rw [scanText]
    cases stepped : textStep strict state octet with
    | error cause =>
      rw [stepped] at scanned
      cases scanned
    | ok move =>
      rw [stepped] at scanned
      cases move with
      | close =>
        have ended := congrArg Prod.snd (Except.ok.inj scanned)
        exact absurd (List.append_eq_nil_iff.mp ended).2 nonempty
      | produce produced next => exact inductionHypothesis scanned

theorem readText_front {text : String} {front missing : Input} (nonempty : missing ≠ [])
    (split : escapedOctets text ++ [0x22] = front ++ missing) :
    readText front = .error .endInText := by
  have read := readText_escapedOctets text []
  rw [split] at read
  rcases bind_eq_ok_iff.mp read with ⟨⟨octets, last⟩, scanned, done⟩
  dsimp only at done
  split at done
  · cases done
    rw [readText, scanText_front nonempty scanned]
    rfl
  · cases done

end Json
end LendingGateway
