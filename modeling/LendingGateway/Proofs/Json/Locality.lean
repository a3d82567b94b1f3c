import LendingGateway.Proofs.Json.Reading

namespace LendingGateway
namespace Json

open Traversal

/-!
# What a reader looks at

The reader of trees never looks further than one octet behind what it reads: a number has to
meet an octet that does not continue it, and everything else ends by itself.  So the text of
a value can be cut out of a document, or put into another one, and is read as the same tree.
-/

/-! ## Steps along an input -/

/-- A step from an input to what is left of it takes a text off the front, and takes the same
text off the front of any other input that goes on with the same octet. -/
def Local (step : Input → Input → Prop) : Prop :=
  ∀ ⦃input after : Input⦄, step input after →
    ∃ text, input = text ++ after ∧
      ∀ other : Input, other.head? = after.head? → step (text ++ other) other

/-- A step takes a text off the front that ends by itself, so anything may follow it. -/
def Closed (step : Input → Input → Prop) : Prop :=
  ∀ ⦃input after : Input⦄, step input after →
    ∃ text, text ≠ [] ∧ input = text ++ after ∧ ∀ other, step (text ++ other) other

section Steps

variable {first second : Input → Input → Prop}

theorem Closed.isLocal (closed : Closed first) : Local first := by
  intro input after step
  rcases closed step with ⟨text, _, split, keeps⟩
  exact ⟨text, split, fun other _ => keeps other⟩

theorem Local.length_le (keeps : Local first) {input after : Input} (step : first input after) :
    after.length ≤ input.length := by
  rcases keeps step with ⟨text, rfl, _⟩
  rw [List.length_append]
  exact Nat.le_add_left _ _

theorem Closed.length_lt (closed : Closed first) {input after : Input} (step : first input after) :
    after.length < input.length := by
  rcases closed step with ⟨text, some, rfl, _⟩
  rw [List.length_append]
  exact Nat.lt_add_of_pos_left (List.length_pos_of_ne_nil some)

/-- Two local steps one after the other are a local step. -/
theorem Local.comp (before : Local first) (behind : Local second) :
    Local fun input after => ∃ between, first input between ∧ second between after := by
  rintro input after ⟨between, left, right⟩
  rcases before left with ⟨text, rfl, keeps⟩
  rcases behind right with ⟨more, rfl, goes⟩
  refine ⟨text ++ more, (List.append_assoc _ _ _).symm, ?_⟩
  intro other alike
  have same : (more ++ other).head? = (more ++ after).head? := by
    rw [List.head?_append, List.head?_append, alike]
  rw [List.append_assoc]
  exact ⟨more ++ other, keeps _ same, goes other alike⟩

theorem Local.comp_closed (before : Local first) (behind : Closed second) :
    Closed fun input after => ∃ between, first input between ∧ second between after := by
  rintro input after ⟨between, left, right⟩
  rcases before left with ⟨text, rfl, keeps⟩
  rcases behind right with ⟨more, some, rfl, goes⟩
  rcases List.exists_cons_of_ne_nil some with ⟨octet, others, rfl⟩
  refine ⟨text ++ octet :: others, ?_, (List.append_assoc _ _ _).symm, ?_⟩
  · exact List.append_ne_nil_of_right_ne_nil _ some
  · intro other
    rw [List.append_assoc]
    exact ⟨octet :: others ++ other, keeps _ rfl, goes other⟩

end Steps

/-! ## Gaps, words and text -/

/-- A run of octets of one kind ends where an octet of another kind follows, or none. -/
theorem exists_run (kind : UInt8 → Bool) (input : Input) :
    ∃ run, input = run ++ input.dropWhile kind ∧ input.takeWhile kind = run ∧
      ∀ other : Input, other.head? = (input.dropWhile kind).head? →
        (run ++ other).takeWhile kind = run ∧ (run ++ other).dropWhile kind = other := by
  have within : ∀ octet ∈ input.takeWhile kind, kind octet = true := fun octet member =>
    List.all_eq_true.mp List.all_takeWhile octet member
  refine ⟨input.takeWhile kind, List.takeWhile_append_dropWhile.symm, rfl, ?_⟩
  intro other alike
  rw [List.takeWhile_append_of_pos within, List.dropWhile_append_of_pos within]
  have stops := List.head?_dropWhile_not kind input
  rw [← alike] at stops
  cases other with
  | nil => exact ⟨List.append_nil _, rfl⟩
  | cons octet rest =>
    have different : ¬ kind octet = true := Bool.eq_false_iff.mp stops
    rw [List.takeWhile_cons_of_neg different, List.dropWhile_cons_of_neg different]
    exact ⟨List.append_nil _, rfl⟩

theorem local_skipGap : Local fun input after => skipGap input = after := by
  rintro input _ rfl
  rcases exists_run isGap input with ⟨gap, split, _, keeps⟩
  exact ⟨gap, split, fun other alike => (keeps other alike).2⟩

/-- A mark after a gap. -/
theorem closed_mark (mark : UInt8) : Closed fun input after => skipGap input = mark :: after := by
  intro input after starts
  rcases local_skipGap starts with ⟨gap, split, keeps⟩
  refine ⟨gap ++ [mark], List.append_ne_nil_of_right_ne_nil _ (List.cons_ne_nil _ _), ?_, ?_⟩
  · rw [split, List.append_assoc]
    rfl
  · intro other
    rw [List.append_assoc]
    exact keeps _ rfl

theorem local_expectWord (word : List UInt8) :
    Local fun input after => expectWord word input = .ok after := by
  induction word with
  | nil =>
    intro input after met
    cases met
    exact ⟨[], rfl, fun other _ => rfl⟩
  | cons letter letters inductionHypothesis =>
    intro input after met
    cases input with
    | nil => cases met
    | cons octet rest =>
      rw [expectWord] at met
      split at met
      · rename_i same
        rcases inductionHypothesis met with ⟨text, rfl, keeps⟩
        refine ⟨octet :: text, rfl, fun other alike => ?_⟩
        exact (if_pos same).trans (keeps other alike)
      · cases met

/-- Quoted text ends by itself, with its closing quote. -/
theorem closed_scanText (strict : Bool) (octets : List UInt8) (state : TextState)
    (done : List UInt8) :
    Closed fun input after => scanText strict state done input = .ok (octets, after) := by
  intro input
  induction input generalizing state done with
  | nil =>
    intro after impossible
    cases impossible
  | cons octet rest inductionHypothesis =>
    intro after scanned
    rw [scanText] at scanned
    split at scanned
    · cases scanned
    · rename_i closes
      cases scanned
      refine ⟨[octet], List.cons_ne_nil _ _, rfl, fun other => ?_⟩
      change scanText strict state done (octet :: other) = _
      rw [scanText, closes]
    · rename_i produced next stepped
      rcases inductionHypothesis _ _ scanned with ⟨text, _, rfl, keeps⟩
      refine ⟨octet :: text, List.cons_ne_nil _ _, rfl, fun other => ?_⟩
      change scanText strict state done (octet :: (text ++ other)) = _
      rw [scanText, stepped]
      exact keeps other

theorem closed_readText (text : String) :
    Closed fun input after => readText input = .ok (text, after) := by
  intro input after read
  rcases readText_eq_ok_iff.mp read with ⟨octets, scanned, known⟩
  rcases closed_scanText _ _ _ _ scanned with ⟨quoted, some, split, keeps⟩
  exact ⟨quoted, some, split, fun other => readText_eq_ok_iff.mpr ⟨octets, keeps other, known⟩⟩

/-! ## Numbers -/

section Numbers

variable (ended : Cause)

theorem local_takeDigits (digits : List Nat) :
    Local fun input after => takeDigits input = (digits, after) := by
  intro input after taken
  cases taken
  rcases exists_run isDigit input with ⟨run, split, same, keeps⟩
  refine ⟨run, split, fun other alike => ?_⟩
  rcases keeps other alike with ⟨taken, dropped⟩
  unfold takeDigits
  rw [taken, dropped, same]

theorem local_lexDigits (digits : List Nat) :
    Local fun input after => lexDigits ended input = .ok (digits, after) := by
  intro input after lexed
  rcases lexDigits_cases lexed with ⟨octet, others, rfl, digit, taken⟩
  rw [takeDigits_cons digit] at taken
  cases taken
  rcases local_takeDigits _ (rfl : takeDigits others = (_, _)) with ⟨text, split, keeps⟩
  refine ⟨octet :: text, congrArg (octet :: ·) split, fun other alike => ?_⟩
  have taken : takeDigits (text ++ other) = ((takeDigits others).1, other) := keeps other alike
  change lexDigits ended (octet :: (text ++ other)) = _
  rw [lexDigits_of_digit ended digit, takeDigits_cons digit, taken]

theorem local_lexWhole (digits : List Nat) :
    Local fun input after => lexWhole ended input = .ok (digits, after) := by
  intro input after lexed
  rcases lexWhole_cases lexed with
    ⟨others, rfl, alone, taken⟩ | ⟨octet, others, rfl, positive, digit, taken⟩
  · cases taken
    exact ⟨[0x30], rfl, fun other alike => lexWhole_zero ended (alike ▸ alone)⟩
  · rw [takeDigits_cons digit] at taken
    cases taken
    rcases local_takeDigits _ (rfl : takeDigits others = (_, _)) with ⟨text, split, keeps⟩
    refine ⟨octet :: text, congrArg (octet :: ·) split, fun other alike => ?_⟩
    have taken : takeDigits (text ++ other) = ((takeDigits others).1, other) := keeps other alike
    change lexWhole ended (octet :: (text ++ other)) = _
    rw [lexWhole_of_digit ended positive digit, takeDigits_cons digit, taken]

theorem local_lexFraction (fraction : Option (List Nat)) :
    Local fun input after => lexFraction ended input = .ok (fraction, after) := by
  intro input after lexed
  rcases lexFraction_cases lexed with ⟨others, digits, rfl, read, rfl⟩ | ⟨point, rfl, rfl⟩
  · rcases local_lexDigits ended digits read with ⟨text, rfl, keeps⟩
    refine ⟨0x2e :: text, rfl, fun other alike => ?_⟩
    exact (lexFraction_point ended (text ++ other)).trans
      (bind_eq_ok_iff.mpr ⟨_, keeps other alike, rfl⟩)
  · exact ⟨[], rfl, fun other alike => lexFraction_none ended (alike ▸ point)⟩

theorem local_signOf (negative : Bool) :
    Local fun input after => signOf input = (negative, after) := by
  intro input after signed
  unfold signOf at signed
  split at signed
  · cases signed
    exact ⟨[0x2b], rfl, fun _ _ => rfl⟩
  · cases signed
    exact ⟨[0x2d], rfl, fun _ _ => rfl⟩
  · rename_i plus minus
    cases signed
    refine ⟨[], rfl, fun other alike => ?_⟩
    cases other with
    | nil => rfl
    | cons octet rest =>
      rcases List.head?_eq_some_iff.mp alike.symm with ⟨others, rfl⟩
      refine signOf_of_ne ?_ ?_ rest
      · exact fun same => plus others (congrArg (· :: others) same)
      · exact fun same => minus others (congrArg (· :: others) same)

theorem local_minusOf (negative : Bool) :
    Local fun input after => minusOf input = (negative, after) := by
  intro input after signed
  unfold minusOf at signed
  split at signed
  · cases signed
    exact ⟨[0x2d], rfl, fun _ _ => rfl⟩
  · rename_i minus
    cases signed
    refine ⟨[], rfl, fun other alike => ?_⟩
    cases other with
    | nil => rfl
    | cons octet rest =>
      rcases List.head?_eq_some_iff.mp alike.symm with ⟨others, rfl⟩
      exact minusOf_of_ne (fun same => minus others (congrArg (· :: others) same)) rest

theorem local_lexExponent (exponent : Option (Bool × List Nat)) :
    Local fun input after => lexExponent ended input = .ok (exponent, after) := by
  intro input after lexed
  rcases lexExponent_cases lexed with
    ⟨octet, others, digits, rfl, letter, read, rfl⟩ | ⟨other, rfl, rfl⟩
  · rcases ((local_signOf _).comp (local_lexDigits ended digits))
      ⟨(signOf others).2, (rfl : signOf others = (_, _)), read⟩ with ⟨text, rfl, keeps⟩
    refine ⟨octet :: text, rfl, fun other alike => ?_⟩
    rcases keeps other alike with ⟨unsigned, sign, read⟩
    change lexExponent ended (octet :: (text ++ other)) = _
    rw [lexExponent_letter ended letter, sign, read]
    rfl
  · exact ⟨[], rfl, fun same alike => lexExponent_none ended (alike ▸ other)⟩

theorem local_lexLiteral (literal : Literal) :
    Local fun input after => lexLiteral ended input = .ok (literal, after) := by
  intro input after lexed
  rcases lexLiteral_eq_ok_iff.mp lexed with
    ⟨whole, fraction, beyondWhole, beyondFraction, first, second, third, same⟩
  have parts := (local_minusOf (minusOf input).1).comp ((local_lexWhole ended whole).comp
    ((local_lexFraction ended fraction).comp
      (local_lexExponent ended literal.exponent)))
  rcases parts ⟨_, rfl, _, first, _, second, third⟩ with ⟨text, split, keeps⟩
  refine ⟨text, split, fun other alike => ?_⟩
  rcases keeps other alike with
    ⟨unsigned, minus, beyondWhole, first, beyondFraction, second, third⟩
  apply lexLiteral_eq_ok_iff.mpr
  rw [minus]
  exact ⟨whole, fraction, beyondWhole, beyondFraction, first, second, third, same⟩

theorem local_readNumeral (number : Numeral) :
    Local fun input after => readNumeral input = .ok (number, after) := by
  intro input after read
  rcases bind_eq_ok_iff.mp read with ⟨⟨literal, last⟩, lexed, valued⟩
  rcases bind_eq_ok_iff.mp valued with ⟨value, meant, done⟩
  cases done
  rcases local_lexLiteral _ literal lexed with ⟨text, split, keeps⟩
  refine ⟨text, split, fun other alike => ?_⟩
  exact bind_eq_ok_iff.mpr ⟨_, keeps other alike, bind_eq_ok_iff.mpr ⟨_, meant, rfl⟩⟩

end Numbers

/-! ## Elements and keys -/

theorem local_nextElement (first more : Bool) :
    Local fun input place => nextElement first input = .ok (more, place) := by
  intro input place next
  cases nextElement_eq_ok_iff.mp next with
  | close starts =>
    rcases local_skipGap starts with ⟨gap, split, keeps⟩
    refine ⟨gap, split, fun other alike => ?_⟩
    rcases List.head?_eq_some_iff.mp alike with ⟨rest, rfl⟩
    exact nextElement_eq_ok_iff.mpr (.close (keeps _ rfl))
  | opening begins starts element =>
    rcases local_skipGap starts with ⟨gap, split, keeps⟩
    refine ⟨gap, split, fun other alike => ?_⟩
    rcases List.head?_eq_some_iff.mp alike with ⟨rest, rfl⟩
    exact nextElement_eq_ok_iff.mpr (.opening begins (keeps _ rfl) element)
  | comma continues starts following element =>
    rcases ((closed_mark 0x2c).isLocal.comp local_skipGap) ⟨_, starts, following⟩ with
      ⟨gap, split, keeps⟩
    refine ⟨gap, split, fun other alike => ?_⟩
    rcases List.head?_eq_some_iff.mp alike with ⟨rest, rfl⟩
    rcases keeps (_ :: rest) rfl with ⟨between, starts, following⟩
    exact nextElement_eq_ok_iff.mpr (.comma continues starts following element)

theorem local_nextKey (first : Bool) (key? : Option String) :
    Local fun input beyond => nextKey first input = .ok (key?, beyond) := by
  intro input beyond next
  cases nextKey_eq_ok_iff.mp next with
  | close starts =>
    rcases local_skipGap starts with ⟨gap, split, keeps⟩
    refine ⟨gap, split, fun other alike => ?_⟩
    rcases List.head?_eq_some_iff.mp alike with ⟨rest, rfl⟩
    exact nextKey_eq_ok_iff.mpr (.close (keeps _ rfl))
  | @opening key _ _ begins starts text =>
    have parts := (closed_mark 0x22).isLocal.comp (closed_readText key).isLocal
    rcases parts ⟨_, starts, text⟩ with ⟨front, split, keeps⟩
    refine ⟨front, split, fun other alike => ?_⟩
    rcases keeps other alike with ⟨quoted, starts, text⟩
    exact nextKey_eq_ok_iff.mpr (.opening begins starts text)
  | @comma key _ _ _ continues starts following text =>
    have parts := (closed_mark 0x2c).isLocal.comp
      ((closed_mark 0x22).isLocal.comp (closed_readText key).isLocal)
    rcases parts ⟨_, starts, _, following, text⟩ with ⟨front, split, keeps⟩
    refine ⟨front, split, fun other alike => ?_⟩
    rcases keeps other alike with ⟨between, starts, quoted, following, text⟩
    exact nextKey_eq_ok_iff.mpr (.comma continues starts following text)

end Json
end LendingGateway
