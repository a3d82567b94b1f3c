import LendingGateway.Json.Tree
import LendingGateway.Proofs.Text.Octets
import LendingGateway.Proofs.Traversal

namespace LendingGateway
namespace Json

open Traversal

/-!
# Text between quotes

The automaton undoes the escapes of the writer one character at a time: from between two
characters it comes back there, and what it has produced on the way are the octets of the
character.  Nothing the writer leaves unescaped can be taken for a quote, a backslash or a
control character, because all octets of a longer character are above those.
-/

theorem scanText_produce {strict : Bool} {state next : TextState} {octet : UInt8}
    {produced : List UInt8} (step : textStep strict state octet = .ok (.produce produced next))
    (done : List UInt8) (rest : Input) :
    scanText strict state done (octet :: rest) =
      scanText strict next (produced.reverse ++ done) rest := by
  rw [scanText, step]

/-! ## Characters that stand for themselves -/

/-- Octets that may stand between quotes as they are. -/
def StandsForItself (octet : UInt8) : Prop :=
  octet ≠ 0x22 ∧ octet ≠ 0x5c ∧ ¬ octet < 0x20

theorem scanText_append_plain {strict : Bool} {octets : List UInt8}
    (plain : ∀ octet ∈ octets, StandsForItself octet) (done : List UInt8) (rest : Input) :
    scanText strict .plain done (octets ++ rest) =
      scanText strict .plain (octets.reverse ++ done) rest := by
  induction octets generalizing done with
  | nil => rfl
  | cons octet octets inductionHypothesis =>
    rw [List.forall_mem_cons] at plain
    rcases plain.1 with ⟨quote, backslash, control⟩
    have step : textStep strict .plain octet = .ok (.produce [octet] .plain) := by
      rw [textStep, if_neg quote, if_neg backslash, if_neg control]
    have turned : (octet :: octets).reverse ++ done = octets.reverse ++ ([octet] ++ done) := by
      rw [List.reverse_cons, List.append_assoc]
    rw [List.cons_append, scanText_produce step, turned]
    exact inductionHypothesis plain.2 _

/-- An octet of a character is the code of that character, or it is above all codes of one
octet. -/
theorem standsForItself_utf8EncodeChar {c : Char} (quote : c ≠ '"') (backslash : c ≠ '\\')
    (control : ¬ c.toNat < 0x20) :
    ∀ octet ∈ String.utf8EncodeChar c, StandsForItself octet := by
  have notQuote : c.val.toNat ≠ 0x22 := fun same => quote (Char.toNat_inj.mp same)
  have notBackslash : c.val.toNat ≠ 0x5c := fun same => backslash (Char.toNat_inj.mp same)
  have notControl : ¬ c.val.toNat < 0x20 := control
  unfold String.utf8EncodeChar
  dsimp only
  repeat' split
  all_goals
    simp only [List.forall_mem_cons, List.not_mem_nil, false_implies, implies_true, and_true,
      StandsForItself, UInt8.lt_iff_toNat_lt, ne_eq, ← UInt8.toNat_inj,
      UInt8.toNat_ofNat', UInt8.reduceToNat]
    omega

/-! ## Escapes -/

theorem scanText_simpleEscape {strict : Bool} {letter meant : UInt8}
    (known : simpleEscape? letter = some meant) (done : List UInt8) (rest : Input) :
    scanText strict .plain done (0x5c :: letter :: rest) =
      scanText strict .plain (meant :: done) rest := by
  have different : letter ≠ 0x75 := by
    rintro rfl
    cases known
  have opened : textStep strict .plain 0x5c = .ok (.produce [] .escape) := rfl
  have closed : textStep strict .escape letter = .ok (.produce [meant] .plain) := by
    rw [textStep, if_neg different, known]
  rw [scanText_produce opened, scanText_produce closed]
  rfl

/-- An escape by number, of a code point that is no surrogate. -/
theorem scanText_unit {first second third last : UInt8} {code : Nat}
    (known : hexNumber? [last, third, second, first] = some code) (low : code < 0xd800)
    (done : List UInt8) (rest : Input) :
    scanText true .plain done (0x5c :: 0x75 :: first :: second :: third :: last :: rest) =
      scanText true .plain ((encodeCode code).reverse ++ done) rest := by
  have opened : textStep true .plain 0x5c = .ok (.produce [] .escape) := rfl
  have begun : textStep true .escape 0x75 = .ok (.produce [] (.unit [])) := rfl
  have one : textStep true (.unit []) first = .ok (.produce [] (.unit [first])) := rfl
  have two : textStep true (.unit [first]) second = .ok (.produce [] (.unit [second, first])) := rfl
  have three : textStep true (.unit [second, first]) third =
      .ok (.produce [] (.unit [third, second, first])) := rfl
  have four : textStep true (.unit [third, second, first]) last =
      .ok (.produce (encodeCode code) .plain) := by
    change closeUnit true [last, third, second, first] = _
    rw [closeUnit, known]
    dsimp only
    rw [if_neg (by decide), if_neg (by omega), if_neg (by omega)]
  rw [scanText_produce opened, scanText_produce begun, scanText_produce one,
    scanText_produce two, scanText_produce three, scanText_produce four]
  rfl

/-- The digits of a control character give its code. -/
theorem hexNumber?_control : ∀ code : Fin 0x20,
    hexNumber? [(Nat.digitChar (code % 16)).toNat.toUInt8,
      (Nat.digitChar (code / 16)).toNat.toUInt8, 0x30, 0x30] = some code.val := by
  decide

theorem utf8EncodeChar_digitChar : ∀ digit : Fin 16,
    String.utf8EncodeChar (Nat.digitChar digit) = [(Nat.digitChar digit).toNat.toUInt8] := by
  decide

/-- One character as it is written is read as that character. -/
theorem scanText_escapedChar (c : Char) (done : List UInt8) (rest : Input) :
    scanText true .plain done ((escapedChar c).flatMap String.utf8EncodeChar ++ rest) =
      scanText true .plain ((String.utf8EncodeChar c).reverse ++ done) rest := by
  unfold escapedChar
  split
  · rename_i quote
    rw [beq_iff_eq.mp quote]
    exact scanText_simpleEscape rfl done rest
  rename_i notQuote
  split
  · rename_i backslash
    rw [beq_iff_eq.mp backslash]
    exact scanText_simpleEscape rfl done rest
  rename_i notBackslash
  split
  · rename_i backspace
    rw [beq_iff_eq.mp backspace]
    exact scanText_simpleEscape rfl done rest
  split
  · rename_i tab
    rw [beq_iff_eq.mp tab]
    exact scanText_simpleEscape rfl done rest
  split
  · rename_i lineFeed
    rw [beq_iff_eq.mp lineFeed]
    exact scanText_simpleEscape rfl done rest
  split
  · rename_i formFeed
    rw [beq_iff_eq.mp formFeed]
    exact scanText_simpleEscape rfl done rest
  split
  · rename_i carriageReturn
    rw [beq_iff_eq.mp carriageReturn]
    exact scanText_simpleEscape rfl done rest
  split
  · rename_i control
    have known := hexNumber?_control ⟨c.toNat, control⟩
    have upper := utf8EncodeChar_digitChar ⟨c.toNat / 16, by omega⟩
    have lower := utf8EncodeChar_digitChar ⟨c.toNat % 16, by omega⟩
    dsimp only at known upper lower
    simp only [List.flatMap_cons, List.flatMap_nil, upper, lower]
    have same : encodeCode c.toNat = String.utf8EncodeChar c := by
      rw [encodeCode, Char.ofNat_toNat]
    rw [← same]
    exact scanText_unit known (by omega) done rest
  · rename_i notControl
    rw [List.flatMap_cons, List.flatMap_nil, List.append_nil]
    exact scanText_append_plain (standsForItself_utf8EncodeChar
      (fun same => notQuote (beq_iff_eq.mpr same))
      (fun same => notBackslash (beq_iff_eq.mpr same)) notControl) done rest

/-! ## Whole texts -/

theorem scanText_escaped (chars : List Char) (done : List UInt8) (rest : Input) :
    scanText true .plain done
        ((chars.flatMap escapedChar).flatMap String.utf8EncodeChar ++ rest) =
      scanText true .plain ((chars.flatMap String.utf8EncodeChar).reverse ++ done) rest := by
  induction chars generalizing done with
  | nil => rfl
  | cons c chars inductionHypothesis =>
    rw [List.flatMap_cons, List.flatMap_append, List.append_assoc, scanText_escapedChar,
      inductionHypothesis, List.flatMap_cons, List.reverse_append, List.append_assoc]

/-- The octets between the quotes of a text. -/
def escapedOctets (text : String) : List UInt8 :=
  Text.octets (String.ofList (text.toList.flatMap escapedChar))

theorem octets_renderText (text : String) :
    Text.octets (renderText text) = 0x22 :: (escapedOctets text ++ [0x22]) := by
  have quote : Text.octets "\"" = [0x22] := rfl
  rw [renderText, Text.octets_append, Text.octets_append, quote]
  rfl

/-- A text as it is written is read as that text.  The opening quote has been read. -/
theorem readText_escapedOctets (text : String) (rest : Input) :
    readText (escapedOctets text ++ 0x22 :: rest) = .ok (text, rest) := by
  have closed : ∀ done, scanText true .plain done (0x22 :: rest) = .ok (done.reverse, rest) :=
    fun done => rfl
  have scanned := scanText_escaped text.toList [] (0x22 :: rest)
  rw [closed, List.append_nil, List.reverse_reverse, ← Text.octets_eq_flatMap,
    ← Text.octets_ofList] at scanned
  apply bind_eq_ok_iff.mpr
  refine ⟨_, scanned, ?_⟩
  dsimp only
  rw [Text.ofOctets?_octets]

end Json
end LendingGateway
