import LendingGateway.Text.Utf8

namespace LendingGateway
namespace Text

/-!
# The octets of a text, character by character

The octets of a text are those of its characters, one after the other.  The encoding
keeps the order of the code points, so sorting identifiers as texts is the same as
sorting them by their octets.
-/

theorem octets_ofList (chars : List Char) :
    octets (String.ofList chars) = chars.flatMap String.utf8EncodeChar := by
  change (List.utf8Encode chars).data.toList = _
  simp only [List.utf8Encode, List.data_toByteArray, List.toList_toArray]

theorem octets_eq_flatMap (text : String) :
    octets text = text.toList.flatMap String.utf8EncodeChar := by
  rw [← octets_ofList, String.ofList_toList]

theorem utf8EncodeChar_of_lt {c : Char} (ascii : c.toNat < 0x80) :
    String.utf8EncodeChar c = [c.toNat.toUInt8] := by
  have size : c.utf8Size = 1 := Char.utf8Size_eq_one_iff.mpr (by
    rw [UInt32.le_iff_toNat_le]
    exact Nat.le_of_lt_succ ascii)
  rw [String.utf8EncodeChar_eq_singleton size]
  rfl

theorem octets_of_ofOctets? {bytes : List UInt8} {text : String}
    (read : ofOctets? bytes = some text) : octets text = bytes := by
  unfold ofOctets? String.fromUTF8? at read
  split at read
  · cases read
    rfl
  · cases read

/-! ## Fronts -/

/-- What stands behind a well formed front of well formed octets is well formed. -/
theorem isValidUTF8_behind {chars : List Char} {behind : ByteArray}
    (valid : (chars.utf8Encode ++ behind).IsValidUTF8) : behind.IsValidUTF8 := by
  induction chars with
  | nil => rwa [List.utf8Encode_nil, ByteArray.empty_append] at valid
  | cons c chars inductionHypothesis =>
    rw [← List.singleton_append, List.utf8Encode_append, ByteArray.append_assoc] at valid
    exact inductionHypothesis (ByteArray.isValidUTF8_utf8Encode_singleton_append_iff.mp valid)

/-- A text whose octets begin with those of another one begins with it. -/
theorem exists_append_of_octets {front text : String} (within : octets front <+: octets text) :
    ∃ behind, text = front ++ behind := by
  rcases within with ⟨others, split⟩
  have whole : text.toByteArray = front.toByteArray ++ ⟨others.toArray⟩ := by
    apply ByteArray.ext
    apply Array.toList_inj.mp
    rw [ByteArray.data_append, Array.toList_append]
    exact split.symm
  have valid : (⟨others.toArray⟩ : ByteArray).IsValidUTF8 := by
    have all := text.isValidUTF8
    rw [whole, ← String.ofList_toList (s := front), String.toByteArray_ofList] at all
    exact isValidUTF8_behind all
  refine ⟨⟨_, valid⟩, String.toByteArray_inj.mp ?_⟩
  rw [String.toByteArray_append]
  exact whole

/-! ## ASCII -/

/-- A space or a control character is not a visible one. -/
theorem ne_of_low {c visible : Char} (low : c.toNat ≤ 0x20) (seen : 0x20 < visible.toNat) :
    c ≠ visible := by
  rintro rfl
  exact absurd low (Nat.not_le.mpr seen)

/-- The octets of a character outside ASCII are all outside ASCII. -/
theorem high_of_mem_utf8EncodeChar {c : Char} (outside : 0x80 ≤ c.toNat) {octet : UInt8}
    (member : octet ∈ String.utf8EncodeChar c) : 0x80 ≤ octet.toNat := by
  have long : ¬ c.val.toNat ≤ 0x7f := Nat.not_le.mpr outside
  unfold String.utf8EncodeChar at member
  dsimp only at member
  rw [if_neg long] at member
  split at member
  · simp only [List.mem_cons, List.not_mem_nil, or_false] at member
    rcases member with rfl | rfl <;> (rw [UInt8.toNat_ofNat']; omega)
  split at member
  · simp only [List.mem_cons, List.not_mem_nil, or_false] at member
    rcases member with rfl | rfl | rfl <;> (rw [UInt8.toNat_ofNat']; omega)
  · simp only [List.mem_cons, List.not_mem_nil, or_false] at member
    rcases member with rfl | rfl | rfl | rfl <;> (rw [UInt8.toNat_ofNat']; omega)

theorem toNat_toUInt8 {c : Char} (ascii : c.toNat < 0x80) : c.toNat.toUInt8.toNat = c.toNat := by
  rw [Nat.toUInt8, UInt8.toNat_ofNat', Nat.mod_eq_of_lt (by omega)]

/-- The octet of an ASCII character stands in a text exactly for that character. -/
theorem mem_octets_iff {c : Char} (ascii : c.toNat < 0x80) (text : String) :
    c.toNat.toUInt8 ∈ octets text ↔ c ∈ text.toList := by
  rw [octets_eq_flatMap, List.mem_flatMap]
  constructor
  · rintro ⟨other, member, inside⟩
    by_cases plain : other.toNat < 0x80
    · rw [utf8EncodeChar_of_lt plain, List.mem_singleton, ← UInt8.toNat_inj, toNat_toUInt8 ascii,
        toNat_toUInt8 plain] at inside
      rwa [Char.toNat_inj.mp inside]
    · have high := high_of_mem_utf8EncodeChar (Nat.not_lt.mp plain) inside
      rw [toNat_toUInt8 ascii] at high
      exact absurd ascii (Nat.not_lt.mpr high)
  · intro member
    refine ⟨c, member, ?_⟩
    rw [utf8EncodeChar_of_lt ascii]
    exact List.mem_singleton_self _

/-! ## Order -/

/-- The lesser of two characters has the lesser octets, whatever follows them.  Leading
octets tell characters of different lengths apart, and for one length the octets are the
digits of the code point to base sixty-four. -/
theorem utf8EncodeChar_append_lt {left right : Char} (less : left < right)
    (leftRest rightRest : List UInt8) :
    String.utf8EncodeChar left ++ leftRest < String.utf8EncodeChar right ++ rightRest := by
  have codes : left.val.toNat < right.val.toNat := less
  have top : right.val.toNat ≤ 0x10ffff := by
    have valid := right.valid
    simp only [UInt32.isValidChar, Nat.isValidChar] at valid
    omega
  unfold String.utf8EncodeChar
  dsimp only
  -- Each character takes one to four octets, which makes sixteen cases of plain arithmetic.
  repeat' split
  all_goals
    simp only [List.cons_append, List.nil_append, List.cons_lt_cons_iff, UInt8.lt_iff_toNat_lt,
      ← UInt8.toNat_inj, UInt8.toNat_ofNat']
    simp (disch := omega) only [Nat.mod_eq_of_lt]
    omega

private theorem flatMap_utf8EncodeChar_lt {left right : List Char} (less : left < right) :
    left.flatMap String.utf8EncodeChar < right.flatMap String.utf8EncodeChar := by
  induction less with
  | nil =>
    rename_i first others
    rw [List.flatMap_nil, List.flatMap_cons]
    cases encoded : String.utf8EncodeChar first with
    | nil => exact absurd encoded String.utf8EncodeChar_ne_nil
    | cons octet octets => exact List.Lex.nil
  | rel below =>
    rw [List.flatMap_cons, List.flatMap_cons]
    exact utf8EncodeChar_append_lt below _ _
  | cons _ inductionHypothesis =>
    rw [List.flatMap_cons, List.flatMap_cons]
    exact List.append_left_lt inductionHypothesis

/-- Texts are ordered as their octets are. -/
theorem octets_lt_octets_iff {left right : String} :
    octets left < octets right ↔ left < right := by
  have keeps : ∀ {first second : String}, first < second → octets first < octets second := by
    intro first second less
    rw [octets_eq_flatMap, octets_eq_flatMap]
    exact flatMap_utf8EncodeChar_lt (String.lt_iff.mp less)
  constructor
  · intro less
    rcases Std.lt_trichotomy left right with below | same | above
    · exact below
    · subst same
      exact absurd less (List.lt_irrefl _)
    · exact absurd less (List.lt_asymm (keeps above))
  · exact keeps

end Text
end LendingGateway
