import LendingGateway.Proofs.Text.Octets
import LendingGateway.Text.Percent

namespace LendingGateway
namespace Text

/-!
# Percent-encoded octets

A text may be written with every octet as a percent sign and two hexadecimal digits.  Both
digits may have either case.  Decoding such a text gives the octets back, also where they
are those of a percent sign.
-/

/-- Some characters are the given octets, each of them as a percent sign and two digits. -/
inductive PercentEncodes : List Char → List UInt8 → Prop
  | nil : PercentEncodes [] []
  | octet {high low upper lower : UInt8} {chars : List Char} {bytes : List UInt8}
      (first : hexValue? high = some upper) (second : hexValue? low = some lower)
      (rest : PercentEncodes chars bytes) :
      PercentEncodes ('%' :: Char.ofNat high.toNat :: Char.ofNat low.toNat :: chars)
        ((upper * 16 + lower) :: bytes)

/-- What holds of the codes of all octets holds of all octets. -/
theorem octet_forall {holds : UInt8 → Prop} (each : ∀ code : Fin 256, holds (UInt8.ofNat code))
    (octet : UInt8) : holds octet := by
  have own := each ⟨octet.toNat, octet.toNat_lt⟩
  rwa [UInt8.ofNat_toNat] at own

/-- A hexadecimal digit is a character of its own, and one of few. -/
theorem hexDigit_char {digit value : UInt8} (hex : hexValue? digit = some value) :
    String.utf8EncodeChar (Char.ofNat digit.toNat) = [digit] ∧
      Char.ofNat digit.toNat ∈ "0123456789ABCDEFabcdef".toList := by
  have each : ∀ digit : UInt8, (hexValue? digit).isSome = true →
      String.utf8EncodeChar (Char.ofNat digit.toNat) = [digit] ∧
        Char.ofNat digit.toNat ∈ "0123456789ABCDEFabcdef".toList :=
    octet_forall (by decide +kernel)
  exact each digit (hex ▸ rfl)

/-- The two digits of an octet stand for it. -/
theorem hexValue?_percentTriple (octet : UInt8) :
    hexValue? (hexCapital (octet / 16)) = some (octet / 16) ∧
      hexValue? (hexCapital (octet % 16)) = some (octet % 16) ∧
        octet / 16 * 16 + octet % 16 = octet := by
  revert octet
  exact octet_forall (by decide +kernel)

/-- No other characters occur than the percent sign and the digits. -/
theorem PercentEncodes.chars {chars : List Char} {bytes : List UInt8}
    (encodes : PercentEncodes chars bytes) :
    ∀ c ∈ chars, c ∈ "%0123456789ABCDEFabcdef".toList := by
  induction encodes with
  | nil => exact fun c impossible => absurd impossible List.not_mem_nil
  | octet first second _ inductionHypothesis =>
    rw [List.forall_mem_cons, List.forall_mem_cons, List.forall_mem_cons]
    exact ⟨by decide, List.mem_cons_of_mem _ (hexDigit_char first).2,
      List.mem_cons_of_mem _ (hexDigit_char second).2, inductionHypothesis⟩

/-- Decoding gives the octets back. -/
theorem PercentEncodes.decode {chars : List Char} {bytes : List UInt8}
    (encodes : PercentEncodes chars bytes) :
    percentDecode (octets (String.ofList chars)) = bytes := by
  rw [octets_ofList]
  induction encodes with
  | nil => rfl
  | octet first second _ inductionHypothesis =>
    have percent : String.utf8EncodeChar '%' = [0x25] := by decide
    rw [List.flatMap_cons, List.flatMap_cons, List.flatMap_cons, percent,
      (hexDigit_char first).1, (hexDigit_char second).1]
    simp only [List.cons_append, List.nil_append]
    rw [percentDecode, first, second, inductionHypothesis]

theorem PercentEncodes.ne_nil {chars : List Char} {bytes : List UInt8}
    (encodes : PercentEncodes chars bytes) (nonempty : bytes ≠ []) : chars ≠ [] := by
  cases encodes with
  | nil => exact absurd rfl nonempty
  | octet => exact List.cons_ne_nil _ _

/-- The encoding with capital digits is one of them. -/
theorem percentEncodes_percentEncode (bytes : List UInt8) :
    PercentEncodes ((percentEncode bytes).map fun octet => Char.ofNat octet.toNat) bytes := by
  induction bytes with
  | nil => exact PercentEncodes.nil
  | cons octet bytes inductionHypothesis =>
    rcases hexValue?_percentTriple octet with ⟨upper, lower, whole⟩
    have encodes := PercentEncodes.octet upper lower inductionHypothesis
    rw [whole] at encodes
    exact encodes

/-- An octet that no percent-encoding is made of stays. -/
theorem mem_percentDecode {octet : UInt8} (plain : octet ≠ 0x25) (noDigit : hexValue? octet = none)
    {bytes : List UInt8} (member : octet ∈ bytes) : octet ∈ percentDecode bytes := by
  fun_induction percentDecode bytes with
  | case1 high low rest upper lower second first inductionHypothesis =>
    simp only [List.mem_cons] at member
    rcases member with rfl | rfl | rfl | behind
    · exact absurd rfl plain
    · rw [noDigit] at first
      cases first
    · rw [noDigit] at second
      cases second
    · exact List.mem_cons_of_mem _ (inductionHypothesis behind)
  | case2 high low rest _ inductionHypothesis =>
    exact List.mem_cons_of_mem _
      (inductionHypothesis ((List.mem_cons.mp member).resolve_left plain))
  | case3 first rest _ inductionHypothesis =>
    rw [List.mem_cons] at member ⊢
    exact member.imp_right inductionHypothesis
  | case4 => exact member

end Text
end LendingGateway
