import LendingGateway.Proofs.Text.AsciiCase
import LendingGateway.Proofs.Text.Composition
import LendingGateway.Proofs.Text.Percent
import LendingGateway.Proofs.Text.Split
import LendingGateway.Proofs.Traversal
import LendingGateway.Web.Url

namespace LendingGateway
namespace Web

/-!
# What names a host ends visibly

Spaces and control characters are dropped at the end of an address, but not before a path.
There they belong to the host or to the port, and neither can have them at its end: no step
of preparing a name loses one, a name must not hold one, an address in brackets ends in a
bracket and a port is made of digits.
-/

variable {c : Char}

theorem isForbidden_of_low (low : c.toNat ≤ 0x20) : isForbidden c = true := by
  rw [isForbidden, decide_eq_true low]
  rfl

/-- A space or a control character is kept when a name is prepared. -/
theorem mem_of_prepare? (low : c.toNat ≤ 0x20) {name prepared : List Char} (member : c ∈ name)
    (done : prepare? name = some prepared) : c ∈ prepared := by
  rcases Option.map_eq_some_iff.mp done with ⟨images, mapped, rfl⟩
  rcases Traversal.exists_of_mapM_eq_some mapped member with ⟨image, listed, own⟩
  have small : ¬ ('A' ≤ c ∧ c ≤ 'Z') := by
    rintro ⟨capital, _⟩
    have codes : 65 ≤ c.toNat := capital
    omega
  have same : [c.toNat] = image := by
    rw [mapChar?, if_pos (by omega), Text.toNat_toLower, if_neg small] at own
    exact Option.some.inj own
  have inside : c.toNat ∈ images.flatten :=
    List.mem_flatten.mpr ⟨image, listed, same ▸ List.mem_singleton_self _⟩
  exact List.mem_map.mpr ⟨c.toNat, Text.mem_compose low inside, Char.ofNat_toNat c⟩

theorem readLabels?_of_low (low : c.toNat ≤ 0x20) {name : List Char} (member : c ∈ name) :
    readLabels? name = none := by
  have noPoint : c ≠ '.' := Text.ne_of_low low (by decide)
  cases done : prepare? name with
  | none =>
    rw [readLabels?, done]
    rfl
  | some prepared =>
    rcases Text.mem_splitAt noPoint (mem_of_prepare? low member done) with ⟨piece, listed, inside⟩
    have refused : Label.ofPrepared? piece = none :=
      if_pos (List.any_eq_true.mpr ⟨c, inside, isForbidden_of_low low⟩)
    have labels : (Text.splitAt '.' prepared).mapM Label.ofPrepared? = none := by
      rw [Option.eq_none_iff_forall_ne_some]
      intro labels all
      rcases Traversal.exists_of_mapM_eq_some all listed with ⟨label, _, read⟩
      rw [refused] at read
      cases read
    rw [readLabels?, done, Option.bind_eq_bind, Option.bind_some, labels]
    rfl

/-- Giving octets by their numbers does not hide a space or a control character. -/
theorem readName?_of_low (low : c.toNat ≤ 0x20) {text : List Char} (member : c ∈ text) :
    readName? text = none := by
  have ascii : c.toNat < 0x80 := by omega
  have octet := Text.toNat_toUInt8 ascii
  have plain : c.toNat.toUInt8 ≠ 0x25 := by
    intro same
    rw [same] at octet
    have percent : (0x25 : UInt8).toNat = 37 := rfl
    omega
  have noDigit : Text.hexValue? c.toNat.toUInt8 = none := by
    have below : ∀ octet : UInt8, octet.toNat ≤ 0x20 → Text.hexValue? octet = none :=
      Text.octet_forall (by decide +kernel)
    exact below _ (octet.symm ▸ low)
  have decoded := Text.mem_percentDecode plain noDigit
    ((Text.mem_octets_iff ascii (String.ofList text)).mpr (by rwa [String.toList_ofList]))
  unfold readName?
  cases read : Text.ofOctets? (Text.percentDecode (Text.octets (String.ofList text))) with
  | none => rfl
  | some name =>
    rw [← Text.octets_of_ofOctets? read, Text.mem_octets_iff ascii] at decoded
    rw [Option.bind_eq_bind, Option.bind_some, readLabels?_of_low low decoded]
    rfl

theorem Host.read?_of_low_end {text : List Char} (ends : text.getLast? = some c)
    (low : c.toNat ≤ 0x20) : Host.read? text = none := by
  unfold Host.read?
  split
  · rename_i inner
    have unclosed : inner.getLast? ≠ some ']' := by
      intro closed
      rw [List.getLast?_cons, closed, Option.getD_some, Option.some.injEq] at ends
      exact Text.ne_of_low low (by decide) ends.symm
    rw [if_neg unclosed]
  · rw [readName?_of_low low (List.mem_of_getLast? ends)]
    rfl

/-! ## The host and the port -/

theorem digitsValue?_of_low (low : c.toNat ≤ 0x20) (base : Nat) {digits : List Char}
    (member : c ∈ digits) : Text.digitsValue? base digits = none := by
  have noDigit : Text.digitValue? base c = none := by
    have below : ∀ digit : Char, 0x20 < digit.toNat → ¬ digit ≤ c := by
      intro digit visible inside
      have codes : digit.toNat ≤ c.toNat := inside
      omega
    rw [Text.digitValue?, if_neg fun inside => below '0' (by decide) inside.1,
      if_neg fun inside => below 'a' (by decide) inside.1,
      if_neg fun inside => below 'A' (by decide) inside.1]
    rfl
  have fails : ∀ total : Nat, digits.foldlM
      (fun total c => (Text.digitValue? base c).map (total * base + ·)) total = none := by
    induction digits with
    | nil => cases member
    | cons first rest inductionHypothesis =>
      intro total
      rw [List.foldlM_cons, Option.bind_eq_bind]
      rcases List.mem_cons.mp member with rfl | behind
      · rw [noDigit]
        rfl
      · exact Option.bind_eq_none_iff.mpr fun total _ => inductionHypothesis behind total
  exact fails 0

theorem readPort?_of_low (low : c.toNat ≤ 0x20) (scheme : Scheme) {digits : List Char}
    (member : c ∈ digits) : readPort? scheme (some digits) = none := by
  cases digits with
  | nil => cases member
  | cons first rest =>
    rw [readPort?, digitsValue?_of_low low 10 member]
    · rfl
    · exact fun empty => by cases empty

/-- A text ends where its port does, and where its host does if it has none. -/
theorem splitPort_end (noColon : c ≠ ':') {text : List Char} (ends : text.getLast? = some c)
    (bracketed : Bool) :
    (splitPort bracketed text).2 = none ∧ (splitPort bracketed text).1.getLast? = some c ∨
      ∃ digits, (splitPort bracketed text).2 = some digits ∧ c ∈ digits := by
  induction text generalizing bracketed with
  | nil => cases ends
  | cons first rest inductionHypothesis =>
    rw [splitPort]
    split
    · rename_i colon
      refine Or.inr ⟨rest, rfl, ?_⟩
      exact (List.mem_cons.mp (List.mem_of_getLast? ends)).resolve_left fun same =>
        noColon (same.trans colon.1)
    · dsimp only
      cases rest with
      | nil => exact Or.inl ⟨rfl, ends⟩
      | cons second others =>
        rw [List.getLast?_cons_cons] at ends
        rcases inductionHypothesis ends _ with ⟨noPort, host⟩ | port
        · refine Or.inl ⟨noPort, ?_⟩
          rw [List.getLast?_cons, host]
          rfl
        · exact Or.inr port

theorem splitUser_end (noAt : c ≠ '@') {authority : List Char}
    (ends : authority.getLast? = some c) : (splitUser authority).2.getLast? = some c := by
  unfold splitUser
  dsimp only
  split
  · exact ends
  · rw [List.getLast?_reverse]
    rw [← List.head?_reverse] at ends
    cases backward : authority.reverse with
    | nil =>
      rw [backward] at ends
      cases ends
    | cons first others =>
      rw [backward] at ends
      cases ends
      simp [noAt]

end Web
end LendingGateway
