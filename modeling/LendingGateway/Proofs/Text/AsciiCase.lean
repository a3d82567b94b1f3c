import LendingGateway.Text.AsciiCase
import Mathlib.Data.List.Forall2

namespace LendingGateway
namespace Text

/-!
# Agreement up to ASCII case, letter by letter

Two texts agree up to ASCII case exactly if they have the same length and each two
characters at the same place are the same, or the capital and the small form of one of the
letters A to Z.
-/

/-- A letter from A to Z and its small form. -/
def IsCapitalOf (capital small : Char) : Prop :=
  'A' ≤ capital ∧ capital ≤ 'Z' ∧ small.toNat = capital.toNat + 32

/-- Two characters are the same or two forms of one ASCII letter. -/
def SameLetter (left right : Char) : Prop :=
  left = right ∨ IsCapitalOf left right ∨ IsCapitalOf right left

theorem toNat_toLower (c : Char) :
    c.toLower.toNat = if 'A' ≤ c ∧ c ≤ 'Z' then c.toNat + 32 else c.toNat := by
  have codes : ('A' ≤ c ∧ c ≤ 'Z') ↔ (c.val ≥ 'A'.val ∧ c.val ≤ 'Z'.val) := Iff.rfl
  by_cases capital : 'A' ≤ c ∧ c ≤ 'Z'
  · have bound : c.val.toNat ≤ 90 := capital.2
    have moved : c.toLower = _ := dif_pos (codes.mp capital)
    rw [if_pos capital, moved]
    change (c.val + 32).toNat = c.val.toNat + 32
    rw [UInt32.toNat_add]
    exact Nat.mod_eq_of_lt (by change c.val.toNat + 32 < 2 ^ 32; omega)
  · have kept : c.toLower = c := dif_neg fun inside => capital (codes.mpr inside)
    rw [if_neg capital, kept]

theorem toLower_eq_toLower_iff {left right : Char} :
    left.toLower = right.toLower ↔ SameLetter left right := by
  have codes : ∀ c : Char, ('A' ≤ c ∧ c ≤ 'Z') ↔ (65 ≤ c.toNat ∧ c.toNat ≤ 90) :=
    fun c => Iff.rfl
  rw [← Char.toNat_inj, toNat_toLower, toNat_toLower, SameLetter, ← Char.toNat_inj, IsCapitalOf,
    IsCapitalOf, ← and_assoc, ← and_assoc]
  simp only [codes]
  grind

theorem sameFold_iff_sameLetters {left right : String} :
    sameFold left right = true ↔ List.Forall₂ SameLetter left.toList right.toList := by
  rw [sameFold_iff, foldCase, foldCase, ← List.forall₂_eq_eq_eq, List.forall₂_map_left_iff,
    List.forall₂_map_right_iff]
  simp only [toLower_eq_toLower_iff]

end Text
end LendingGateway
