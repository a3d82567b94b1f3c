namespace LendingGateway
namespace Text

/-!
# Equality up to ASCII case

Asset symbols and media types are compared without regard to the case of the
letters A to Z.  Every other character must agree exactly, so `É` and `é` differ.
-/

/-- A text with each ASCII capital replaced by its small letter. -/
def foldCase (text : String) : List Char :=
  text.toList.map Char.toLower

/-- Whether two texts agree up to ASCII case. -/
def sameFold (left right : String) : Bool :=
  foldCase left == foldCase right

theorem sameFold_iff {left right : String} :
    sameFold left right = true ↔ foldCase left = foldCase right := by
  simp [sameFold]

@[simp]
theorem sameFold_refl (text : String) : sameFold text text = true := by
  simp [sameFold]

theorem sameFold_comm (left right : String) : sameFold left right = sameFold right left := by
  rw [Bool.eq_iff_iff, sameFold_iff, sameFold_iff]
  exact eq_comm

theorem sameFold_congr_left {first second : String} (same : sameFold first second = true)
    (right : String) : sameFold first right = sameFold second right := by
  simp only [sameFold, sameFold_iff.mp same]

end Text
end LendingGateway
