import LendingGateway.Text.Composition

namespace LendingGateway
namespace Text

/-!
# What composition keeps

A space or a control character of ASCII is no part of any other character, and no mark joins
it.  So composing a text canonically keeps each of them, whatever becomes of the rest.
-/

variable {code : Nat}

/-- The two parts of a listed character are visible. -/
theorem composedChars_visible :
    (composedChars.all fun entry => entry.images.all fun image => image.all (0x20 < ·)) = true := by
  unfold composedChars readMap tableEntries
  simp only [List.flatMap_cons]
  -- The lines of the table as lists of characters, which the kernel reads much faster.
  repeat rw [String.toList_ofList]
  decide +kernel

theorem visible_of_composingPairs {first second joined : Nat}
    (listed : ((first, second), joined) ∈ composingPairs) : 0x20 < first ∧ 0x20 < second := by
  rcases List.mem_flatMap.mp listed with ⟨⟨span, images⟩, entry, inside⟩
  rcases List.mem_filterMap.mp inside with ⟨⟨image, index⟩, place, pair⟩
  have visible := List.all_eq_true.mp
    (List.all_eq_true.mp composedChars_visible _ entry) image (List.fst_mem_of_mem_zipIdx place)
  dsimp only at pair
  split at pair
  · cases pair
    simpa using visible
  · cases pair

/-- Only visible characters are written as one. -/
theorem visible_of_pair? {first second joined : Nat} (joins : pair? first second = some joined) :
    0x20 < first ∧ 0x20 < second := by
  rcases Option.or_eq_some_iff.mp joins with hangul | ⟨_, listed⟩
  · unfold syllable? at hangul
    simp only [Bool.and_eq_true, decide_eq_true_eq] at hangul
    split at hangul
    · rename_i parts
      simp only [firstLeading, firstVowel] at parts
      omega
    · split at hangul
      · rename_i parts
        simp only [firstSyllable, noTrailing] at parts
        omega
      · cases hangul
  · rcases List.lookup_eq_some_iff.mp listed with ⟨before, after, whole, _⟩
    exact visible_of_composingPairs (whole ▸ List.mem_append_right before List.mem_cons_self)

/-- What no mark joins is written wherever it stands: as the base, passed or still to come. -/
theorem mem_joinMarks (low : code ≤ 0x20) (rest : List Ranked) :
    ∀ {base : Nat} {passed : List Ranked},
      code = base ∨ code ∈ passed.map Ranked.code ∨ code ∈ rest.map Ranked.code →
        code ∈ joinMarks base passed rest := by
  induction rest with
  | nil =>
    intro base passed member
    rw [joinMarks, List.mem_cons, List.map_reverse, List.mem_reverse]
    rcases member with same | inside | nowhere
    · exact Or.inl same
    · exact Or.inr inside
    · cases nowhere
  | cons next rest inductionHypothesis =>
    intro base passed member
    rw [List.map_cons, List.mem_cons] at member
    rw [joinMarks]
    split
    · rename_i joined joins
      have visible : 0x20 < base ∧ 0x20 < next.code := by
        split at joins
        · exact visible_of_pair? joins
        · cases joins
      refine inductionHypothesis (Or.inr ?_)
      rcases member with rfl | inside | rfl | behind
      · exact absurd visible.1 (Nat.not_lt.mpr low)
      · exact Or.inl inside
      · exact absurd visible.2 (Nat.not_lt.mpr low)
      · exact Or.inr behind
    · split
      · rw [List.mem_append, List.mem_cons, List.map_reverse, List.mem_reverse]
        rcases member with same | inside | same | behind
        · exact Or.inl (Or.inl same)
        · exact Or.inl (Or.inr inside)
        · exact Or.inr (inductionHypothesis (Or.inl same))
        · exact Or.inr (inductionHypothesis (Or.inr (Or.inr behind)))
      · refine inductionHypothesis ?_
        rw [List.map_cons, List.mem_cons]
        rcases member with same | inside | same | behind
        · exact Or.inl same
        · exact Or.inr (Or.inl (Or.inr inside))
        · exact Or.inr (Or.inl (Or.inl same))
        · exact Or.inr (Or.inr behind)

theorem mem_joinText (low : code ≤ 0x20) {text : List Ranked}
    (member : code ∈ text.map Ranked.code) : code ∈ joinText text := by
  induction text with
  | nil => cases member
  | cons next rest inductionHypothesis =>
    rw [List.map_cons, List.mem_cons] at member
    rw [joinText]
    split
    · exact mem_joinMarks low rest (member.imp_right Or.inr)
    · exact List.mem_cons.mpr (member.imp_right inductionHypothesis)

theorem mem_compose (low : code ≤ 0x20) {text : List Nat} (member : code ∈ text) :
    code ∈ compose text := by
  have whole : decompose code = [code] := by
    have part : partsOf code = [code] := if_pos (by omega)
    simp only [decompose, part, List.flatMap_singleton]
  unfold compose
  split
  · exact member
  · apply mem_joinText low
    refine ((orderMarks_perm _).map Ranked.code).mem_iff.mpr ?_
    rw [List.map_map]
    refine List.mem_map.mpr ⟨code, List.mem_flatMap.mpr ⟨code, member, ?_⟩, rfl⟩
    rw [whole]
    exact List.mem_singleton_self code

end Text
end LendingGateway
