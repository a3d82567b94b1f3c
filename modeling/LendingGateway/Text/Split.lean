namespace LendingGateway
namespace Text

/-!
# Splitting text

A text is split at every occurrence of a character.  There is always one piece more than
there are occurrences, so the empty text has one piece, which is empty.
-/

/-- Split a list of characters at every occurrence of a separator. -/
def splitAt (separator : Char) : List Char → List (List Char)
  | [] => [[]]
  | c :: rest =>
    if c = separator then [] :: splitAt separator rest
    else
      match splitAt separator rest with
      | [] => [[c]]
      | piece :: pieces => (c :: piece) :: pieces

/-- There is one piece more than there are separators. -/
theorem length_splitAt (separator : Char) (chars : List Char) :
    (splitAt separator chars).length = chars.count separator + 1 := by
  induction chars with
  | nil => rfl
  | cons c rest step =>
    by_cases same : c = separator
    · simp [splitAt, same, step]
    · cases pieces : splitAt separator rest with
      | nil => simp [pieces] at step
      | cons piece others =>
        rw [pieces] at step
        simpa [splitAt, same, pieces, List.count_cons] using step

end Text
end LendingGateway
