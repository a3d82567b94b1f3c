import LendingGateway.Proofs.Text.Octets
import LendingGateway.Proofs.Text.Split
import LendingGateway.Web.Url
import Mathlib.Data.List.DropRight

namespace LendingGateway
namespace Web

/-!
# Paths and one more segment

Reading a path is a walk along its segments, where points stay or go up.  A path that ends
at points ends in an empty segment; a segment written behind it takes the place of this one,
and it stands behind every other path.  So the longer path is the shorter one without the
slashes at its end and with the segment, unless the shorter one is left with empty segments.
-/

/-- A text that stands in an address as it is and is a segment of its path. -/
structure IsSegment (name : String) : Prop where
  visible : ∀ c ∈ name.toList, 0x20 < c.toNat
  single : ∀ c ∈ name.toList, endsAuthority c = false
  plain : readStep name.toList = .down name

/-- A path without the empty segments at its end. -/
def withoutTrailing (path : List String) : List String :=
  path.rdropWhile (· == "")

/-! ## Walks -/

/-- The segments walked so far, in reverse, after one more that is not the last. -/
def enter (done : List String) : Step → List String
  | .stay => done
  | .up => goUp done
  | .down segment => segment :: done

/-- The segments walked so far, in reverse, after some more that are not the last. -/
def lead (done : List String) (segments : List (List Char)) : List String :=
  segments.foldl (fun done segment => enter done (readStep segment)) done

/-- What a path has at its end if the last segment is points. -/
def opened : Step → List String
  | .stay | .up => [""]
  | .down _ => []

theorem walk_cons (done : List String) (segment : List Char) {rest : List (List Char)}
    (further : rest ≠ []) :
    walk done (segment :: rest) = walk (enter done (readStep segment)) rest := by
  rw [walk]
  · cases readStep segment <;> rfl
  · exact further

theorem lead_concat (done : List String) (segments : List (List Char)) (last : List Char) :
    lead done (segments ++ [last]) = enter (lead done segments) (readStep last) := by
  rw [lead, List.foldl_append]
  rfl

theorem walk_concat (done : List String) (segments : List (List Char)) (last : List Char) :
    walk done (segments ++ [last]) =
      (lead done (segments ++ [last])).reverse ++ opened (readStep last) := by
  induction segments generalizing done with
  | nil =>
    rw [List.nil_append, walk, lead, List.foldl_cons, List.foldl_nil]
    cases readStep last with
    | stay => exact List.reverse_cons
    | up => exact List.reverse_cons
    | down segment => exact (List.append_nil _).symm
  | cons segment rest inductionHypothesis =>
    rw [List.cons_append, walk_cons done segment (List.append_ne_nil_of_right_ne_nil rest
      (List.cons_ne_nil last [])), inductionHypothesis]
    rfl

/-- Walking to one more segment keeps the segments walked so far. -/
theorem walk_concat_segment {name : String} (plain : readStep name.toList = .down name)
    (done : List String) (segments : List (List Char)) :
    walk done (segments ++ [name.toList]) = (lead done segments).reverse ++ [name] := by
  rw [walk_concat, lead_concat, plain, enter, opened, List.append_nil, List.reverse_cons]

/-! ## Empty segments -/

theorem encodeChar_ne_nil (set : Char → Bool) (c : Char) : encodeChar set c ≠ [] := by
  unfold encodeChar
  split
  · have size : (String.utf8EncodeChar c).length ≠ 0 := by
      rw [String.length_utf8EncodeChar]
      exact Nat.pos_iff_ne_zero.mp c.utf8Size_pos
    rw [Text.octets_ofList, List.flatMap_singleton]
    cases octets : String.utf8EncodeChar c with
    | nil => exact absurd (congrArg List.length octets) size
    | cons octet others => exact List.cons_ne_nil _ _
  · exact List.cons_ne_nil c []

theorem encodeSet_eq_empty_iff {set : Char → Bool} {text : List Char} :
    encodeSet set text = "" ↔ text = [] := by
  rw [← String.toList_inj, encodeSet, String.toList_ofList, String.toList_empty,
    List.flatMap_eq_nil_iff]
  refine ⟨fun empty => ?_, fun empty => by simp [empty]⟩
  exact List.eq_nil_iff_forall_not_mem.mpr fun c member =>
    encodeChar_ne_nil set c (empty c member)

/-- A text is encoded piece by piece. -/
theorem encodeSet_append (set : Char → Bool) (front back : List Char) :
    encodeSet set (front ++ back) = encodeSet set front ++ encodeSet set back := by
  rw [encodeSet, List.flatMap_append, String.ofList_append]
  rfl

/-- A segment that is not points stands for itself, encoded. -/
theorem encoded_of_readStep {text : List Char} {segment : String}
    (read : readStep text = .down segment) : segment = encodeSet inPathSet text := by
  unfold readStep at read
  dsimp only at read
  split at read
  · cases read
  · split at read
    · cases read
    · cases read
      rfl

theorem segment_of_readStep {text : List Char} {segment : String}
    (read : readStep text = .down segment) : segment = "" ↔ text = [] := by
  rw [encoded_of_readStep read, encodeSet_eq_empty_iff]

theorem withoutTrailing_concat_of_ne {segment : String} (said : segment ≠ "")
    (path : List String) : withoutTrailing (path ++ [segment]) = path ++ [segment] :=
  List.rdropWhile_concat_neg (· == "") path segment (by simpa using said)

theorem withoutTrailing_concat_empty (path : List String) :
    withoutTrailing (path ++ [""]) = withoutTrailing path :=
  List.rdropWhile_concat_pos (· == "") path "" rfl

theorem withoutTrailing_prefix_self (path : List String) : withoutTrailing path <+: path :=
  List.rdropWhile_prefix (· == "") path

theorem withoutTrailing_ne_concat_empty (path : List String) :
    withoutTrailing path ≠ path ++ [""] := by
  intro same
  have shorter := (withoutTrailing_prefix_self path).length_le
  rw [same, List.length_append] at shorter
  exact absurd shorter (Nat.not_succ_le_self path.length)

theorem withoutTrailing_eq_self_iff {path : List String} :
    withoutTrailing path = path ↔ path.getLast? ≠ some "" := by
  rcases List.eq_nil_or_concat path with rfl | ⟨front, segment, rfl⟩
  · exact iff_of_true rfl (by simp)
  · rw [List.concat_eq_append, List.getLast?_concat, ne_eq, Option.some.injEq]
    by_cases said : segment = ""
    · subst said
      rw [withoutTrailing_concat_empty]
      exact iff_of_false (withoutTrailing_ne_concat_empty front) (not_not_intro rfl)
    · exact iff_of_true (withoutTrailing_concat_of_ne said front) said

theorem two_empty_iff {path : List String} :
    ["", ""] <:+ path ++ [""] ↔ path.getLast? = some "" := by
  rw [← List.singleton_suffix_iff_getLast?_eq_some]
  change [""] ++ [""] <:+ path ++ [""] ↔ [""] <:+ path
  exact List.suffix_append_self_iff

/-- Where a walk leads is its path without the empty segments at the end, unless the last
segment of the walk is empty or the path ends in two empty segments. -/
theorem withoutTrailing_walk_iff (done : List String) (segments : List (List Char))
    (last : List Char) :
    withoutTrailing (walk done (segments ++ [last])) = (lead done (segments ++ [last])).reverse ↔
      last ≠ [] ∧ ¬ ["", ""] <:+ walk done (segments ++ [last]) := by
  have points : last ≠ [] → ∀ path : List String,
      (withoutTrailing (path ++ [""]) = path ↔ last ≠ [] ∧ ¬ ["", ""] <:+ path ++ [""]) := by
    intro some path
    rw [withoutTrailing_concat_empty, withoutTrailing_eq_self_iff, two_empty_iff]
    exact ⟨fun apart => ⟨some, apart⟩, And.right⟩
  rw [walk_concat]
  cases read : readStep last with
  | stay => exact points (by rintro rfl; cases read) _
  | up => exact points (by rintro rfl; cases read) _
  | down segment =>
    rw [opened, List.append_nil, lead_concat, read, enter, List.reverse_cons,
      withoutTrailing_eq_self_iff, List.getLast?_concat, ne_eq, Option.some.injEq,
      segment_of_readStep read]
    refine ⟨fun some => ⟨some, fun ends => ?_⟩, And.left⟩
    have closing : [""] <:+ (lead done segments).reverse ++ [segment] :=
      (List.suffix_cons "" [""]).trans ends
    rw [List.singleton_suffix_iff_getLast?_eq_some, List.getLast?_concat, Option.some.injEq,
      segment_of_readStep read] at closing
    exact some closing

/-! ## White space in a segment -/

section Low

variable {c : Char}

theorem mem_plainPoints {c : Char} (low : c.toNat ≤ 0x20) {segment : List Char}
    (member : c ∈ segment) : c ∈ plainPoints segment := by
  have percent : c ≠ '%' := Text.ne_of_low low (by decide)
  have two : c ≠ '2' := Text.ne_of_low low (by decide)
  fun_induction plainPoints segment with
  | case1 sign rest point inductionHypothesis =>
    simp only [List.mem_cons, percent, two, false_or] at member
    rcases member with rfl | behind
    · rcases point with rfl | rfl <;> exact absurd low (by decide)
    · exact List.mem_cons_of_mem _ (inductionHypothesis behind)
  | case2 sign rest point inductionHypothesis =>
    simp only [List.mem_cons, percent, two, false_or] at member ⊢
    exact inductionHypothesis (List.mem_cons.mpr member)
  | case3 first rest _ inductionHypothesis =>
    exact List.mem_cons.mpr ((List.mem_cons.mp member).imp_right inductionHypothesis)
  | case4 => exact member

/-- White space in a segment keeps it from being points. -/
theorem readStep_of_low {c : Char} (low : c.toNat ≤ 0x20) {segment : List Char}
    (member : c ∈ segment) : readStep segment = .down (encodeSet inPathSet segment) := by
  have inside := mem_plainPoints low member
  have noPoint : c ≠ '.' := Text.ne_of_low low (by decide)
  unfold readStep
  dsimp only
  rw [if_neg fun one => by rw [one] at inside; simp [noPoint] at inside,
    if_neg fun two => by rw [two] at inside; simp [noPoint] at inside]

theorem length_goUp_le (done : List String) : (goUp done).length ≤ done.length := by
  unfold goUp
  split
  · exact Nat.le_refl _
  · split
    · exact Nat.le_refl _
    · exact Nat.le_succ _

/-- A walk leads to another path if its last segment has some more text. -/
theorem withoutTrailing_walk_ne (done : List String) (segments : List (List Char))
    (last : List Char) {back : List Char} (filled : back ≠ []) :
    withoutTrailing (walk done (segments ++ [last])) ≠
      (lead done segments).reverse ++ [encodeSet inPathSet (last ++ back)] := by
  intro same
  have points : ∀ path : List String, path.length ≤ (lead done segments).length →
      withoutTrailing (path.reverse ++ [""]) ≠
        (lead done segments).reverse ++ [encodeSet inPathSet (last ++ back)] := by
    intro path short long
    have within := (withoutTrailing_prefix_self path.reverse).length_le
    rw [← withoutTrailing_concat_empty, long, List.length_append, List.length_reverse,
      List.length_reverse] at within
    exact absurd (Nat.le_trans within short) (Nat.not_succ_le_self _)
  rw [walk_concat, lead_concat] at same
  cases read : readStep last with
  | stay =>
    rw [read] at same
    exact points _ (Nat.le_refl _) same
  | up =>
    rw [read] at same
    exact points _ (length_goUp_le _) same
  | down segment =>
    rw [read, enter, opened, List.append_nil, List.reverse_cons] at same
    have ends := same ▸ withoutTrailing_prefix_self ((lead done segments).reverse ++ [segment])
    rw [List.prefix_append_right_inj, encoded_of_readStep read] at ends
    have whole := (List.cons.inj (ends.eq_of_length rfl)).1
    rw [encodeSet_append, String.append_eq_left_iff, encodeSet_eq_empty_iff] at whole
    exact filled whole

end Low

/-! ## Paths -/

variable {name : String}

/-- A segment has no slash of either kind and ends neither path nor query. -/
theorem IsSegment.ends (segment : IsSegment name) {c : Char} (member : c ∈ name.toList) :
    isSlash c = false ∧ c ≠ '/' ∧ c ≠ '?' ∧ c ≠ '#' := by
  have single := segment.single c member
  simp only [endsAuthority, Bool.or_eq_false_iff, beq_eq_false_iff_ne] at single
  rcases single with ⟨⟨⟨slash, backslash⟩, query⟩, fragment⟩
  exact ⟨by simp [isSlash, slash, backslash], slash, query, fragment⟩

/-- A segment behind a slash has neither of the marks that end a path. -/
theorem IsSegment.unmarked (segment : IsSegment name) :
    ∀ c ∈ '/' :: name.toList, c ≠ '?' ∧ c ≠ '#' :=
  List.forall_mem_cons.mpr ⟨by decide, fun _ member => (segment.ends member).2.2⟩

/-- Slashes of both kinds written as the one. -/
def slashed (text : List Char) : List Char :=
  text.map fun c => if isSlash c then '/' else c

theorem slashed_of_segment (segment : IsSegment name) : slashed name.toList = name.toList := by
  rw [slashed, List.map_congr_left fun c member => if_neg (by simp [(segment.ends member).1])]
  exact List.map_id _

theorem splitAt_segment (segment : IsSegment name) :
    Text.splitAt '/' name.toList = [name.toList] :=
  Text.splitAt_of_not_mem fun member => (segment.ends member).2.1 rfl

theorem slashed_append_segment (segment : IsSegment name) (text : List Char) :
    slashed (text ++ '/' :: name.toList) = slashed text ++ '/' :: name.toList := by
  rw [slashed, List.map_append, List.map_cons, ← slashed, ← slashed, slashed_of_segment segment]
  rfl

theorem readPath_cons {first : Char} (slash : isSlash first = true) (text : List Char) :
    readPath (first :: text) = walk [] (Text.splitAt '/' (slashed text)) := by
  simp only [readPath, slashed, List.map_cons, slash, if_true, List.head?_cons, List.tail_cons]

theorem getLast?_slashed (text : List Char) :
    (slashed text).getLast? = some '/' ↔ ∃ last, text.getLast? = some last ∧ isSlash last = true := by
  rw [slashed, List.getLast?_map, Option.map_eq_some_iff]
  refine exists_congr fun last => and_congr_right fun _ => ?_
  by_cases slash : isSlash last = true
  · exact iff_of_true (if_pos slash) slash
  · rw [if_neg slash]
    exact iff_of_false (by rintro rfl; exact slash rfl) slash

/-- A path that is empty or begins with a slash takes one more segment, before which it is
kept.  What is kept is the path without the slashes at its end, unless its text ends in a
slash or there are still two of them in the path. -/
theorem readPath_append (segment : IsSegment name) {path : List Char}
    (rooted : path = [] ∨ ∃ first rest, path = first :: rest ∧ isSlash first = true) :
    ∃ kept, (readPath path = kept ∨ readPath path = kept ++ [""]) ∧
      readPath (path ++ '/' :: name.toList) = kept ++ [name] ∧
      (withoutTrailing (readPath path) = kept ↔
        (∀ last, path.getLast? = some last → isSlash last = false) ∧
          ¬ ["", ""] <:+ readPath path) := by
  have alone := splitAt_segment segment
  rcases rooted with rfl | ⟨first, rest, rfl, slash⟩
  · refine ⟨[], Or.inr rfl, ?_, iff_of_true rfl ⟨by simp, by decide⟩⟩
    change walk [] (Text.splitAt '/' (slashed name.toList)) = _
    rw [slashed_of_segment segment, alone]
    exact walk_concat_segment segment.plain [] []
  · have front : slashed (first :: rest) = '/' :: slashed rest := by
      rw [slashed, List.map_cons, if_pos slash, slashed]
    rcases Text.exists_last_piece '/' (slashed rest) with ⟨before, last, pieces, empty⟩
    have closed : last ≠ [] ↔
        ∀ last, (first :: rest).getLast? = some last → isSlash last = false := by
      rw [ne_eq, empty, ← front, getLast?_slashed]
      simp
    refine ⟨(lead [] (before ++ [last])).reverse, ?_, ?_, ?_⟩
    · rw [readPath_cons slash, pieces, walk_concat]
      cases readStep last with
      | stay => exact Or.inr rfl
      | up => exact Or.inr rfl
      | down text => exact Or.inl (List.append_nil _)
    · rw [List.cons_append, readPath_cons slash, slashed_append_segment segment,
        Text.splitAt_append_separator, alone, pieces]
      exact walk_concat_segment segment.plain [] (before ++ [last])
    · rw [readPath_cons slash, pieces, withoutTrailing_walk_iff, closed]

/-- White space at the end of a path does not end it when one more segment follows: it becomes
part of the segment before, which the path does not have. -/
theorem readPath_append_low (segment : IsSegment name) {first : Char} {rest back : List Char}
    (slash : isSlash first = true) (filled : back ≠ []) (low : ∀ c ∈ back, c.toNat ≤ 0x20) :
    ∃ before, readPath (first :: (rest ++ back ++ '/' :: name.toList)) = before ++ [name] ∧
      withoutTrailing (readPath (first :: rest)) ≠ before := by
  have noSlash : ∀ c ∈ back, isSlash c = false := by
    intro c member
    have slash : c ≠ '/' := Text.ne_of_low (low c member) (by decide)
    have backslash : c ≠ '\\' := Text.ne_of_low (low c member) (by decide)
    simp [isSlash, slash, backslash]
  have same : slashed (rest ++ back) = slashed rest ++ back := by
    have kept : slashed back = back := by
      rw [slashed, List.map_congr_left fun c member => if_neg (by simp [noSlash c member])]
      exact List.map_id _
    rw [slashed, List.map_append, ← slashed, ← slashed, kept]
  have free : '/' ∉ back := fun member => absurd (noSlash '/' member) (by decide)
  rcases Text.exists_last_piece '/' (slashed rest) with ⟨before, last, pieces, _⟩
  have encoded : readStep (last ++ back) = .down (encodeSet inPathSet (last ++ back)) := by
    have inside := List.getLast_mem filled
    exact readStep_of_low (low _ inside) (List.mem_append_right last inside)
  refine ⟨(lead [] (before ++ [last ++ back])).reverse, ?_, ?_⟩
  · rw [readPath_cons slash, slashed_append_segment segment, Text.splitAt_append_separator,
      splitAt_segment segment, same, Text.splitAt_append_of_not_mem free pieces]
    exact walk_concat_segment segment.plain [] (before ++ [last ++ back])
  · rw [readPath_cons slash, pieces, lead_concat, encoded, enter, List.reverse_cons]
    exact withoutTrailing_walk_ne [] before last filled

end Web
end LendingGateway
