import LendingGateway.Proofs.Web.Host
import LendingGateway.Proofs.Web.Path
import Mathlib.Data.List.TakeWhile

namespace LendingGateway
namespace Web

/-!
# Addresses below a base

A text written behind a base address does not change what names the host, if something ends
this before.  It is read behind whatever stands last in the base: in its fragment, in its
query, or in its path, where a segment becomes one more segment.  Only the end of the base may
read differently then, since white space and control characters at the end of an address are
dropped and those inside it are not: behind the host they leave no address at all, and behind
a path they become part of its last segment.
-/

/-! ## The first character of a class in a joined text -/

section Stops

variable {keep : Char → Bool} {front back : List Char}

theorem dropWhile_append_of_stops
    (stops : front.dropWhile keep ≠ [] ∨ back.dropWhile keep = back) :
    (front ++ back).dropWhile keep = front.dropWhile keep ++ back := by
  rw [List.dropWhile_append]
  cases rest : front.dropWhile keep with
  | nil =>
    rcases stops with inside | behind
    · exact absurd rest inside
    · exact behind
  | cons c others => rfl

theorem takeWhile_append_of_stops
    (stops : front.dropWhile keep ≠ [] ∨ back.dropWhile keep = back) :
    (front ++ back).takeWhile keep = front.takeWhile keep := by
  have split : (front ++ back).takeWhile keep ++ (front.dropWhile keep ++ back) =
      front.takeWhile keep ++ (front.dropWhile keep ++ back) := by
    rw [← dropWhile_append_of_stops stops, List.takeWhile_append_dropWhile,
      dropWhile_append_of_stops stops, ← List.append_assoc, List.takeWhile_append_dropWhile]
  exact List.append_cancel_right split

end Stops

/-! ## What is dropped from an address -/

/-- A character that is dropped at both ends of an address. -/
def isEdge (c : Char) : Bool :=
  c.toNat ≤ 0x20

/-- A character that is kept inside an address: no tab and no line end. -/
def isKept (c : Char) : Bool :=
  !(c == '\t' || c == '\n' || c == '\r')

/-- The last character of a text, tabs and line ends apart. -/
def lastSeen? (text : List Char) : Option Char :=
  (text.filter isKept).getLast?

/-- What is dropped at the end of a text, and is kept when something stands behind it. -/
def loose (text : List Char) : List Char :=
  ((text.dropWhile isEdge).rtakeWhile isEdge).filter isKept

theorem isKept_of_visible {c : Char} (visible : 0x20 < c.toNat) : isKept c = true := by
  rw [isKept, Bool.not_eq_true', Bool.or_eq_false_iff, Bool.or_eq_false_iff, beq_eq_false_iff_ne,
    beq_eq_false_iff_ne, beq_eq_false_iff_ne]
  refine ⟨⟨?_, ?_⟩, ?_⟩ <;>
  · rintro rfl
    exact absurd visible (by decide)

theorem not_isEdge_of_visible {c : Char} (visible : 0x20 < c.toNat) : ¬ isEdge c = true := by
  rw [isEdge, decide_eq_true_eq]
  exact Nat.not_le.mpr visible

theorem tidy_eq (text : List Char) :
    tidy text = ((text.dropWhile isEdge).rdropWhile isEdge).filter isKept :=
  rfl

theorem tidy_append_loose (text : List Char) :
    tidy text ++ loose text = (text.dropWhile isEdge).filter isKept := by
  rw [tidy_eq, loose, ← List.filter_append, List.rdropWhile_append_rtakeWhile]

/-- Behind a text, a visible one keeps what was loose at the end. -/
theorem tidy_append (text : List Char) {back : List Char} (visible : ∀ c ∈ back, 0x20 < c.toNat)
    (filled : back ≠ []) : tidy (text ++ back) = tidy text ++ loose text ++ back := by
  have front : (text ++ back).dropWhile isEdge = text.dropWhile isEdge ++ back := by
    apply dropWhile_append_of_stops
    cases back with
    | nil => exact absurd rfl filled
    | cons c rest =>
      exact Or.inr (List.dropWhile_cons_of_neg
        (not_isEdge_of_visible (visible c List.mem_cons_self)))
  have behind : (text.dropWhile isEdge ++ back).rdropWhile isEdge =
      text.dropWhile isEdge ++ back := by
    rw [List.rdropWhile_eq_self_iff]
    intro nonempty
    rw [List.getLast_append_of_right_ne_nil _ back filled]
    exact not_isEdge_of_visible (visible _ (List.getLast_mem filled))
  have kept : back.filter isKept = back :=
    List.filter_eq_self.mpr fun c member => isKept_of_visible (visible c member)
  rw [tidy_eq, front, behind, List.filter_append, kept, tidy_append_loose]

/-- Nothing is loose behind a visible end, which is also the end of what is left. -/
theorem tidy_of_lastSeen {text : List Char} {last : Char} (seen : lastSeen? text = some last)
    (visible : 0x20 < last.toNat) : loose text = [] ∧ (tidy text).getLast? = some last := by
  have noEdge : ∀ chars : List Char, (∀ c ∈ chars, isEdge c = true) →
      (chars.filter isKept).getLast? ≠ some last := by
    intro chars edges ends
    have member := List.mem_of_getLast? ends
    exact not_isEdge_of_visible visible (edges last (List.mem_filter.mp member).1)
  have whole : text.filter isKept =
      (text.takeWhile isEdge).filter isKept ++ (tidy text ++ loose text) := by
    rw [tidy_append_loose, ← List.filter_append, List.takeWhile_append_dropWhile]
  rw [lastSeen?, whole, List.getLast?_append, List.getLast?_append] at seen
  have looseLast : (loose text).getLast? ≠ some last :=
    noEdge _ fun c member => List.mem_rtakeWhile_imp member
  have leadingLast := noEdge (text.takeWhile isEdge) fun c member => List.mem_takeWhile_imp member
  cases dropped : (loose text).getLast? with
  | some c =>
    rw [dropped] at seen looseLast
    exact absurd seen looseLast
  | none =>
    rw [dropped, Option.none_or] at seen
    refine ⟨List.getLast?_eq_none_iff.mp dropped, ?_⟩
    cases left : (tidy text).getLast? with
    | some c =>
      rw [left] at seen
      exact seen
    | none =>
      rw [left] at seen
      exact absurd seen leadingLast

theorem low_of_mem_loose {text : List Char} {c : Char} (member : c ∈ loose text) :
    c.toNat ≤ 0x20 := by
  have edge : isEdge c = true := List.mem_rtakeWhile_imp (List.mem_filter.mp member).1
  exact of_decide_eq_true edge

/-- What is left of an address ends visibly. -/
theorem visible_of_tidy {text : List Char} {last : Char} (ends : (tidy text).getLast? = some last) :
    0x20 < last.toNat := by
  rw [tidy_eq] at ends
  rcases List.eq_nil_or_concat ((text.dropWhile isEdge).rdropWhile isEdge) with
    empty | ⟨front, c, whole⟩
  · rw [empty] at ends
    cases ends
  · have visible : 0x20 < c.toNat := by
      have stays := List.rdropWhile_last_not isEdge (text.dropWhile isEdge) (by simp [whole])
      simpa [whole, isEdge] using stays
    rw [whole, List.concat_eq_append, List.filter_append,
      List.filter_cons_of_pos (isKept_of_visible visible), List.filter_nil,
      List.getLast?_concat] at ends
    cases ends
    exact visible

/-- An address ends visibly exactly if nothing is dropped at its end but tabs and line ends. -/
theorem loose_eq_nil_iff {text : List Char} (filled : tidy text ≠ []) :
    loose text = [] ↔ ∃ last, lastSeen? text = some last ∧ 0x20 < last.toNat := by
  constructor
  · intro nothing
    have whole : text.filter isKept = (text.takeWhile isEdge).filter isKept ++ tidy text := by
      rw [← List.append_nil (tidy text), ← nothing, tidy_append_loose, ← List.filter_append,
        List.takeWhile_append_dropWhile]
    refine ⟨(tidy text).getLast filled, ?_, visible_of_tidy (List.getLast?_eq_some_getLast filled)⟩
    rw [lastSeen?, whole, List.getLast?_append_of_ne_nil _ filled,
      List.getLast?_eq_some_getLast filled]
  · rintro ⟨last, seen, visible⟩
    exact (tidy_of_lastSeen seen visible).1

/-! ## What stands behind the host -/

theorem tail?_dropWhile_eq_none_iff {mark : Char} {text : List Char} :
    (text.dropWhile (· != mark)).tail? = none ↔ ∀ c ∈ text, c ≠ mark := by
  have first : (text.dropWhile (· != mark)).tail? = none ↔ text.dropWhile (· != mark) = [] := by
    cases text.dropWhile (· != mark) with
    | nil => exact iff_of_true rfl rfl
    | cons c rest => exact iff_of_false (Option.some_ne_none rest) (List.cons_ne_nil c rest)
  rw [first, List.dropWhile_eq_nil_iff]
  simp only [bne_iff_ne]

/-- What follows the host is a path alone if neither mark stands in it. -/
theorem readTail_eq_iff {text : List Char} {path : List String} :
    readTail text = (path, none, none) ↔
      (∀ c ∈ text, c ≠ '?' ∧ c ≠ '#') ∧ readPath text = path := by
  have whole : ∀ {mark : Char} {chars : List Char}, (∀ c ∈ chars, c ≠ mark) →
      chars.takeWhile (· != mark) = chars :=
    fun free => List.takeWhile_eq_self_iff.mpr fun c member => bne_iff_ne.mpr (free c member)
  simp only [readTail, Prod.mk.injEq, Option.map_eq_none_iff, tail?_dropWhile_eq_none_iff]
  constructor
  · rintro ⟨path, query, fragment⟩
    rw [whole fragment] at query path
    rw [whole query] at path
    exact ⟨fun c member => ⟨query c member, fragment c member⟩, path⟩
  · rintro ⟨free, path⟩
    have query := fun c member => (free c member).1
    have fragment := fun c member => (free c member).2
    rw [whole fragment, whole query]
    exact ⟨path, query, fragment⟩

/-- What follows the host is nothing, or it begins with a character that ends the host. -/
theorem dropWhile_endsAuthority (text : List Char) :
    text.dropWhile (fun c => !endsAuthority c) = [] ∨
      ∃ first rest, text.dropWhile (fun c => !endsAuthority c) = first :: rest ∧
        endsAuthority first = true := by
  have first := List.head?_dropWhile_not (fun c => !endsAuthority c) text
  cases tail : text.dropWhile (fun c => !endsAuthority c) with
  | nil => exact Or.inl rfl
  | cons c rest =>
    rw [tail] at first
    exact Or.inr ⟨c, rest, rfl, by simpa using first⟩

/-- A text behind a fragment is part of it. -/
theorem readTail_append_fragment {tail : List Char} {fragment : String}
    (read : (readTail tail).2.2 = some fragment) (back : List Char) :
    readTail (tail ++ back) =
      ((readTail tail).1, (readTail tail).2.1, some (fragment ++ encodeSet inFragmentSet back)) := by
  have marked : tail.dropWhile (· != '#') ≠ [] := by
    intro none
    simp [readTail, none] at read
  have body : (tail ++ back).takeWhile (· != '#') = tail.takeWhile (· != '#') :=
    takeWhile_append_of_stops (Or.inl marked)
  have behind : (tail ++ back).dropWhile (· != '#') = tail.dropWhile (· != '#') ++ back :=
    dropWhile_append_of_stops (Or.inl marked)
  simp only [readTail, body, behind] at read ⊢
  cases split : tail.dropWhile (· != '#') with
  | nil => exact absurd split marked
  | cons mark rest =>
    rw [split] at read
    cases read
    rw [List.cons_append, List.tail?_cons, Option.map_some, encodeSet_append]

/-- A text behind a query that no fragment follows is part of it. -/
theorem readTail_append_query {tail : List Char} {query : String}
    (read : (readTail tail).2.1 = some query) (noFragment : (readTail tail).2.2 = none)
    {back : List Char} (free : ∀ c ∈ back, c ≠ '#') :
    readTail (tail ++ back) =
      ((readTail tail).1, some (query ++ encodeSet inQuerySet back), none) := by
  have unmarked : ∀ c ∈ tail, c ≠ '#' :=
    tail?_dropWhile_eq_none_iff.mp (Option.map_eq_none_iff.mp noFragment)
  have whole : ∀ {chars : List Char}, (∀ c ∈ chars, c ≠ '#') →
      chars.takeWhile (· != '#') = chars ∧ chars.dropWhile (· != '#') = [] := by
    intro chars free
    have kept : ∀ c ∈ chars, (c != '#') = true := fun c member => bne_iff_ne.mpr (free c member)
    exact ⟨List.takeWhile_eq_self_iff.mpr kept, List.dropWhile_eq_nil_iff.mpr kept⟩
  have joined := whole (List.forall_mem_append.mpr ⟨unmarked, free⟩)
  have marked : tail.dropWhile (· != '?') ≠ [] := by
    intro none
    simp [readTail, (whole unmarked).1, none] at read
  have path : (tail ++ back).takeWhile (· != '?') = tail.takeWhile (· != '?') :=
    takeWhile_append_of_stops (Or.inl marked)
  have behind : (tail ++ back).dropWhile (· != '?') = tail.dropWhile (· != '?') ++ back :=
    dropWhile_append_of_stops (Or.inl marked)
  simp only [readTail, (whole unmarked).1, joined.1, joined.2, path, behind] at read ⊢
  cases split : tail.dropWhile (· != '?') with
  | nil => exact absurd split marked
  | cons mark rest =>
    rw [split] at read
    cases read
    rw [List.cons_append, List.tail?_cons, Option.map_some, encodeSet_append]
    rfl

variable {name : String}

/-- A segment behind a path alone is one more segment of it. -/
theorem readTail_append_segment (segment : IsSegment name) {tail : List Char} {path : List String}
    (ends : tail = [] ∨ ∃ first rest, tail = first :: rest ∧ endsAuthority first = true)
    (read : readTail tail = (path, none, none)) :
    ∃ kept, (path = kept ∨ path = kept ++ [""]) ∧
      readTail (tail ++ '/' :: name.toList) = (kept ++ [name], none, none) ∧
      (withoutTrailing path = kept ↔
        (∀ last, tail.getLast? = some last → isSlash last = false) ∧ ¬ ["", ""] <:+ path) := by
  rcases readTail_eq_iff.mp read with ⟨free, rfl⟩
  have rooted : tail = [] ∨ ∃ first rest, tail = first :: rest ∧ isSlash first = true := by
    rcases ends with empty | ⟨first, rest, rfl, stop⟩
    · exact Or.inl empty
    · have plain := free first List.mem_cons_self
      refine Or.inr ⟨first, rest, rfl, ?_⟩
      simpa [endsAuthority, isSlash, plain.1, plain.2] using stop
  rcases readPath_append segment rooted with ⟨kept, before, after, exactly⟩
  exact ⟨kept, before,
    readTail_eq_iff.mpr ⟨List.forall_mem_append.mpr ⟨free, segment.unmarked⟩, after⟩, exactly⟩

/-- White space between a path alone and a segment becomes part of the path. -/
theorem readTail_append_low (segment : IsSegment name) {first : Char} {rest back : List Char}
    {path : List String} (stop : endsAuthority first = true)
    (read : readTail (first :: rest) = (path, none, none)) (filled : back ≠ [])
    (low : ∀ c ∈ back, c.toNat ≤ 0x20) :
    ∃ before, readTail (first :: rest ++ (back ++ '/' :: name.toList)) =
        (before ++ [name], none, none) ∧ withoutTrailing path ≠ before := by
  rcases readTail_eq_iff.mp read with ⟨free, rfl⟩
  have plain := free first List.mem_cons_self
  have slash : isSlash first = true := by
    simpa [endsAuthority, isSlash, plain.1, plain.2] using stop
  rcases readPath_append_low segment slash filled low with ⟨before, after, apart⟩
  refine ⟨before, readTail_eq_iff.mpr ⟨?_, ?_⟩, apart⟩
  · refine List.forall_mem_append.mpr ⟨free, List.forall_mem_append.mpr ⟨fun c member => ?_, ?_⟩⟩
    · exact ⟨Text.ne_of_low (low c member) (by decide), Text.ne_of_low (low c member) (by decide)⟩
    · exact segment.unmarked
  · rw [List.cons_append, ← List.append_assoc]
    exact after

/-! ## The whole address -/

theorem readScheme?_append {text rest : List Char} {scheme : Scheme}
    (read : readScheme? text = some (scheme, rest)) (back : List Char) :
    readScheme? (text ++ back) = some (scheme, rest ++ back) := by
  unfold readScheme? at read ⊢
  have stops : text.dropWhile (· != ':') ≠ [] := by
    intro empty
    rw [empty] at read
    cases read
  rw [takeWhile_append_of_stops (Or.inl stops), dropWhile_append_of_stops (Or.inl stops)]
  generalize (text.takeWhile (· != ':')).map Char.toLower = letters at read ⊢
  cases found : text.dropWhile (· != ':') with
  | nil => exact absurd found stops
  | cons colon others =>
    rw [found] at read
    dsimp only [List.cons_append] at read ⊢
    by_cases http : letters = ['h', 't', 't', 'p']
    · rw [if_pos http] at read ⊢
      cases read
      rfl
    · rw [if_neg http] at read ⊢
      by_cases https : letters = ['h', 't', 't', 'p', 's']
      · rw [if_pos https] at read ⊢
        cases read
        rfl
      · rw [if_neg https] at read
        cases read

/-- An address with what names its host and nothing behind it. -/
def Url.bare? (scheme : Scheme) (authority : List Char) : Option Url := do
  let (user, hostAndPort) := splitUser authority
  let (hostText, portText) := splitPort false hostAndPort
  if hostText.isEmpty then none
  else
    let host ← Host.read? hostText
    let port ← readPort? scheme portText
    let (username, password) := (user.map readUser).getD ("", none)
    some ⟨scheme, username, password, host, port, [], none, none⟩

/-- An address with another path, query and fragment. -/
def Url.reach (url : Url) (tail : List String × Option String × Option String) : Url :=
  { url with path := tail.1, query := tail.2.1, fragment := tail.2.2 }

theorem Url.read?_eq (text : String) :
    Url.read? text = (readScheme? (tidy text.toList)).bind fun (scheme, rest) =>
      (bare? scheme ((rest.dropWhile isSlash).takeWhile fun c => !endsAuthority c)).map
        (·.reach (readTail ((rest.dropWhile isSlash).dropWhile fun c => !endsAuthority c))) := by
  unfold Url.read? Url.bare?
  cases readScheme? (tidy text.toList) with
  | none => rfl
  | some read =>
    rcases read with ⟨scheme, rest⟩
    dsimp only [Option.bind_eq_bind, Option.bind_some]
    split
    · rfl
    · rw [Option.map_bind]
      congr 1
      funext host
      dsimp only [Function.comp_apply]
      rw [Option.map_bind]
      rfl

/-- What stands behind the host and the port of an address. -/
def behindHost (text : String) : List Char :=
  match readScheme? (tidy text.toList) with
  | some (_, rest) => (rest.dropWhile isSlash).dropWhile fun c => !endsAuthority c
  | none => []

theorem behindHost_begins (text : String) :
    behindHost text = [] ∨
      ∃ first rest, behindHost text = first :: rest ∧ endsAuthority first = true := by
  unfold behindHost
  cases readScheme? (tidy text.toList) with
  | none => exact Or.inl rfl
  | some read => exact dropWhile_endsAuthority _

theorem readScheme?_suffix {text rest : List Char} {scheme : Scheme}
    (read : readScheme? text = some (scheme, rest)) : rest <:+ text := by
  unfold readScheme? at read
  dsimp only at read
  have behind := List.dropWhile_suffix (l := text) (· != ':')
  split at read
  · cases read
  · rename_i colon others split
    rw [split] at behind
    have inside : others <:+ text := (List.suffix_cons colon others).trans behind
    split at read
    · cases read
      exact inside
    · split at read
      · cases read
        exact inside
      · cases read

theorem behindHost_suffix (text : String) : behindHost text <:+ tidy text.toList := by
  unfold behindHost
  split
  · rename_i scheme rest read
    exact (List.dropWhile_suffix _).trans
      ((List.dropWhile_suffix _).trans (readScheme?_suffix read))
  · exact List.nil_suffix

/-- What names the host of an address and what stands behind it. -/
theorem exists_bare {text : String} {url : Url} (read : Url.read? text = some url) :
    ∃ scheme rest bare, readScheme? (tidy text.toList) = some (scheme, rest) ∧
      rest.dropWhile isSlash ≠ [] ∧
        behindHost text = (rest.dropWhile isSlash).dropWhile (fun c => !endsAuthority c) ∧
          Url.bare? scheme ((rest.dropWhile isSlash).takeWhile fun c => !endsAuthority c) =
            some bare ∧ url = bare.reach (readTail (behindHost text)) := by
  rw [Url.read?_eq, Option.bind_eq_some_iff] at read
  rcases read with ⟨⟨scheme, rest⟩, schemeRead, read⟩
  rcases Option.map_eq_some_iff.mp read with ⟨bare, bareRead, whole⟩
  have behind : behindHost text =
      (rest.dropWhile isSlash).dropWhile fun c => !endsAuthority c := by
    rw [behindHost, schemeRead]
  refine ⟨scheme, rest, bare, schemeRead, ?_, behind, bareRead, ?_⟩
  · intro empty
    rw [empty] at bareRead
    cases bareRead
  · rw [behind]
    exact whole.symm

/-- An address is read behind its host as any other is. -/
theorem readTail_behindHost {text : String} {url : Url} (read : Url.read? text = some url) :
    readTail (behindHost text) = (url.path, url.query, url.fragment) := by
  rcases exists_bare read with ⟨_, _, bare, _, _, _, _, whole⟩
  generalize readTail (behindHost text) = tail at whole ⊢
  rw [whole]
  rfl

/-- A base and a text behind it are read as the base as far as the host and the port go, if
something ends these before the text or at its beginning. -/
theorem read?_behind {base back : String} {url : Url} (read : Url.read? base = some url)
    (visible : ∀ c ∈ back.toList, 0x20 < c.toNat) (filled : back.toList ≠ [])
    (ended : behindHost base ≠ [] ∨ ∃ first rest,
      loose base.toList ++ back.toList = first :: rest ∧ endsAuthority first = true) :
    Url.read? (base ++ back) =
      some (url.reach (readTail (behindHost base ++ (loose base.toList ++ back.toList)))) := by
  rcases exists_bare read with ⟨scheme, rest, bare, schemeRead, hosted, behind, bareRead, rfl⟩
  have stops : (rest.dropWhile isSlash).dropWhile (fun c => !endsAuthority c) ≠ [] ∨
      (loose base.toList ++ back.toList).dropWhile (fun c => !endsAuthority c) =
        loose base.toList ++ back.toList := by
    rcases ended with inside | ⟨first, others, begins, stop⟩
    · exact Or.inl (behind ▸ inside)
    · rw [begins]
      exact Or.inr (List.dropWhile_cons_of_neg (by simp [stop]))
  rw [Url.read?_eq, String.toList_append, tidy_append base.toList visible filled,
    List.append_assoc, readScheme?_append schemeRead, Option.bind_some]
  dsimp only
  rw [dropWhile_append_of_stops (Or.inl hosted), takeWhile_append_of_stops stops,
    dropWhile_append_of_stops stops, bareRead, behind]
  rfl

theorem Url.bare?_of_low_end {authority : List Char} {c : Char}
    (ends : authority.getLast? = some c) (low : c.toNat ≤ 0x20) (scheme : Scheme) :
    bare? scheme authority = none := by
  have hostAndPort := splitUser_end (Text.ne_of_low low (by decide)) ends
  unfold bare?
  generalize splitUser authority = parts at hostAndPort ⊢
  rcases parts with ⟨user, behindUser⟩
  have portEnd := splitPort_end (Text.ne_of_low low (by decide)) hostAndPort false
  dsimp only at portEnd ⊢
  generalize splitPort false behindUser = ends at portEnd ⊢
  rcases ends with ⟨hostText, portText⟩
  dsimp only at portEnd ⊢
  split
  · rfl
  · rcases portEnd with ⟨_, host⟩ | ⟨digits, rfl, member⟩
    · rw [Host.read?_of_low_end host low]
      rfl
    · cases Host.read? hostText with
      | none => rfl
      | some host =>
        rw [Option.bind_eq_bind, Option.bind_some, readPort?_of_low low scheme member]
        rfl

/-- White space behind the host and the port of a base leaves no address once something follows
it. -/
theorem read?_behind_loose {base back : String} {url : Url} (read : Url.read? base = some url)
    (visible : ∀ c ∈ back.toList, 0x20 < c.toNat) (left : loose base.toList ≠ [])
    (bare : behindHost base = []) {first : Char} {rest : List Char}
    (begins : back.toList = first :: rest) (stop : endsAuthority first = true) :
    Url.read? (base ++ back) = none := by
  have filled : back.toList ≠ [] := begins ▸ List.cons_ne_nil first rest
  rcases exists_bare read with ⟨scheme, rest, _, schemeRead, hosted, behind, _⟩
  rw [behind] at bare
  have names : ∀ c ∈ rest.dropWhile isSlash ++ loose base.toList, (!endsAuthority c) = true := by
    intro c member
    rcases List.mem_append.mp member with inside | behind
    · exact List.dropWhile_eq_nil_iff.mp bare c inside
    · have low := low_of_mem_loose behind
      have other : ∀ d : Char, 0x20 < d.toNat → c ≠ d := fun d => Text.ne_of_low low
      simp [endsAuthority, other '/' (by decide), other '\\' (by decide), other '?' (by decide),
        other '#' (by decide)]
  have authority : (rest.dropWhile isSlash ++ (loose base.toList ++ back.toList)).takeWhile
      (fun c => !endsAuthority c) = rest.dropWhile isSlash ++ loose base.toList := by
    rw [← List.append_assoc, List.takeWhile_append_of_pos names, begins,
      List.takeWhile_cons_of_neg (by simp [stop]), List.append_nil]
  have ends : (rest.dropWhile isSlash ++ loose base.toList).getLast? =
      some ((loose base.toList).getLast left) := by
    rw [List.getLast?_append_of_ne_nil _ left, List.getLast?_eq_some_getLast left]
  rw [Url.read?_eq, String.toList_append, tidy_append base.toList visible filled,
    List.append_assoc, readScheme?_append schemeRead, Option.bind_some]
  dsimp only
  rw [dropWhile_append_of_stops (Or.inl hosted), authority,
    Url.bare?_of_low_end ends (low_of_mem_loose (List.getLast_mem left)), Option.map_none]

theorem toList_slash_append (name : String) : ("/" ++ name).toList = '/' :: name.toList := by
  rw [String.toList_append]
  rfl

theorem IsSegment.visible_behind (segment : IsSegment name) :
    ∀ c ∈ ("/" ++ name).toList, 0x20 < c.toNat := by
  rw [toList_slash_append]
  exact List.forall_mem_cons.mpr ⟨by decide, segment.visible⟩

/-- A segment is read behind what stands behind the host, and behind what is dropped at the
end of a base. -/
theorem read?_append_loose {base : String} {url : Url} (read : Url.read? base = some url)
    (ended : behindHost base ≠ [] ∨ loose base.toList = []) (segment : IsSegment name) :
    Url.read? (base ++ "/" ++ name) =
      some (url.reach (readTail (behindHost base ++ (loose base.toList ++ '/' :: name.toList)))) := by
  rw [String.append_assoc, read?_behind read segment.visible_behind, toList_slash_append]
  · rw [toList_slash_append]
    exact List.cons_ne_nil _ _
  · refine ended.imp_right fun nothing => ?_
    rw [nothing, toList_slash_append]
    exact ⟨'/', name.toList, rfl, by decide⟩

theorem lastSeen?_of_visible {text : List Char} (visible : ∀ c ∈ text, 0x20 < c.toNat)
    (filled : text ≠ []) : ∃ last, lastSeen? text = some last ∧ 0x20 < last.toNat := by
  have kept : text.filter isKept = text :=
    List.filter_eq_self.mpr fun c member => isKept_of_visible (visible c member)
  refine ⟨text.getLast filled, ?_, visible _ (List.getLast_mem filled)⟩
  rw [lastSeen?, kept, List.getLast?_eq_some_getLast filled]

/-- An address ends in a slash exactly if what stands behind its host does. -/
theorem last_isSlash_iff {text : String} {url : Url} {last : Char}
    (read : Url.read? text = some url) (ends : (tidy text.toList).getLast? = some last) :
    isSlash last = false ↔ ∀ c, (behindHost text).getLast? = some c → isSlash c = false := by
  have same : ∀ {back : List Char}, back <:+ tidy text.toList → back ≠ [] →
      back.getLast? = some last := by
    rintro back ⟨front, split⟩ filled
    rw [← split, List.getLast?_append_of_ne_nil front filled] at ends
    exact ends
  by_cases empty : behindHost text = []
  · refine iff_of_true ?_ (by simp [empty])
    rcases exists_bare read with ⟨scheme, rest, _, schemeRead, hosted, behind, _⟩
    rw [behind] at empty
    have inside := same ((List.dropWhile_suffix _).trans (readScheme?_suffix schemeRead)) hosted
    have names := List.dropWhile_eq_nil_iff.mp empty last (List.mem_of_getLast? inside)
    simp only [endsAuthority, Bool.not_eq_true', Bool.or_eq_false_iff] at names
    rw [isSlash, names.1.1.1, names.1.1.2]
    rfl
  · rw [same (behindHost_suffix text) empty]
    simp

/-- A base and a segment behind it are read as the base with one more segment in its path.
This is the path of the base without the slashes at its end and with the segment, unless the
base ends in a slash or its path in two. -/
theorem read?_append_path {base : String} {url : Url} {last : Char}
    (read : Url.read? base = some url) (seen : lastSeen? base.toList = some last)
    (visible : 0x20 < last.toNat) (noQuery : url.query = none) (noFragment : url.fragment = none)
    (segment : IsSegment name) :
    ∃ kept, (url.path = kept ∨ url.path = kept ++ [""]) ∧
      Url.read? (base ++ "/" ++ name) = some { url with path := kept ++ [name] } ∧
      (withoutTrailing url.path = kept ↔ isSlash last = false ∧ ¬ ["", ""] <:+ url.path) := by
  have alone := readTail_behindHost read
  rw [noQuery, noFragment] at alone
  rcases readTail_append_segment segment (behindHost_begins base) alone with
    ⟨kept, before, after, exactly⟩
  refine ⟨kept, before, ?_, ?_⟩
  · have nothing := (tidy_of_lastSeen seen visible).1
    rw [read?_append_loose read (Or.inr nothing) segment, nothing, List.nil_append, after]
    cases url
    cases noQuery
    cases noFragment
    rfl
  · rw [exactly, last_isSlash_iff read (tidy_of_lastSeen seen visible).2]

/-- A base without anything that is dropped takes one more segment. -/
theorem read?_append {base : String} {url : Url} (visible : ∀ c ∈ base.toList, 0x20 < c.toNat)
    (read : Url.read? base = some url) (noQuery : url.query = none)
    (noFragment : url.fragment = none) (segment : IsSegment name) :
    ∃ kept, (url.path = kept ∨ url.path = kept ++ [""]) ∧
      Url.read? (base ++ "/" ++ name) = some { url with path := kept ++ [name] } := by
  have filled : base.toList ≠ [] := by
    intro empty
    rw [Url.read?_eq, empty] at read
    cases read
  rcases lastSeen?_of_visible visible filled with ⟨last, seen, lastVisible⟩
  rcases read?_append_path read seen lastVisible noQuery noFragment segment with
    ⟨kept, before, after, _⟩
  exact ⟨kept, before, after⟩

end Web
end LendingGateway
