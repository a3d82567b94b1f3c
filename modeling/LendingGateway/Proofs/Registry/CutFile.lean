import LendingGateway.Proofs.Documents
import LendingGateway.Proofs.Json.Cuts
import LendingGateway.Proofs.Json.TreeFronts
import LendingGateway.Registry.Source

namespace LendingGateway
namespace Registry

open Json Lending

/-!
# A provider file that was cut off

A provider file that lost its end never starts the gateway with fewer providers.  Whatever text is
accepted, nothing but a gap can be taken off its end.  In a file as the gateway writes it the
reader even runs out of input, wherever it was cut.  The exception are yields that are not finite:
they are written as null, and an entry that is there as a whole is then at fault for that.
-/

/-- A text lacks some of another one, at its end. -/
def StrictFront (front text : String) : Prop :=
  ∃ missing, missing ≠ "" ∧ text = front ++ missing

/-- The characters that may stand between the tokens of a file. -/
def gapCharacters : List Char :=
  [' ', '\n', '\r', '\t']

/-- The yields in the catalogs of a provider file are finite. -/
def Configuration.YieldsFinite (configuration : Configuration) : Prop :=
  ∀ provider positions, Entry.catalog provider positions ∈ configuration.providers →
    ∀ asset ∈ provider.assets, asset.apy.isFinite = true

/-- The provider file with the first entries only. -/
def Configuration.keep (configuration : Configuration) (count : Nat) : Configuration :=
  ⟨configuration.providers.take count⟩

/-- A text holds the first entries as a whole: it begins like the file that has only those, up to
the end of its list. -/
def Configuration.HeldIn (configuration : Configuration) (count : Nat) (text : String) : Prop :=
  ∃ opened behind, Wire.encode (configuration.keep count) = opened ++ "]\x7d" ∧
    text = opened ++ behind

/-- The entries that a text holds as a whole have finite yields. -/
def Configuration.FiniteIn (configuration : Configuration) (text : String) : Prop :=
  ∀ count, configuration.HeldIn count text → (configuration.keep count).YieldsFinite

/-! ## Gaps -/

theorem mem_gapCharacters {c : Char}
    (gap : ∀ octet ∈ String.utf8EncodeChar c, isGap octet = true) : c ∈ gapCharacters := by
  have low : ∀ octet, isGap octet = true → octet.toNat < 0x80 := by
    intro octet blank
    simp only [isGap, Bool.or_eq_true, beq_iff_eq] at blank
    rcases blank with ((rfl | rfl) | rfl) | rfl <;> decide
  by_cases ascii : c.toNat < 0x80
  · rw [Text.utf8EncodeChar_of_lt ascii] at gap
    have single := gap _ (List.mem_singleton.mpr rfl)
    have code := Text.toNat_toUInt8 ascii
    simp only [isGap, Bool.or_eq_true, beq_iff_eq, ← UInt8.toNat_inj, code, UInt8.reduceToNat]
      at single
    simp only [gapCharacters, List.mem_cons, List.not_mem_nil, or_false, ← Char.toNat_inj,
      Char.reduceToNat]
    omega
  · have first : ∃ octet, octet ∈ String.utf8EncodeChar c :=
      List.exists_mem_of_length_pos (String.length_utf8EncodeChar c ▸ c.utf8Size_pos)
    rcases first with ⟨octet, member⟩
    have high := Text.high_of_mem_utf8EncodeChar (Nat.not_lt.mp ascii) member
    exact absurd (low octet (gap octet member)) (Nat.not_lt.mpr high)

theorem toList_ne_nil {text : String} (nonempty : text ≠ "") : text.toList ≠ [] :=
  fun nothing => nonempty (String.toList_inj.mp nothing)

theorem octets_ne_nil {text : String} (nonempty : text ≠ "") : Text.octets text ≠ [] := by
  rcases List.exists_cons_of_ne_nil (toList_ne_nil nonempty) with ⟨c, others, chars⟩
  intro nothing
  rw [Text.octets_eq_flatMap, chars, List.flatMap_cons] at nothing
  have length := congrArg List.length (List.append_eq_nil_iff.mp nothing).1
  rw [String.length_utf8EncodeChar] at length
  exact absurd length (Nat.ne_of_gt c.utf8Size_pos)

/-- A text whose octets are a gap ends with a character that may stand in one. -/
theorem mem_gapCharacters_of_blank {front missing : String} {last : Char} (nonempty : missing ≠ "")
    (blank : skipGap (Text.octets missing) = [])
    (ends : (front ++ missing).toList.getLast? = some last) : last ∈ gapCharacters := by
  rw [String.toList_append, List.getLast?_append_of_ne_nil _ (toList_ne_nil nonempty)] at ends
  have member := List.mem_of_getLast? ends
  apply mem_gapCharacters
  intro octet encoded
  refine List.dropWhile_eq_nil_iff.mp blank octet ?_
  rw [Text.octets_eq_flatMap]
  exact List.mem_flatMap.mpr ⟨last, member, encoded⟩

/-! ## Files that were cut off -/

theorem decode_of_parse {text : String} {configuration : Configuration}
    (accepted : Configuration.parse text = .ok configuration) :
    Wire.decode Configuration (Text.octets text) = .ok configuration := by
  unfold Configuration.parse at accepted
  split at accepted
  · rename_i decoded
    cases accepted
    exact decoded
  · cases accepted

theorem exists_malformed {text : String}
    (rejected : ∀ configuration, Wire.decode Configuration (Text.octets text) ≠ .ok configuration) :
    ∃ fault, Configuration.parse text = .error (.malformed fault) := by
  unfold Configuration.parse
  cases decoded : Wire.decode Configuration (Text.octets text) with
  | ok configuration => exact absurd decoded (rejected configuration)
  | error fault => exact ⟨fault, rfl⟩

/-- The octets of an entry as the gateway writes it. -/
def entryOctets (value : (Wire.shape Entry).Value) : Input :=
  Text.octets ((Wire.shape Entry).toTree value).render

/-- A provider file up to the end of its list. -/
theorem exists_opened (configuration : Configuration) :
    ∃ opened, Wire.encode configuration = opened ++ "]\x7d" ∧
      Text.octets opened = recordOpening "providers" ++ listOpening
        (configuration.providers.map fun entry => entryOctets (Wire.toValue entry)) := by
  let items := (configuration.providers.map Wire.toValue).map (Wire.shape Entry).toTree
  have rendered : Wire.encode configuration = (Tree.object [("providers", .list items)]).render :=
    rfl
  have encoded : Wire.encode configuration = ("\x7b" ++ (renderText "providers" ++ ":" ++
      ("[" ++ String.intercalate "," (renderItems items)))) ++ "]\x7d" := by
    have brackets : "]\x7d" = "]" ++ "\x7d" := rfl
    rw [rendered, Tree.render, renderMembers, renderMembers, Tree.render,
      String.intercalate_singleton, brackets]
    simp only [String.append_assoc]
  refine ⟨_, encoded, (List.append_left_inj (Text.octets "]\x7d")).mp ?_⟩
  have closing : Text.octets "]\x7d" = [0x5d] ++ [0x7d] := rfl
  rw [← Text.octets_append, ← encoded, rendered, render_single_eq, render_list_eq, closing,
    List.map_map, List.map_map]
  simp only [listOpening, List.append_assoc, List.cons_append]
  rfl

/-- The entries that a text begins with are held in it, so their yields are finite. -/
theorem yieldsFinite_of_begins {configuration : Configuration} {entries : List Entry}
    {front : String} (finite : configuration.FiniteIn front)
    (kept : entries <+: configuration.providers)
    (begins : recordOpening "providers" ++
      listOpening (entries.map fun entry => entryOctets (Wire.toValue entry)) <+:
        Text.octets front) : (Configuration.mk entries).YieldsFinite := by
  have same : configuration.keep entries.length = ⟨entries⟩ :=
    congrArg Configuration.mk (List.prefix_iff_eq_take.mp kept).symm
  rcases exists_opened ⟨entries⟩ with ⟨opened, encoded, octets⟩
  rw [← octets] at begins
  rcases Text.exists_append_of_octets begins with ⟨others, whole⟩
  have yields := finite entries.length ⟨opened, others, same ▸ encoded, whole⟩
  rwa [same] at yields

/-- The readers of the file starve if it lacks some of what the gateway wrote.  What is left of it
is sound if the entries that it still holds as a whole have finite yields. -/
theorem starves_of_strictFront {configuration : Configuration} {front : String}
    (cut : StrictFront front (Wire.encode configuration)) :
    Starves (configuration.FiniteIn front) (Wire.decode Configuration (Text.octets front)) := by
  rcases cut with ⟨missing, nonempty, written⟩
  have split : Text.octets (Wire.encode configuration) =
      Text.octets front ++ Text.octets missing := by
    rw [written, Text.octets_append]
  have opens : ∀ value ∈ configuration.providers.map Wire.toValue, Opens (entryOctets value) := by
    intro value _
    have fits : (Wire.shape Entry).depth ≤ nestingLimit := by decide
    have each := Shape.everyReal_of_forall (Wire.shape Entry) (fun _ _ => trivial) value
    exact (Shape.legible_toTree restores_restored (Wire.shape Entry) fits value each).opens
  have starves : Starves (configuration.FiniteIn front)
      ((Wire.shape Configuration).read 127 (Text.octets front)) := by
    refine Shape.record_lacking (by decide) (fun inner behind within => ?_)
      (octets_ne_nil nonempty) split
    refine Shape.list_front opens
      (fun value _ => Shape.tagged_lacking (by decide) (by decide) value)
      (fun held first holds value member => ?_) within
    rcases List.prefix_map_iff.mp first with ⟨entries, kept, rfl⟩
    rcases List.mem_map.mp member with ⟨entry, found, rfl⟩
    refine (Shape.passes_tagged (by decide) (by decide) _).weaken fun finite => ?_
    rw [List.map_map] at holds
    have yields := yieldsFinite_of_begins finite kept
      (behind ▸ (List.prefix_append_right_inj _).mpr holds)
    exact everyReal_entry fun provider positions same => yields provider positions (same ▸ found)
  exact (starves.bind _).bind _

theorem Configuration.YieldsFinite.finiteIn {configuration : Configuration}
    (finite : configuration.YieldsFinite) (text : String) : configuration.FiniteIn text :=
  fun _ _ provider positions member => finite provider positions (List.mem_of_mem_take member)

/-- A provider file that was cut off is never accepted: neither an accepted one that does not end
with a gap, nor one as the gateway writes it.  The reader of the latter runs out of input, unless
an entry that it met as a whole has a yield that is not finite. -/
theorem rejects_every_strictFront :
    (∀ text configuration last, Configuration.parse text = .ok configuration →
      text.toList.getLast? = some last → last ∉ gapCharacters →
        ∀ front, StrictFront front text →
          ∃ fault, Configuration.parse front = .error (.malformed fault)) ∧
    (∀ (configuration : Configuration) front, StrictFront front (Wire.encode configuration) →
      ∃ fault, Configuration.parse front = .error (.malformed fault) ∧
        (configuration.FiniteIn front → fault.cause.category = .truncated)) := by
  constructor
  · rintro text configuration last accepted ends visible front ⟨missing, nonempty, rfl⟩
    apply exists_malformed
    intro other decoded
    have whole : Wire.decode Configuration (Text.octets front ++ Text.octets missing) =
        .ok configuration := by
      rw [← Text.octets_append]
      exact decode_of_parse accepted
    have blank := Wire.blank_of_decode_append (by decide) decoded whole
    exact visible (mem_gapCharacters_of_blank nonempty blank ends)
  · intro configuration front cut
    rcases starves_of_strictFront cut with ⟨fault, failed, ended⟩
    refine ⟨fault, ?_, ended⟩
    rw [Configuration.parse, failed]

/-- A provider file with one asset of a given yield. -/
def poolFile (yield : Float) : Configuration :=
  ⟨[.catalog ⟨"pool", ⟨"pool", "", "", ""⟩, .lending,
    [⟨"ETH", "", yield, 0, 1, "7", "0", ⟨none⟩⟩]⟩ Dictionary.empty]⟩

/-- The text of such a file up to the end of its only entry. -/
def poolFront (yield : String) : String :=
  "\x7b\"providers\":[\x7b\"kind\":\"static\",\"provider\":\x7b\"id\":\"pool\","
    ++ "\"info\":\x7b\"id\":\"pool\",\"description\":\"\",\"image\":\"\",\"website\":\"\"\x7d,"
    ++ "\"type\":\"lending\",\"assets\":[\x7b\"symbol\":\"ETH\",\"description\":\"\","
    ++ "\"apy\":" ++ yield ++ ",\"yield_period\":0,\"yield_freq\":1,"
    ++ "\"total_supply\":\"7\",\"minimum_amount\":\"0\"\x7d]\x7d,"
    ++ "\"positions\":\x7b\x7d\x7d"

/-- The file is read back, and without its last two brackets it is rejected because it ends too
early. -/
theorem rejects_front_of_poolFile :
    Configuration.parse (Wire.encode (poolFile 0.05)) = .ok (poolFile 0.05) ∧
      (Wire.encode (poolFile 0.05)).toList.getLast? = some '\x7d' ∧ '\x7d' ∉ gapCharacters ∧
      StrictFront (poolFront "0.05") (Wire.encode (poolFile 0.05)) ∧
      (poolFile 0.05).FiniteIn (poolFront "0.05") ∧
      (∃ fault, Configuration.parse (poolFront "0.05") = .error (.malformed fault)) ∧
      ∃ fault, Configuration.parse (poolFront "0.05") = .error (.malformed fault) ∧
        fault.cause.category = .truncated := by
  have yields : ∀ provider positions,
      Entry.catalog provider positions ∈ (poolFile 0.05).providers →
        ∀ asset ∈ provider.assets, asset.apy = 0.05 := by
    intro provider positions member asset held
    cases List.mem_singleton.mp member
    cases List.mem_singleton.mp held
    rfl
  have readBack : (poolFile 0.05).YieldsReadBack := by
    intro provider positions member asset held
    rw [yields provider positions member asset held]
    decide +kernel
  have finite : (poolFile 0.05).FiniteIn (poolFront "0.05") := by
    apply Configuration.YieldsFinite.finiteIn
    intro provider positions member asset held
    rw [yields provider positions member asset held]
    decide +kernel
  have accepted : Configuration.parse (Wire.encode (poolFile 0.05)) = .ok (poolFile 0.05) := by
    have decoded := Wire.roundTrips_of_shape (by decide) (by decide)
      (everyReal_configuration readBack)
    rw [Configuration.parse, decoded]
  have last : (Wire.encode (poolFile 0.05)).toList.getLast? = some '\x7d' := by decide +kernel
  have visible : '\x7d' ∉ gapCharacters := by decide
  have cut : StrictFront (poolFront "0.05") (Wire.encode (poolFile 0.05)) :=
    ⟨"]\x7d", by decide, by decide +kernel⟩
  rcases rejects_every_strictFront with ⟨anyText, written⟩
  rcases written (poolFile 0.05) _ cut with ⟨fault, rejected, truncated⟩
  exact ⟨accepted, last, visible, cut, finite, anyText _ _ _ accepted last visible _ cut,
    fault, rejected, truncated finite⟩

/-- With a yield that is not finite the same front is rejected for the null in its entry. -/
theorem boundless_front_not_truncated :
    StrictFront (poolFront "null") (Wire.encode (poolFile (1.0 / 0.0))) ∧
      ¬ ∃ fault, Configuration.parse (poolFront "null") = .error (.malformed fault) ∧
        fault.cause.category = .truncated := by
  refine ⟨⟨"]\x7d", by decide, by decide +kernel⟩, ?_⟩
  rintro ⟨fault, rejected, truncated⟩
  have category : (match Configuration.parse (poolFront "null") with
      | .error (.malformed fault) => some fault.cause.category
      | _ => none) = some .mismatch := by decide +kernel
  rw [rejected] at category
  cases truncated.symm.trans (Option.some.inj category)

end Registry
end LendingGateway
