import LendingGateway.Proofs.Text.Octets

namespace LendingGateway
namespace Text

/-!
# The forgiving reading of a text

The forgiving reading of octets gives a text back from its octets, without any replacement
mark.  Every character takes the reading from between two characters to between two
characters: its first octet opens it, and the bounds on its second octet, which keep out
overlong forms and surrogates, hold because it is a character.
-/

theorem lossyFrom_step {open? next : Option Pending} {octet : UInt8} {produced : List Char}
    (step : stepLossy open? octet = (produced, next)) (done : List Char) (rest : List UInt8) :
    lossyFrom open? done (octet :: rest) = lossyFrom next (produced.reverse ++ done) rest := by
  rw [lossyFrom, step]

/-! ## The first octet of a longer character -/

theorem begin?_two {lead : UInt8} (low : 0xc2 ≤ lead.toNat) (high : lead.toNat ≤ 0xdf) :
    Pending.begin? lead = some ⟨lead.toNat - 0xc0, 1, 0x80, 0xbf⟩ := by
  rw [Pending.begin?, if_pos ⟨low, high⟩]

/-- The bounds on the second octet of a character of three octets. -/
def secondOfThree (lead : Nat) : UInt8 × UInt8 :=
  (if lead = 0xe0 then 0xa0 else 0x80, if lead = 0xed then 0x9f else 0xbf)

theorem begin?_three {lead : UInt8} (low : 0xe0 ≤ lead.toNat) (high : lead.toNat ≤ 0xef) :
    Pending.begin? lead = some ⟨lead.toNat - 0xe0, 2, (secondOfThree lead.toNat).1,
      (secondOfThree lead.toNat).2⟩ := by
  unfold Pending.begin? secondOfThree
  dsimp only
  rw [if_neg (by omega)]
  by_cases first : lead.toNat = 0xe0
  · simp [first]
  · by_cases surrogate : lead.toNat = 0xed
    · simp [surrogate]
    · rw [if_neg first, if_neg surrogate, if_pos (by omega), if_neg first, if_neg surrogate]

/-- The bounds on the second octet of a character of four octets. -/
def secondOfFour (lead : Nat) : UInt8 × UInt8 :=
  (if lead = 0xf0 then 0x90 else 0x80, if lead = 0xf4 then 0x8f else 0xbf)

theorem begin?_four {lead : UInt8} (low : 0xf0 ≤ lead.toNat) (high : lead.toNat ≤ 0xf4) :
    Pending.begin? lead = some ⟨lead.toNat - 0xf0, 3, (secondOfFour lead.toNat).1,
      (secondOfFour lead.toNat).2⟩ := by
  unfold Pending.begin? secondOfFour
  dsimp only
  rw [if_neg (by omega), if_neg (by omega), if_neg (by omega), if_neg (by omega)]
  by_cases first : lead.toNat = 0xf0
  · simp [first]
  · by_cases last : lead.toNat = 0xf4
    · simp [last]
    · rw [if_neg first, if_pos (by omega), if_neg first, if_neg last]

theorem stepLossy_begin {lead : UInt8} {pending : Pending} (high : 0x80 ≤ lead.toNat)
    (begun : Pending.begin? lead = some pending) :
    stepLossy none lead = ([], some pending) := by
  have longer : ¬ lead < 0x80 := Nat.not_lt.mpr high
  rw [stepLossy, startLossy, if_neg longer, begun]

/-! ## The octets that continue it -/

theorem stepLossy_more {pending : Pending} {octet : UInt8} (low : pending.low ≤ octet)
    (high : octet ≤ pending.high) (more : 1 < pending.due) :
    stepLossy (some pending) octet =
      ([], some ⟨pending.code * 64 + (octet.toNat - 0x80), pending.due - 1, 0x80, 0xbf⟩) := by
  rw [stepLossy, if_pos ⟨low, high⟩]
  dsimp only
  rw [if_neg (Nat.not_le.mpr more)]

theorem stepLossy_last {pending : Pending} {octet : UInt8} (low : pending.low ≤ octet)
    (high : octet ≤ pending.high) (last : pending.due ≤ 1) :
    stepLossy (some pending) octet =
      ([Char.ofNat (pending.code * 64 + (octet.toNat - 0x80))], none) := by
  rw [stepLossy, if_pos ⟨low, high⟩]
  dsimp only
  rw [if_pos last]

/-! ## Whole characters -/

/-- An octet that may stand after the second one of a character. -/
def Continues (octet : UInt8) : Prop :=
  0x80 ≤ octet ∧ octet ≤ 0xbf

theorem lossyFrom_two {lead second : UInt8} (low : 0xc2 ≤ lead.toNat)
    (high : lead.toNat ≤ 0xdf) (continues : Continues second) (done : List Char)
    (rest : List UInt8) :
    lossyFrom none done (lead :: second :: rest) =
      lossyFrom none
        (Char.ofNat ((lead.toNat - 0xc0) * 64 + (second.toNat - 0x80)) :: done) rest := by
  rw [lossyFrom_step (stepLossy_begin (by omega) (begin?_two low high)),
    lossyFrom_step (stepLossy_last continues.1 continues.2 (Nat.le_refl 1))]
  rfl

theorem lossyFrom_three {lead second third : UInt8} (low : 0xe0 ≤ lead.toNat)
    (high : lead.toNat ≤ 0xef)
    (within : (secondOfThree lead.toNat).1 ≤ second ∧ second ≤ (secondOfThree lead.toNat).2)
    (continues : Continues third) (done : List Char) (rest : List UInt8) :
    lossyFrom none done (lead :: second :: third :: rest) =
      lossyFrom none
        (Char.ofNat (((lead.toNat - 0xe0) * 64 + (second.toNat - 0x80)) * 64
          + (third.toNat - 0x80)) :: done) rest := by
  rw [lossyFrom_step (stepLossy_begin (by omega) (begin?_three low high)),
    lossyFrom_step (stepLossy_more within.1 within.2 (by decide : 1 < 2)),
    lossyFrom_step (stepLossy_last continues.1 continues.2 (Nat.le_refl 1))]
  rfl

theorem lossyFrom_four {lead second third fourth : UInt8} (low : 0xf0 ≤ lead.toNat)
    (high : lead.toNat ≤ 0xf4)
    (within : (secondOfFour lead.toNat).1 ≤ second ∧ second ≤ (secondOfFour lead.toNat).2)
    (continuesThird : Continues third) (continues : Continues fourth) (done : List Char)
    (rest : List UInt8) :
    lossyFrom none done (lead :: second :: third :: fourth :: rest) =
      lossyFrom none
        (Char.ofNat ((((lead.toNat - 0xf0) * 64 + (second.toNat - 0x80)) * 64
          + (third.toNat - 0x80)) * 64 + (fourth.toNat - 0x80)) :: done) rest := by
  rw [lossyFrom_step (stepLossy_begin (by omega) (begin?_four low high)),
    lossyFrom_step (stepLossy_more within.1 within.2 (by decide : 1 < 3)),
    lossyFrom_step (stepLossy_more continuesThird.1 continuesThird.2 (by decide : 1 < 2)),
    lossyFrom_step (stepLossy_last continues.1 continues.2 (Nat.le_refl 1))]
  rfl

theorem toNat_ofNat_of_lt {code : Nat} (small : code < 256) : (UInt8.ofNat code).toNat = code := by
  rw [UInt8.toNat_ofNat', Nat.mod_eq_of_lt small]

/-- The last six bits of a number, as an octet that continues a character. -/
theorem toNat_ofNat_continuing (code : Nat) :
    (UInt8.ofNat (code % 64 + 0x80)).toNat = code % 64 + 0x80 :=
  toNat_ofNat_of_lt (by omega)

theorem continues_ofNat (code : Nat) : Continues (UInt8.ofNat (code % 64 + 0x80)) := by
  have octet := toNat_ofNat_continuing code
  constructor
  · change 0x80 ≤ (UInt8.ofNat (code % 64 + 0x80)).toNat
    omega
  · change (UInt8.ofNat (code % 64 + 0x80)).toNat ≤ 0xbf
    omega

/-- The second octet of a character keeps the bounds: one that needs three octets is no
shorter one and no surrogate. -/
theorem secondOfThree_bounds (code : Nat) (low : 0x7ff < code)
    (valid : code < 0xd800 ∨ 0xdfff < code) :
    (secondOfThree (code / 4096 + 0xe0)).1 ≤ UInt8.ofNat (code / 64 % 64 + 0x80) ∧
      UInt8.ofNat (code / 64 % 64 + 0x80) ≤ (secondOfThree (code / 4096 + 0xe0)).2 := by
  have octet := toNat_ofNat_continuing (code / 64)
  unfold secondOfThree
  dsimp only
  constructor
  · split
    · change 0xa0 ≤ (UInt8.ofNat (code / 64 % 64 + 0x80)).toNat
      omega
    · exact (continues_ofNat (code / 64)).1
  · split
    · change (UInt8.ofNat (code / 64 % 64 + 0x80)).toNat ≤ 0x9f
      omega
    · exact (continues_ofNat (code / 64)).2

theorem secondOfFour_bounds (code : Nat) (low : 0xffff < code) (valid : code < 0x110000) :
    (secondOfFour (code / 262144 + 0xf0)).1 ≤ UInt8.ofNat (code / 4096 % 64 + 0x80) ∧
      UInt8.ofNat (code / 4096 % 64 + 0x80) ≤ (secondOfFour (code / 262144 + 0xf0)).2 := by
  have octet := toNat_ofNat_continuing (code / 4096)
  unfold secondOfFour
  dsimp only
  constructor
  · split
    · change 0x90 ≤ (UInt8.ofNat (code / 4096 % 64 + 0x80)).toNat
      omega
    · exact (continues_ofNat (code / 4096)).1
  · split
    · change (UInt8.ofNat (code / 4096 % 64 + 0x80)).toNat ≤ 0x8f
      omega
    · exact (continues_ofNat (code / 4096)).2

/-- The octets of a character are read as that character. -/
theorem lossyFrom_utf8EncodeChar (c : Char) (done : List Char) (rest : List UInt8) :
    lossyFrom none done (String.utf8EncodeChar c ++ rest) = lossyFrom none (c :: done) rest := by
  have valid : c.val.toNat < 0xd800 ∨ 0xdfff < c.val.toNat ∧ c.val.toNat < 0x110000 := c.valid
  have whole : ∀ {code : Nat}, code = c.val.toNat → Char.ofNat code = c := by
    rintro _ rfl
    exact Char.ofNat_toNat c
  -- From the last octet of a longer character backwards, each holds six bits of its code.
  have tail := toNat_ofNat_continuing c.val.toNat
  have middle := toNat_ofNat_continuing (c.val.toNat / 64)
  unfold String.utf8EncodeChar
  dsimp only
  split
  · have octet : (UInt8.ofNat c.val.toNat).toNat = c.val.toNat := toNat_ofNat_of_lt (by omega)
    have plain : UInt8.ofNat c.val.toNat < 0x80 := by
      change (UInt8.ofNat c.val.toNat).toNat < 0x80
      omega
    have read : stepLossy none (UInt8.ofNat c.val.toNat) = ([c], none) := by
      rw [stepLossy, startLossy, if_pos plain, whole octet]
    exact lossyFrom_step read done rest
  split
  · have lead : (UInt8.ofNat (c.val.toNat / 64 % 32 + 192)).toNat = c.val.toNat / 64 + 192 := by
      rw [toNat_ofNat_of_lt (by omega)]
      omega
    have read := @lossyFrom_two (UInt8.ofNat (c.val.toNat / 64 % 32 + 192)) _ (by omega)
      (by omega) (continues_ofNat c.val.toNat) done rest
    rw [lead, tail, whole (by omega)] at read
    exact read
  split
  · have lead : (UInt8.ofNat (c.val.toNat / 4096 % 16 + 224)).toNat =
        c.val.toNat / 4096 + 224 := by
      rw [toNat_ofNat_of_lt (by omega)]
      omega
    have within := secondOfThree_bounds c.val.toNat (by omega) (by omega)
    rw [← lead] at within
    have read := lossyFrom_three (by omega) (by omega) within (continues_ofNat c.val.toNat)
      done rest
    rw [lead, middle, tail, whole (by omega)] at read
    exact read
  · have lead : (UInt8.ofNat (c.val.toNat / 262144 % 8 + 240)).toNat =
        c.val.toNat / 262144 + 240 := by
      rw [toNat_ofNat_of_lt (by omega)]
      omega
    have second := toNat_ofNat_continuing (c.val.toNat / 4096)
    have within := secondOfFour_bounds c.val.toNat (by omega) (by omega)
    rw [← lead] at within
    have read := lossyFrom_four (by omega) (by omega) within
      (continues_ofNat (c.val.toNat / 64)) (continues_ofNat c.val.toNat) done rest
    rw [lead, second, middle, tail, whole (by omega)] at read
    exact read

theorem ofOctetsLossy_octets (text : String) : ofOctetsLossy (octets text) = text := by
  have read : ∀ (chars done : List Char),
      lossyFrom none done (chars.flatMap String.utf8EncodeChar) = chars.reverse ++ done := by
    intro chars
    induction chars with
    | nil => exact fun _ => rfl
    | cons c chars inductionHypothesis =>
      intro done
      rw [List.flatMap_cons, lossyFrom_utf8EncodeChar, inductionHypothesis, List.reverse_cons,
        List.append_assoc]
      rfl
  rw [ofOctetsLossy, octets_eq_flatMap, read, List.append_nil, List.reverse_reverse,
    String.ofList_toList]

end Text
end LendingGateway
