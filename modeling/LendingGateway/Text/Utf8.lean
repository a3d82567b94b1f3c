namespace LendingGateway
namespace Text

/-!
# Text as octets

Documents and bodies travel as octets in UTF-8.  A document must be well formed, so
reading its strings is partial.  The body of a rejection is only passed on to a human,
so it is read with a replacement character wherever it is not well formed.
-/

def octets (text : String) : List UInt8 :=
  text.toUTF8.data.toList

/-- The text that a list of octets encodes, if they are well formed. -/
def ofOctets? (bytes : List UInt8) : Option String :=
  String.fromUTF8? ⟨bytes.toArray⟩

/-- Reading the octets of a text gives the text back. -/
@[simp]
theorem ofOctets?_octets (text : String) : ofOctets? (octets text) = some text := by
  have valid : (⟨text.toByteArray.data⟩ : ByteArray).IsValidUTF8 := text.isValidUTF8
  simp [ofOctets?, octets, String.fromUTF8?, String.fromUTF8, valid]

@[simp]
theorem octets_append (left right : String) :
    octets (left ++ right) = octets left ++ octets right := by
  simp [octets]

/-- A character that has begun and lacks some of its octets: the code so far, how many
octets are still due, and the bounds on the next one. -/
structure Pending where
  code : Nat
  due : Nat
  low : UInt8
  high : UInt8

/-- The character that an octet begins.  Overlong forms, surrogates and code points
above U+10FFFF are ruled out by the bounds on the second octet. -/
def Pending.begin? (lead : UInt8) : Option Pending :=
  let code := lead.toNat
  if 0xc2 ≤ code ∧ code ≤ 0xdf then some ⟨code - 0xc0, 1, 0x80, 0xbf⟩
  else if code = 0xe0 then some ⟨0, 2, 0xa0, 0xbf⟩
  else if code = 0xed then some ⟨0xd, 2, 0x80, 0x9f⟩
  else if 0xe1 ≤ code ∧ code ≤ 0xef then some ⟨code - 0xe0, 2, 0x80, 0xbf⟩
  else if code = 0xf0 then some ⟨0, 3, 0x90, 0xbf⟩
  else if 0xf1 ≤ code ∧ code ≤ 0xf3 then some ⟨code - 0xf0, 3, 0x80, 0xbf⟩
  else if code = 0xf4 then some ⟨4, 3, 0x80, 0x8f⟩
  else none

/-- The mark that stands for octets which encode no character. -/
def replacement : Char := '\uFFFD'

/-- What an octet gives outside any character: a character of its own, the beginning of
a longer one, or the replacement mark. -/
def startLossy (octet : UInt8) : List Char × Option Pending :=
  if octet < 0x80 then ([Char.ofNat octet.toNat], none)
  else match Pending.begin? octet with
    | some pending => ([], some pending)
    | none => ([replacement], none)

/-- One octet of the forgiving reading: characters produced, and the character now open.
An octet that does not continue the open character closes it with one replacement mark
and is then read afresh. -/
def stepLossy (open? : Option Pending) (octet : UInt8) : List Char × Option Pending :=
  match open? with
  | none => startLossy octet
  | some pending =>
    if pending.low ≤ octet ∧ octet ≤ pending.high then
      let code := pending.code * 64 + (octet.toNat - 0x80)
      if pending.due ≤ 1 then ([Char.ofNat code], none)
      else ([], some ⟨code, pending.due - 1, 0x80, 0xbf⟩)
    else
      let (produced, next) := startLossy octet
      (replacement :: produced, next)

/-- The forgiving reading from a state, the characters so far in reverse. -/
def lossyFrom (open? : Option Pending) (done : List Char) : List UInt8 → List Char
  | [] => match open? with
    | none => done
    | some _ => replacement :: done
  | octet :: rest =>
    let (produced, next) := stepLossy open? octet
    lossyFrom next (produced.reverse ++ done) rest

/-- The text of some octets, with one replacement mark for each longest run that is not
the beginning of any character. -/
def ofOctetsLossy (bytes : List UInt8) : String :=
  String.ofList (lossyFrom none [] bytes).reverse

end Text
end LendingGateway
