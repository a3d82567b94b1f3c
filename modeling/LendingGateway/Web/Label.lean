import LendingGateway.Web.Label.Direction
import LendingGateway.Web.Label.Joining
import LendingGateway.Web.Label.Mapping
import LendingGateway.Web.Punycode

namespace LendingGateway
namespace Web

/-!
# Labels

A name is a sequence of labels with full stops between them.  Outside ASCII a label has
two forms: the plain one, and one in ASCII that begins with a mark.  Either may be given.
The plain forms of all labels have to be acceptable, and a name is always written with the
forms in ASCII.
-/

/-- A label in its plain form and in ASCII. -/
structure Label where
  plain : List Char
  ascii : List Char
deriving DecidableEq, Repr

/-- What the form in ASCII of other labels begins with. -/
def asciiMark : List Char := ['x', 'n', '-', '-']

/-- The ASCII characters that a name must not contain. -/
def isForbidden (c : Char) : Bool :=
  c.toNat ≤ 0x20 || c == '\x7f' || "%#/:<>?@[\\]^|".toList.contains c

def isAscii (label : List Char) : Bool :=
  label.all (·.toNat < 0x80)

/-- The most characters of a plain label that has another form in ASCII. -/
def longestPlain : Nat := 1000

/-- The most characters in ASCII after the mark. -/
def longestAscii : Nat := 2000

/-- The label that a form in ASCII stands for, without the mark.  It is outside ASCII, is
written in just this way, and preparing it changes nothing. -/
def Label.ofAscii? (encoded : List Char) : Option Label :=
  if longestAscii < encoded.length then none
  else do
    let plain ← Punycode.decode? encoded
    if !isAscii plain && Punycode.encode plain == encoded && prepare? plain == some plain then
      some ⟨plain, asciiMark ++ encoded⟩
    else none

/-- The label that a prepared text stands for. -/
def Label.ofPrepared? (text : List Char) : Option Label :=
  if text.any isForbidden then none
  else if text.take asciiMark.length = asciiMark then
    Label.ofAscii? (text.drop asciiMark.length)
  else if isAscii text then some ⟨text, text⟩
  else if longestPlain < text.length then none
  else some ⟨text, asciiMark ++ Punycode.encode text⟩

/-- Whether a plain label begins as a label may and holds joiners only where they mean
something. -/
def Label.isAcceptable (label : Label) : Bool :=
  !label.plain.head?.any Text.isMark && joinersFit [] label.plain

def readLabels? (name : List Char) : Option (List Label) := do
  let prepared ← prepare? name
  let labels ← (Text.splitAt '.' prepared).mapM Label.ofPrepared?
  if labels.all Label.isAcceptable && directionsFit (labels.map Label.plain) then some labels
  else none

end Web
end LendingGateway
