namespace LendingGateway
namespace Text

/-!
# Blank text

An identifier or an address made only of white space says nothing, so the gateway
treats it as missing.  White space here is the Unicode property of that name.
-/

/-- The characters with the Unicode property White_Space. -/
def isSpace (c : Char) : Bool :=
  let code := c.toNat
  (0x09 ≤ code && code ≤ 0x0d) || code == 0x20 || code == 0x85 || code == 0xa0
    || code == 0x1680 || (0x2000 ≤ code && code ≤ 0x200a) || code == 0x2028
    || code == 0x2029 || code == 0x202f || code == 0x205f || code == 0x3000

/-- Whether a text holds nothing but white space; the empty text does. -/
def isBlank (text : String) : Bool :=
  text.toList.all isSpace

/-- A list without the leading and trailing elements of a class. -/
def trimBy (drop : Char → Bool) (chars : List Char) : List Char :=
  ((chars.dropWhile drop).reverse.dropWhile drop).reverse

def trim (text : String) : String :=
  String.ofList (trimBy isSpace text.toList)

/-- A text without the given character at its end. -/
def trimEnd (last : Char) (text : String) : String :=
  String.ofList (text.toList.reverse.dropWhile (· == last)).reverse

end Text
end LendingGateway
