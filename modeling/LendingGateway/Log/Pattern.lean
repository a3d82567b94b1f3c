import LendingGateway.Text.Alphanumeric
import LendingGateway.Text.Digits

namespace LendingGateway
namespace Log

/-!
# Patterns

A log filter may ask for a field to have a value that matches a pattern.  No event of the
gateway has such a value, so a pattern is never matched; all that counts is whether it is
one.  A pattern is a regular expression: alternatives, groups, classes of characters,
repetitions and escapes.
-/

namespace Pattern

/-! ## Escapes -/

/-- What an escape stands for. -/
inductive Escaped where
  | literal (code : Nat)
  | charClass
  /-- A place in the text, such as its beginning. -/
  | place
deriving DecidableEq, Repr

/-- A character given by a number of digits to base sixteen. -/
def readCode? (count : Nat) (rest : List Char) : Option (Escaped × List Char) := do
  if rest.length < count then none
  else
    let code ← Text.digitsValue? 16 (rest.take count)
    if code.isValidChar then some (.literal code, rest.drop count) else none

/-- The names of one letter that groups of characters have. -/
def isCategoryName (c : Char) : Bool :=
  "CLMNPSZclmnpsz".toList.contains c

/-- The control characters that have an escape of one letter. -/
def controlOf? : Char → Option Nat
  | 'a' => some 0x07
  | 't' => some 0x09
  | 'n' => some 0x0a
  | 'v' => some 0x0b
  | 'f' => some 0x0c
  | 'r' => some 0x0d
  | _ => none

/-- Read what follows a backslash.  The places between words are not among the escapes,
since they cannot be found in one pass. -/
def readEscape? : List Char → Option (Escaped × List Char)
  | [] => none
  | 'x' :: rest => readCode? 2 rest
  | 'u' :: rest => readCode? 4 rest
  | 'U' :: rest => readCode? 8 rest
  | 'p' :: c :: rest | 'P' :: c :: rest =>
    if isCategoryName c then some (.charClass, rest) else none
  | c :: rest =>
    if "dswDSW".toList.contains c then some (.charClass, rest)
    else if c == 'A' || c == 'z' then some (.place, rest)
    else if let some code := controlOf? c then some (.literal code, rest)
    else if c.toNat < 0x80 && !c.isAlphanum && c != '<' && c != '>' then
      some (.literal c.toNat, rest)
    else none

/-! ## Classes -/

/-- The names of classes that may stand between colons. -/
def classNames : List String :=
  ["alnum", "alpha", "ascii", "blank", "cntrl", "digit", "graph", "lower", "print", "punct",
    "space", "upper", "word", "xdigit"]

/-- What follows a named class whose bracket has been read. -/
def dropNamedClass? (rest : List Char) : Option (List Char) :=
  match rest with
  | ':' :: rest =>
    let rest := if rest.head? = some '^' then rest.tail else rest
    let name := String.ofList (rest.takeWhile (· != ':'))
    match rest.dropWhile (· != ':') with
    | ':' :: ']' :: rest => if classNames.contains name then some rest else none
    | _ => none
  | _ => none

/-- What follows the beginning of a class: a caret, hyphens, or else a closing bracket stand
for themselves there. -/
def dropClassStart (rest : List Char) : List Char :=
  let rest := if rest.head? = some '^' then rest.tail else rest
  match rest with
  | '-' :: _ => rest.dropWhile (· == '-')
  | ']' :: rest => rest
  | _ => rest

/-- Read one character of a class, or an escape. -/
def readMember? : List Char → Option (Escaped × List Char)
  | [] => none
  | '\\' :: rest => (readEscape? rest).filter fun (escaped, _) => escaped != .place
  | c :: rest => some (.literal c.toNat, rest)

/-- Read a member of a class or a range of them; returns what follows. -/
def dropRange? (text : List Char) : Option (List Char) := do
  let (first, rest) ← readMember? text
  match rest with
  | '-' :: ']' :: _ | '-' :: '-' :: _ => some rest
  | '-' :: rest =>
    let (last, rest) ← readMember? rest
    match first, last with
    | .literal first, .literal last => if first ≤ last then some rest else none
    | _, _ => none
  | _ => some rest

/-- What follows a class, inside of `depth` brackets. -/
def dropClass? : (fuel depth : Nat) → List Char → Option (List Char)
  | 0, _, _ | _, _, [] => none
  | fuel + 1, depth, ']' :: rest =>
    if depth ≤ 1 then some rest else dropClass? fuel (depth - 1) rest
  | fuel + 1, depth, '[' :: rest =>
    match dropNamedClass? rest with
    | some rest => dropClass? fuel depth rest
    | none => dropClass? fuel (depth + 1) (dropClassStart rest)
  | fuel + 1, depth, '&' :: '&' :: rest | fuel + 1, depth, '-' :: '-' :: rest
  | fuel + 1, depth, '~' :: '~' :: rest => dropClass? fuel depth rest
  | fuel + 1, depth, text => do dropClass? fuel depth (← dropRange? text)

/-! ## Groups -/

/-- What stands at the beginning of a group. -/
inductive Opening where
  | group (name : Option String)
  /-- A change of how the rest is read, which is no group. -/
  | flags
deriving DecidableEq, Repr

def isNameChar (first : Bool) (c : Char) : Bool :=
  c == '_' || (Text.isAlphanumeric c && !(first && c.isDigit))
    || (!first && (c == '.' || c == '[' || c == ']'))

/-- Read the name of a group up to the bracket after it. -/
def readName? (rest : List Char) : Option (Opening × List Char) :=
  let name := rest.takeWhile (· != '>')
  match rest.dropWhile (· != '>'), name with
  | _ :: rest, first :: others =>
    if isNameChar true first && others.all (isNameChar false) then
      some (.group (some (String.ofList name)), rest)
    else none
  | _, _ => none

/-- Whether a text is a list of flags, of which some may follow a hyphen. -/
def areFlags (text : List Char) : Bool :=
  let letters := text.filter (· != '-')
  letters.all ("imsURux".toList.contains ·) && letters.Nodup && text.count '-' ≤ 1
    && text.getLast? != some '-'

/-- Read the beginning of a group after its parenthesis. -/
def readOpening? : List Char → Option (Opening × List Char)
  | '?' :: 'P' :: '<' :: rest => readName? rest
  | '?' :: '<' :: rest => readName? rest
  | '?' :: rest =>
    let flags := rest.takeWhile fun c => c != ':' && c != ')'
    if areFlags flags then
      match rest.dropWhile fun c => c != ':' && c != ')' with
      | ':' :: rest => some (.group none, rest)
      | ')' :: rest => if flags.isEmpty then none else some (.flags, rest)
      | _ => none
    else none
  | rest => some (.group none, rest)

/-! ## Patterns -/

/-- Whether the rest of a pattern is one, inside of `depth` groups.  `operand` tells whether
there is something that may be repeated; `names` are the names of the groups so far. -/
def isRest : (fuel depth : Nat) → (operand : Bool) → (names : List String) → List Char → Bool
  | 0, _, _, _, _ => false
  | _, depth, _, _, [] => depth == 0
  | fuel + 1, depth, operand, names, c :: rest =>
    if c == '(' then
      match readOpening? rest with
      | some (.group (some name), rest) =>
        !names.contains name && isRest fuel (depth + 1) false (name :: names) rest
      | some (.group none, rest) => isRest fuel (depth + 1) false names rest
      | some (.flags, rest) => isRest fuel depth false names rest
      | none => false
    else if c == ')' then 0 < depth && isRest fuel (depth - 1) true names rest
    else if c == '|' then isRest fuel depth false names rest
    else if c == '*' || c == '+' || c == '?' then operand && isRest fuel depth true names rest
    else if c == '\x7b' then false
    else if c == '[' then
      (dropClass? (rest.length + 1) 1 (dropClassStart rest)).any (isRest fuel depth true names ·)
    else if c == '\\' then
      (readEscape? rest).any fun (_, rest) => isRest fuel depth true names rest
    else isRest fuel depth true names rest

/-- Whether a text is a number, which a value may be instead of a pattern.  Only a sign in
front makes a difference, since other numbers are patterns too. -/
def isSignedNumber (text : List Char) : Bool :=
  match text with
  | '+' :: number =>
    let lower := number.map Char.toLower
    let mantissa := lower.takeWhile (· != 'e')
    let whole := mantissa.takeWhile (· != '.')
    let decimals := (mantissa.dropWhile (· != '.')).drop 1
    let exponent := lower.dropWhile (· != 'e')
    let digits := match exponent with
      | _ :: '+' :: digits | _ :: '-' :: digits | _ :: digits => digits
      | [] => ['0']
    lower ∈ ["inf".toList, "infinity".toList, "nan".toList]
      || (whole ++ decimals != [] && (whole ++ decimals).all Char.isDigit
        && digits != [] && digits.all Char.isDigit)
  | _ => false

end Pattern

/-- Whether a text is a pattern for values.  A repetition by a count is not among them, as
it would need a brace, which ends the value. -/
def isPattern (text : String) : Bool :=
  let chars := text.toList
  Pattern.isSignedNumber chars || Pattern.isRest (chars.length + 1) 0 false [] chars

end Log
end LendingGateway
