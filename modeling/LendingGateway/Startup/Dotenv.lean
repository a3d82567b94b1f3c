import LendingGateway.Startup.Environment
import LendingGateway.Text.Alphanumeric
import LendingGateway.Text.Blank

namespace LendingGateway
namespace Startup

/-!
# Files of variables

A file may set variables that are not set otherwise, one in a line.  Values may be
quoted, span several lines inside quotes, and refer to variables that are set already.
Reading stops at the first line that makes no sense; what was set before stays set.
-/

namespace Dotenv

/-! ## Lines -/

/-- A text cut after every line end. -/
def physicalLines : List Char → List (List Char)
  | [] => []
  | c :: rest =>
    if c = '\n' then [c] :: physicalLines rest
    else
      match physicalLines rest with
      | [] => [[c]]
      | line :: lines => (c :: line) :: lines

/-- Where the search for the end of a line stands. -/
inductive LineState where
  | plain
  | space
  | escape
  | weak
  | weakEscape
  | strong
  | strongEscape
deriving DecidableEq

/-- What a character outside quotes leads to. -/
def LineState.outside (c : Char) (other : LineState) : LineState :=
  if c = '\\' then .escape
  else if c = '"' then .weak
  else if c = '\'' then .strong
  else other

/-- One character of a line; a comment has been dealt with before. -/
def LineState.step : LineState → Char → LineState
  | .space, c => outside c .plain
  | .plain, c =>
    outside c (if Text.isSpace c && c != '\n' && c != '\r' then .space else .plain)
  | .escape, _ => .plain
  | .weak, c => if c = '\\' then .weakEscape else if c = '"' then .plain else .weak
  | .weakEscape, _ => .weak
  | .strong, c => if c = '\\' then .strongEscape else if c = '\'' then .plain else .strong
  | .strongEscape, _ => .strong

/-- Scan a line from a state.  The result is the state at its end, or the text before a
comment; a comment begins with a number sign after white space. -/
def scanLine (state : LineState) (kept : List Char) : List Char → LineState ⊕ List Char
  | [] => .inl state
  | c :: rest =>
    if state = .space ∧ c = '#' then .inr kept.reverse
    else scanLine (state.step c) (c :: kept) rest

/-- A line without the line end after it. -/
def dropLineEnd (line : List Char) : List Char :=
  match line.reverse with
  | '\n' :: '\r' :: rest => rest.reverse
  | '\n' :: rest => rest.reverse
  | _ => line

def isComment (line : List Char) : Bool :=
  (line.dropWhile Text.isSpace).head? == some '#'

/-- Join the lines that belong together.  An element is none where the file ends inside
quotes or after white space. -/
def logicalLines (state : LineState) (buffer : List Char) :
    List (List Char) → List (Option (List Char))
  | [] => if state = .plain then [] else [none]
  | line :: rest =>
    let whole := buffer ++ line
    if isComment whole then some [] :: logicalLines .plain [] rest
    else
      match scanLine state [] line with
      | .inr kept => some (buffer ++ kept) :: logicalLines .plain [] rest
      | .inl .plain => some (dropLineEnd whole) :: logicalLines .plain [] rest
      | .inl open_ => logicalLines open_ whole rest

/-! ## Values -/

/-- What the characters of a value are read as. -/
inductive ValueState where
  | plain
  | weak
  | strong
  /-- After a backslash; the flag tells whether that is inside quotes. -/
  | escape (quoted : Bool)
  /-- In the name of a variable after a dollar sign. -/
  | reference (quoted : Bool) (name : List Char)
  /-- In the name of a variable between braces. -/
  | braced (quoted : Bool) (name : List Char)
  /-- After the end of the value. -/
  | ended
  /-- In a comment. -/
  | comment

/-- The state outside any reference. -/
def ValueState.base (quoted : Bool) : ValueState :=
  if quoted then .weak else .plain

/-- The characters that a reference stands for: the text of the variable, or nothing. -/
def expand (environment : Environment) (name : List Char) : List Char :=
  ((environment.text? (String.ofList name.reverse)).getD "").toList

/-- One character of a value: the next state and what it adds to the value. -/
def ValueState.step (environment : Environment) (c : Char) :
    ValueState → Option (ValueState × List Char)
  | .comment => some (.comment, [])
  | .ended =>
    if c = ' ' ∨ c = '\t' then some (.ended, [])
    else if c = '#' then some (.comment, [])
    else none
  | .escape quoted =>
    if c = 'n' then some (base quoted, ['\n'])
    else if c ∈ ['\\', '\'', '"', '$', ' '] then some (base quoted, [c])
    else none
  | .strong => if c = '\'' then some (.plain, []) else some (.strong, [c])
  | .reference quoted name =>
    if Text.isAlphanumeric c then some (.reference quoted (c :: name), [])
    else if c = '\x7b' ∧ name = [] then some (.braced quoted [], [])
    else if c = '$' then some (.reference quoted [], expand environment name)
    else some (base quoted, expand environment name ++ [c])
  | .braced quoted name =>
    if c = '\x7d' then some (base quoted, expand environment name)
    else some (.braced quoted (c :: name), [])
  | .weak =>
    if c = '$' then some (.reference true [], [])
    else if c = '"' then some (.plain, [])
    else if c = '\\' then some (.escape true, [])
    else some (.weak, [c])
  | .plain =>
    if c = '$' then some (.reference false [], [])
    else if c = '\'' then some (.strong, [])
    else if c = '"' then some (.weak, [])
    else if c = '\\' then some (.escape false, [])
    else if c = ' ' ∨ c = '\t' then some (.ended, [])
    else some (.plain, [c])

/-- What the end of the text adds to a value; none when a quote or a brace is open. -/
def ValueState.finish (environment : Environment) : ValueState → Option (List Char)
  | .plain | .ended | .comment | .escape false => some []
  | .reference false name => some (expand environment name)
  | .reference true _ | .weak | .strong | .escape true | .braced .. => none

/-- Read a value from a state, the characters read so far in reverse. -/
def readValue (environment : Environment) (state : ValueState) (done : List Char) :
    List Char → Option String
  | [] => (state.finish environment).map fun last => String.ofList (done.reverse ++ last)
  | c :: rest =>
    match state.step environment c with
    | none => none
    | some (next, added) => readValue environment next (added.reverse ++ done) rest

/-! ## Assignments -/

def beginsName (c : Char) : Bool :=
  c.isAlpha || c == '_'

def insideName (c : Char) : Bool :=
  c.isAlphanum || c == '_' || c == '.'

/-- Read a name and the white space after it. -/
def readName? (text : List Char) : Option (String × List Char) :=
  if text.head?.any beginsName then
    some (String.ofList (text.takeWhile insideName),
      (text.dropWhile insideName).dropWhile Text.isSpace)
  else none

/-- Read a name and an equals sign.  The word `export` may stand before the name. -/
def readTarget? (text : List Char) : Option (String × List Char) := do
  let (name, rest) ← readName? text
  match rest with
  | '=' :: rest => some (name, rest)
  | _ =>
    if name = "export" then do
      let (name, rest) ← readName? rest
      match rest with
      | '=' :: rest => some (name, rest)
      | _ => none
    else none

inductive Line where
  | nothing
  | assignment (name text : String)
  | bad

def readLine (environment : Environment) (line : List Char) : Line :=
  let trimmed := Text.trimBy Text.isSpace line
  if trimmed.isEmpty || trimmed.head? == some '#' then .nothing
  else
    match readTarget? trimmed with
    | none => .bad
    | some (name, rest) =>
      let rest := rest.dropWhile Text.isSpace
      if rest.isEmpty || rest.head? == some '#' then .assignment name ""
      else
        match readValue environment .plain [] rest with
        | some text => .assignment name text
        | none => .bad

/-- Apply lines one after another up to the first that makes no sense. -/
def applyLines (environment : Environment) : List (Option (List Char)) → Environment
  | [] => environment
  | none :: _ => environment
  | some line :: rest =>
    match readLine environment line with
    | .nothing => applyLines environment rest
    | .assignment name text => applyLines (environment.setDefault name text) rest
    | .bad => environment

/-- A text without a byte order mark in front. -/
def dropMark (text : List Char) : List Char :=
  match text with
  | '\ufeff' :: rest => rest
  | _ => text

/-- The environment with the variables of a file. -/
def load (environment : Environment) (text : String) : Environment :=
  applyLines environment (logicalLines .plain [] (physicalLines (dropMark text.toList)))

end Dotenv

end Startup
end LendingGateway
