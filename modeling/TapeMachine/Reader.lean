import TapeMachine.Text.Blank

/-! # Readers of text

A reader takes a value off the front of a text and says what is left, or refuses the text. A refusal
lists complaints, the first of which names the innermost requirement that was not met; each
complaint keeps the text that was left where it arose. A reader of text that may still grow can also
ask for more of it.

Choice is ordered: the first alternative that does not refuse decides, and if all refuse, the last
one's complaints stand.
-/

namespace TapeMachine

/-- What a refused text was required to do. -/
inductive Requirement where
  /-- Begin with certain characters. -/
  | literal
  /-- Have a property that is checked after reading. -/
  | property
  /-- Be readable in one of several ways. -/
  | alternative
  deriving DecidableEq

namespace Requirement

/-- The requirement as a report calls it. -/
def name : Requirement → String
  | .literal => "Tag"
  | .property => "Verify"
  | .alternative => "Alt"

end Requirement

/-- A requirement that was not met, and the text that was left at that point. -/
structure Complaint where
  requirement : Requirement
  rest : List Char
  deriving DecidableEq

/-- The answer of a reader. -/
inductive Reply (α : Type) where
  | value (value : α) (rest : List Char)
  | refused (complaints : List Complaint)
  /-- The text is too short to decide; characters are needed, that many from the place reached. -/
  | needsMore (count : Nat)

/-- A function that reads a value off the front of a text. -/
abbrev Reader (α : Type) := List Char → Reply α

namespace Reader

variable {α β : Type}

/-- Reads on with `continuation` after a value. -/
def bind (reader : Reader α) (continuation : α → Reader β) : Reader β := fun text =>
  match reader text with
  | .value value rest => continuation value rest
  | .refused complaints => .refused complaints
  | .needsMore count => .needsMore count

/-- Applies `f` to the value read. -/
def map (f : α → β) (reader : Reader α) : Reader β :=
  reader.bind fun value rest => .value (f value) rest

/-- Reads and drops what `first` reads, then reads with `second`. -/
def dropThen (first : Reader α) (second : Reader β) : Reader β :=
  first.bind fun _ => second

/-- Reads exactly these characters. -/
def literal (characters : List Char) : Reader (List Char) := fun text =>
  if characters.isPrefixOf text then .value characters (text.drop characters.length)
  else .refused [⟨.literal, text⟩]

/-- Reads exactly these characters from text that may still grow: a text that breaks off inside them
is not refused. -/
def growingLiteral (characters : List Char) : Reader (List Char) := fun text =>
  if characters.isPrefixOf text then .value characters (text.drop characters.length)
  else if text.isPrefixOf characters then .needsMore characters.length
  else .refused [⟨.literal, text⟩]

/-- Reads all blanks, tabs, carriage returns and line feeds there are, maybe none. -/
def separators : Reader (List Char) := fun text =>
  .value (text.takeWhile Text.isSeparator) (text.dropWhile Text.isSeparator)

/-- Reads everything. -/
def everything : Reader (List Char) := fun text =>
  .value text []

/-- Reads with `reader` and refuses a value without `property`, complaining about the whole text. -/
def satisfying (property : α → Bool) (reader : Reader α) : Reader α := fun text =>
  match reader text with
  | .value value rest =>
    if property value then .value value rest else .refused [⟨.property, text⟩]
  | reply => reply

/-- Tries readers in order; `complaints` are those of the reader tried last. -/
def firstOf (complaints : List Complaint) : List (Reader α) → Reader α
  | [], text => .refused (complaints ++ [⟨.alternative, text⟩])
  | reader :: others, text =>
    match reader text with
    | .refused complaints => firstOf complaints others text
    | reply => reply

/-- Reads with the first reader that does not refuse. -/
def alternatives (readers : List (Reader α)) : Reader α :=
  firstOf [] readers

end Reader

end TapeMachine
