import TapeMachine.Text.Blank

/-! # The smallest parts of a pattern

A pattern is read with some switches on and others off. They decide whether blanks are skipped
between its parts, and which atoms may stand in it: words, digits, blanks, and letters without
regard to case are known for ASCII alone, and where only ASCII is known, what may match a part of a
character is refused.
-/

namespace TapeMachine.Log.Pattern

/-- The switches that decide how a pattern is read. -/
structure Mode where
  /-- Blanks and comments between the parts of a pattern are skipped. -/
  loose : Bool
  /-- Letters stand for both of their cases. -/
  caseless : Bool
  /-- A character is any of Unicode, not of ASCII alone. -/
  wide : Bool
  deriving DecidableEq

namespace Mode

/-- How a pattern is read that turns no switch. -/
def initial : Mode := ⟨false, false, true⟩

/-- Turns the switch with that letter. Some switches bear on matching alone. -/
def turn? (mode : Mode) (on : Bool) (switch : Char) : Option Mode :=
  match switch with
  | 'x' => some { mode with loose := on }
  | 'i' => some { mode with caseless := on }
  | 'u' => some { mode with wide := on }
  | 'm' | 's' | 'R' | 'U' => some mode
  | _ => none

/-- The text without the blanks and comments at its beginning. A comment begins with `#` and ends
with the line. -/
def dropBlanks (inComment : Bool) : List Char → List Char
  | [] => []
  | char :: rest =>
    if inComment then dropBlanks (char != '\n') rest
    else if char == '#' then dropBlanks true rest
    else if Text.isWhiteSpace char then dropBlanks false rest
    else char :: rest

/-- The text from the next part of the pattern on. -/
def skip (mode : Mode) (text : List Char) : List Char :=
  if mode.loose then dropBlanks false text else text

/-- The next character to come that is not blank; one comment sign before it is passed over. -/
def upcoming? (mode : Mode) (text : List Char) : Option Char :=
  if mode.loose then
    match text.filter (!Text.isWhiteSpace ·) with
    | '#' :: rest => rest.head?
    | rest => rest.head?
  else text.head?

end Mode

/-- The smallest parts of a pattern. -/
inductive Atom where
  /-- A character, which may have been written as the number of a byte. -/
  | literal (char : Char) (isByte : Bool)
  /-- Any character. -/
  | dot
  /-- The digits, blanks or characters of words, or all but these. -/
  | kind (isNegated : Bool)
  /-- One of the named classes, or all but its members. -/
  | namedKind (isNegated : Bool)
  /-- The beginning or the end of a line or of the text. -/
  | edge
  /-- The beginning or the end of a word, or any place but these. -/
  | wordEdge
  deriving DecidableEq

namespace Mode

/-- Whether an atom may stand outside of classes. -/
def allows (mode : Mode) : Atom → Bool
  | .literal char isByte =>
    if mode.wide then !mode.caseless else !(isByte && char.toNat > 0x7f)
  | .dot => mode.wide
  | .kind isNegated => !mode.wide && !isNegated
  | .namedKind _ => false
  | .edge => true
  | .wordEdge => !mode.wide

/-- Whether an atom may be a member of a class. -/
def allowsMember (mode : Mode) : Atom → Bool
  | .literal char _ => if mode.wide then !mode.caseless else char.toNat ≤ 0x7f
  | .kind isNegated => !mode.wide && !isNegated
  | .namedKind isNegated => if mode.wide then !mode.caseless else !isNegated
  | _ => false

end Mode

/-- The value of a hexadecimal digit. -/
def hexDigit? (char : Char) : Option Nat :=
  if char.isDigit then some (char.toNat - '0'.toNat)
  else if 'a' ≤ char ∧ char ≤ 'f' then some (char.toNat - 'a'.toNat + 10)
  else if 'A' ≤ char ∧ char ≤ 'F' then some (char.toNat - 'A'.toNat + 10)
  else none

/-- Reads that many hexadecimal digits after those whose value is `found`. -/
def hexNumber? (mode : Mode) : Nat → Nat → List Char → Option (Nat × List Char)
  | 0, found, text => some (found, text)
  | count + 1, found, text =>
    match mode.skip text with
    | [] => none
    | char :: rest => do hexNumber? mode count (found * 16 + (← hexDigit? char)) rest

/-- Reads a character that is written as a number of that many digits. -/
def numbered? (mode : Mode) (digits : Nat) (isByte : Bool) (text : List Char) :
    Option (Atom × List Char) := do
  let (code, rest) ← hexNumber? mode digits 0 text
  if code.isValidChar then some (.literal (Char.ofNat code) isByte, rest) else none

/-- Reads what follows a backslash. A sign stands for itself there, a letter or digit never does. -/
def escape? (mode : Mode) : List Char → Option (Atom × List Char)
  | [] => none
  | char :: rest =>
    let literal (char : Char) := some (Atom.literal char false, rest)
    match char with
    | 'x' => numbered? mode 2 true rest
    | 'u' => numbered? mode 4 false rest
    | 'U' => numbered? mode 8 false rest
    | 'd' | 's' | 'w' => some (.kind false, rest)
    | 'D' | 'S' | 'W' => some (.kind true, rest)
    | 'A' | 'z' => some (.edge, rest)
    | 'b' | 'B' | '<' | '>' => some (.wordEdge, rest)
    | 'a' => literal '\x07'
    | 't' => literal '\t'
    | 'n' => literal '\n'
    | 'v' => literal '\x0b'
    | 'f' => literal '\x0c'
    | 'r' => literal '\r'
    | char => if char.toNat ≤ 0x7f && !char.isAlphanum then literal char else none

/-- Reads an atom outside of classes. -/
def atom? (mode : Mode) : List Char → Option (Atom × List Char)
  | [] => none
  | '\\' :: rest => escape? mode rest
  | '.' :: rest => some (.dot, rest)
  | '^' :: rest => some (.edge, rest)
  | '$' :: rest => some (.edge, rest)
  | char :: rest => some (.literal char false, rest)

end TapeMachine.Log.Pattern
