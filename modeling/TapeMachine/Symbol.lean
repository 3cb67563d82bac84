/-! # Instruction symbols

A source is read for eight characters only. Six of them act on the tape or on the console, the
two brackets delimit a loop, and every other character is a comment. Symbols are recognised in
characters; a byte is a symbol exactly when it is one as a character below 256, so no byte of a
longer UTF-8 sequence is ever mistaken for one.
-/

namespace TapeMachine

/-- What a single instruction does to the tape or to the console. -/
inductive Action where
  | moveRight
  | moveLeft
  | increment
  | decrement
  | output
  | input
  deriving DecidableEq

/-- One of the eight instruction characters. -/
inductive Symbol where
  | act (action : Action)
  | loopStart
  | loopEnd
  deriving DecidableEq

namespace Symbol

/-- The symbol that a character is, if it is not a comment. -/
def ofChar? : Char → Option Symbol
  | '>' => some (.act .moveRight)
  | '<' => some (.act .moveLeft)
  | '+' => some (.act .increment)
  | '-' => some (.act .decrement)
  | '.' => some (.act .output)
  | ',' => some (.act .input)
  | '[' => some .loopStart
  | ']' => some .loopEnd
  | _ => none

/-- The symbol that a byte of a source is, if it is not a comment. -/
def ofByte? (byte : UInt8) : Option Symbol :=
  ofChar? (Char.ofUInt8 byte)

/-- The character that a symbol is written as. -/
def toChar : Symbol → Char
  | .act .moveRight => '>'
  | .act .moveLeft => '<'
  | .act .increment => '+'
  | .act .decrement => '-'
  | .act .output => '.'
  | .act .input => ','
  | .loopStart => '['
  | .loopEnd => ']'

/-- The long name of a symbol, as diagnostics spell it. -/
def name : Symbol → String
  | .act .moveRight => "MoveRight"
  | .act .moveLeft => "MoveLeft"
  | .act .increment => "Increment"
  | .act .decrement => "Decrement"
  | .act .output => "Output"
  | .act .input => "Input"
  | .loopStart => "LoopStart"
  | .loopEnd => "LoopEnd"

/-- The short name of a symbol in a program listing; a bracket is named for the jump it becomes. -/
def mnemonic : Symbol → String
  | .act .moveRight => "right"
  | .act .moveLeft => "left"
  | .act .increment => "inc"
  | .act .decrement => "dec"
  | .act .output => "out"
  | .act .input => "in"
  | .loopStart => "jz"
  | .loopEnd => "jnz"

@[simp] theorem ofChar?_toChar (symbol : Symbol) : ofChar? symbol.toChar = some symbol := by
  rcases symbol with action | _ | _
  · cases action <;> rfl
  · rfl
  · rfl

theorem ofChar?_eq_some_iff {char : Char} {symbol : Symbol} :
    ofChar? char = some symbol ↔ char = symbol.toChar := by
  constructor
  · intro found
    unfold ofChar? at found
    split at found <;> cases found <;> rfl
  · rintro rfl
    exact ofChar?_toChar symbol

end Symbol

end TapeMachine
