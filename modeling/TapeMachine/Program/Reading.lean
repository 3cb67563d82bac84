import TapeMachine.Program.Listing

/-! # Reading listings back

A listing says everything about its program: the addresses and the marks can be dropped, and the
operations are read off the rest of each line. `Program.ofListing?` is the inverse of
`Program.listing`; the line for a jump past the end holds no operation and is passed over.
-/

namespace TapeMachine

/-- The number that decimal digits stand for, zeros in front included. -/
def Text.number? (digits : List Char) : Option Nat :=
  if !digits.isEmpty && digits.all Char.isDigit then
    some (digits.foldl (fun number digit => 10 * number + (digit.toNat - '0'.toNat)) 0)
  else none

/-- The symbol with a short name. -/
def Symbol.ofMnemonic? (word : List Char) : Option Symbol :=
  match String.ofList word with
  | "right" => some (.act .moveRight)
  | "left" => some (.act .moveLeft)
  | "inc" => some (.act .increment)
  | "dec" => some (.act .decrement)
  | "out" => some (.act .output)
  | "in" => some (.act .input)
  | "jz" => some .loopStart
  | "jnz" => some .loopEnd
  | _ => none

namespace Operation

/-- Reads an operation as listings show it: its short name, and its operand behind blanks and the
arrow of a jump. -/
def ofText? (text : List Char) : Option Operation := do
  let word := text.takeWhile (· != ' ')
  let symbol ← Symbol.ofMnemonic? word
  let operand ← Text.number? ((text.drop word.length).dropWhile fun char => !char.isDigit)
  return ofSymbol symbol operand

end Operation

namespace Program

/-- What a line of a listing says behind its address and its mark. -/
def lineContent (line : List Char) : List Char :=
  (line.dropWhile Char.isDigit).drop 3

/-- Reads the lines of a listing. -/
def ofLines? : List (List Char) → Option (List Operation)
  | [] => some []
  | line :: rest => do
    let operations ← ofLines? rest
    if String.ofList (lineContent line) = "halt" then return operations
    return (← Operation.ofText? (lineContent line)) :: operations

/-- Reads a listing. -/
def ofListing? (text : String) : Option Program := do
  let lines := (text.toList.splitOn '\n').filter (!·.isEmpty)
  return ⟨(← ofLines? lines).toArray⟩

end Program

end TapeMachine
