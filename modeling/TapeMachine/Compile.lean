import TapeMachine.Program
import TapeMachine.Token

/-! # Compiling a source

Tokens are assembled into a program from left to right. An opening bracket is emitted as a jump
without a target and kept on a stack; the closing bracket that meets it emits the jump back and
directs the opening one past itself. So each jump leads to the address just after its partner.

A closing bracket without a partner stops the assembly at once; an opening bracket without one is
found at the end of the source, and the innermost of them is reported.
-/

namespace TapeMachine

/-- Why a source does not compile. -/
inductive CompileError where
  /-- The loop opened at byte `offset` is still open at the end of the source. -/
  | unmatchedStart (offset : Nat)
  /-- At byte `offset` a loop is closed although none is open. -/
  | unmatchedEnd (offset : Nat)
  deriving DecidableEq

namespace CompileError

/-- The bracket that has no partner. -/
def bracket : CompileError → Symbol
  | .unmatchedStart _ => .loopStart
  | .unmatchedEnd _ => .loopEnd

/-- Where the source has that bracket. -/
def offset : CompileError → Nat
  | .unmatchedStart offset => offset
  | .unmatchedEnd offset => offset

/-- The text that reports the error. -/
def message (error : CompileError) : String :=
  "Unbalanced loop: unmatched '" ++ error.bracket.toChar.toString ++ "' at byte " ++
    error.offset.repr

end CompileError

/-- A loop whose opening bracket has been emitted and whose closing bracket has not. -/
structure OpenLoop where
  /-- Where the program has the opening jump. -/
  address : Nat
  /-- Where the source has the bracket. -/
  offset : Nat
  deriving DecidableEq

/-- A program under construction; the innermost open loop comes first. -/
structure Assembly where
  program : Program
  openLoops : List OpenLoop
  deriving DecidableEq

namespace Assembly

/-- The state before the first token. -/
def empty : Assembly := ⟨.empty, []⟩

/-- Emits the operation of one token. -/
def add (assembly : Assembly) (token : Token) : Except CompileError Assembly :=
  match assembly, token with
  | ⟨program, openLoops⟩, .run action count _ =>
    .ok ⟨program.push (.perform action count), openLoops⟩
  | ⟨program, openLoops⟩, .loopStart offset =>
    let address := program.size
    .ok ⟨program.push (.jumpIfZero 0), ⟨address, offset⟩ :: openLoops⟩
  | ⟨_, []⟩, .loopEnd offset => .error (.unmatchedEnd offset)
  | ⟨program, start :: openLoops⟩, .loopEnd _ =>
    let closed := program.push (.jumpIfNonzero (start.address + 1))
    let exit := closed.size
    .ok ⟨closed.patch start.address exit, openLoops⟩

/-- Emits tokens in order, up to the first that has no place. -/
def addAll (assembly : Assembly) : List Token → Except CompileError Assembly
  | [] => .ok assembly
  | token :: rest =>
    match assembly.add token with
    | .ok assembly => assembly.addAll rest
    | .error error => .error error

/-- The finished program, unless a loop is still open. -/
def finish (assembly : Assembly) : Except CompileError Program :=
  match assembly.openLoops with
  | [] => .ok assembly.program
  | unmatched :: _ => .error (.unmatchedStart unmatched.offset)

end Assembly

/-- The program that a source stands for. -/
def compile (source : Source) : Except CompileError Program :=
  match Assembly.empty.addAll (Token.ofSource source) with
  | .ok assembly => assembly.finish
  | .error error => .error error

end TapeMachine
