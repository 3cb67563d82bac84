import TapeMachine.Console
import TapeMachine.Execution
import TapeMachine.Source
import TapeMachine.Tape

/-! # Reading a source directly

What a source means, without compiling it: its bytes are read one at a time and each instruction is
done once. At an opening bracket over a zero cell reading goes on behind the bracket that closes the
loop, at a closing bracket over any other cell behind the one that opens it. All other bytes are
skipped, and reading ends behind the last byte.

Partners are found by counting brackets. Only a source whose brackets nest has a partner for each;
where one is missing, the end or the beginning of the source stands in for it.
-/

namespace TapeMachine.Direct

/-- Where reading stands. -/
structure State (σ : Type) where
  position : Nat
  tape : Tape
  console : σ

/-- Why reading stops early. -/
inductive Fault where
  | underflow
  | endOfInput
  | console (reason : String)
  deriving DecidableEq

/-- What reading leaves when it stops. -/
structure Stop (σ : Type) where
  tape : Tape
  console : σ
  fault : Option Fault

/-- The position behind the bracket that closes a loop, where `bytes` is the source from `position`,
inside that loop and inside `depth` more. -/
def loopExit (depth : Nat) (bytes : Source) (position : Nat) : Nat :=
  match bytes with
  | [] => position
  | byte :: rest =>
    match Symbol.ofByte? byte, depth with
    | some .loopStart, depth => loopExit (depth + 1) rest (position + 1)
    | some .loopEnd, 0 => position + 1
    | some .loopEnd, depth + 1 => loopExit depth rest (position + 1)
    | _, depth => loopExit depth rest (position + 1)

/-- The position behind the bracket that opens a loop, where `bytes` is the source before
`position`, last byte first, inside that loop and inside `depth` more. -/
def loopEntry (depth : Nat) (bytes : Source) (position : Nat) : Nat :=
  match bytes with
  | [] => position
  | byte :: rest =>
    match Symbol.ofByte? byte, depth with
    | some .loopEnd, depth => loopEntry (depth + 1) rest (position - 1)
    | some .loopStart, 0 => position
    | some .loopStart, depth + 1 => loopEntry depth rest (position - 1)
    | _, depth => loopEntry depth rest (position - 1)

section

variable {σ : Type} [Console σ]

/-- Does one action once and goes on behind it. -/
def perform (action : Action) : State σ → Progress (State σ) (Stop σ)
  | ⟨position, tape, console⟩ =>
    match action with
    | .moveRight => .running ⟨position + 1, tape.moveRight 1, console⟩
    | .moveLeft =>
      match tape.moveLeft 1 with
      | .ok moved => .running ⟨position + 1, moved, console⟩
      | .error _ => .stopped ⟨tape, console, some .underflow⟩
    | .increment => .running ⟨position + 1, tape.add 1, console⟩
    | .decrement => .running ⟨position + 1, tape.sub 1, console⟩
    | .output =>
      match Console.write tape.load console with
      | (.written, console) => .running ⟨position + 1, tape, console⟩
      | (.failed reason, console) => .stopped ⟨tape, console, some (.console reason)⟩
    | .input =>
      match Console.read console with
      | (.line line, console) => .running ⟨position + 1, tape.store (line.headD 0), console⟩
      | (.endOfInput, console) => .stopped ⟨tape, console, some .endOfInput⟩
      | (.failed reason, console) => .stopped ⟨tape, console, some (.console reason)⟩

/-- Reads one byte. -/
def step (source : Source) : State σ → Progress (State σ) (Stop σ)
  | ⟨position, tape, console⟩ =>
    match source[position]? with
    | none => .stopped ⟨tape, console, none⟩
    | some byte =>
      match Symbol.ofByte? byte with
      | none => .running ⟨position + 1, tape, console⟩
      | some (.act action) => perform action ⟨position, tape, console⟩
      | some .loopStart =>
        let exit := loopExit 0 (source.drop (position + 1)) (position + 1)
        .running ⟨if tape.load = 0 then exit else position + 1, tape, console⟩
      | some .loopEnd =>
        let entry := loopEntry 0 (source.take position).reverse position
        .running ⟨if tape.load = 0 then position + 1 else entry, tape, console⟩

/-- Reads the source from its beginning for up to `count` steps. -/
def readFor (source : Source) (count : Nat) (tape : Tape) (console : σ) :
    Progress (State σ) (Stop σ) :=
  runSteps (step source) count ⟨0, tape, console⟩

end

end TapeMachine.Direct
