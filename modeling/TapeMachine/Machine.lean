import TapeMachine.Console
import TapeMachine.Execution
import TapeMachine.Program
import TapeMachine.Tape

/-! # The machine

A machine holds a tape, a console and a count of the operations it has dispatched. It executes a
program operation by operation, from address zero until it reaches an address where the program has
none. A machine outlives its runs: the next program finds the tape, the console and the count as the
last one left them, after a fault too.

A fault stops a run in the middle of an operation. What the operation has read, written and stored
by then stands; a refused move leaves the tape as it was.
-/

namespace TapeMachine

/-- Why a run ends early. -/
inductive ExecutionError where
  | underflow (refused : Underflow)
  /-- The operation at `position` asked for a line after the last one. -/
  | unexpectedEndOfInput (position : Nat)
  /-- The console failed. -/
  | console (reason : String)
  deriving DecidableEq

namespace ExecutionError

/-- The text that reports the fault. -/
def message : ExecutionError → String
  | .underflow refused => refused.message
  | .unexpectedEndOfInput position =>
    "Unexpected end of input while executing operation " ++ position.repr
  | .console reason => "I/O failure: " ++ reason

end ExecutionError

/-- A tape machine attached to a console with states `σ`. -/
structure Machine (σ : Type) where
  tape : Tape
  console : σ
  /-- How many operations have been dispatched, those that failed included. -/
  steps : Nat

/-- A machine after some work, and the fault that cut the work short if there was one. -/
structure Ending (σ : Type) where
  machine : Machine σ
  fault : Option ExecutionError

/-- A machine about to execute the operation at an address. -/
structure Configuration (σ : Type) where
  address : Nat
  machine : Machine σ

namespace Machine

variable {σ : Type} [Console σ]

/-- A machine with a blank tape. -/
def fresh {σ : Type} (console : σ) : Machine σ := ⟨.blank, console, 0⟩

/-- Writes the current cell `count` times, up to the first write that fails. -/
def writeTimes : Nat → Machine σ → Ending σ
  | 0, machine => ⟨machine, none⟩
  | count + 1, ⟨tape, console, steps⟩ =>
    match Console.write tape.load console with
    | (.written, console) => writeTimes count ⟨tape, console, steps⟩
    | (.failed reason, console) => ⟨⟨tape, console, steps⟩, some (.console reason)⟩

/-- Reads `count` lines for the operation at `position`, up to the first read without a line, and
stores the first byte of each in the current cell. An empty line counts as zero. -/
def readTimes (position : Nat) : Nat → Machine σ → Ending σ
  | 0, machine => ⟨machine, none⟩
  | count + 1, ⟨tape, console, steps⟩ =>
    match Console.read console with
    | (.line line, console) => readTimes position count ⟨tape.store (line.headD 0), console, steps⟩
    | (.endOfInput, console) => ⟨⟨tape, console, steps⟩, some (.unexpectedEndOfInput position)⟩
    | (.failed reason, console) => ⟨⟨tape, console, steps⟩, some (.console reason)⟩

/-- Does `action` `count` times on behalf of the operation at `position`. Moves and arithmetic are
done in one go. -/
def perform (position : Nat) (action : Action) (count : Nat) (machine : Machine σ) : Ending σ :=
  match action, machine with
  | .moveRight, ⟨tape, console, steps⟩ => ⟨⟨tape.moveRight count, console, steps⟩, none⟩
  | .moveLeft, ⟨tape, console, steps⟩ =>
    match tape.moveLeft count with
    | .ok moved => ⟨⟨moved, console, steps⟩, none⟩
    | .error refused => ⟨⟨tape, console, steps⟩, some (.underflow refused)⟩
  | .increment, ⟨tape, console, steps⟩ => ⟨⟨tape.add count, console, steps⟩, none⟩
  | .decrement, ⟨tape, console, steps⟩ => ⟨⟨tape.sub count, console, steps⟩, none⟩
  | .output, machine => machine.writeTimes count
  | .input, machine => machine.readTimes position count

/-- Counts one more dispatched operation. -/
def tick {σ : Type} : Machine σ → Machine σ
  | ⟨tape, console, steps⟩ => ⟨tape, console, steps + 1⟩

/-- Executes the operation at `address`: goes on behind it or where it jumps, or stops at a
fault. -/
def dispatch (operation : Operation) (address : Nat) (machine : Machine σ) :
    Progress (Configuration σ) (Ending σ) :=
  match operation with
  | .perform action count =>
    match machine.tick.perform address action count with
    | ⟨machine, none⟩ => .running ⟨address + 1, machine⟩
    | ⟨machine, some fault⟩ => .stopped ⟨machine, some fault⟩
  | .jumpIfZero target =>
    let next := if machine.tape.load = 0 then target else address + 1
    .running ⟨next, machine.tick⟩
  | .jumpIfNonzero target =>
    let next := if machine.tape.load = 0 then address + 1 else target
    .running ⟨next, machine.tick⟩

end Machine

namespace Program

variable {σ : Type} [Console σ]

/-- One step of a run: the operation at the address reached, or a successful end where the program
has none. -/
def step (program : Program) : Configuration σ → Progress (Configuration σ) (Ending σ)
  | ⟨address, machine⟩ =>
    match program.fetch? address with
    | some operation => machine.dispatch operation address
    | none => .stopped ⟨machine, none⟩

/-- Runs the program from its first operation for up to `count` steps, the last of which finds the
end of the program. -/
def runFor (program : Program) (count : Nat) (machine : Machine σ) :
    Progress (Configuration σ) (Ending σ) :=
  runSteps program.step count ⟨0, machine⟩

/-- How the program ends on this machine, if it does so within `patience` steps. -/
def run? (patience : Nat) (program : Program) (machine : Machine σ) : Option (Ending σ) :=
  (program.runFor patience machine).result?

/-- More steps than any machine will ever take. -/
def longPatience : Nat := Nat.pow 10 18

end Program

end TapeMachine
