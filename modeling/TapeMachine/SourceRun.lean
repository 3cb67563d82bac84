import TapeMachine.Compile
import TapeMachine.Log.Event
import TapeMachine.Machine

/-! # Running a source

Compiling a source and running the program on a machine, with the events that the two report. A
source that does not compile leaves the machine alone.
-/

namespace TapeMachine

/-- Why a source was not run to a successful end. -/
inductive SourceError where
  | compile (error : CompileError)
  | execution (error : ExecutionError)
  deriving DecidableEq

namespace SourceError

/-- The text that reports the error, which says at which stage it arose. -/
def message : SourceError → String
  | .compile error => "Compilation failure: " ++ error.message
  | .execution error => "Runtime failure: " ++ error.message

end SourceError

/-- What became of a source. -/
inductive SourceRun (σ : Type) where
  | rejected (error : CompileError) (machine : Machine σ)
  | ended (program : Program) (ending : Ending σ)

/-- What the compiler reports of a source. -/
def compileEvents (source : Source) : Except CompileError Program → List Log.Event
  | .ok program => [.programCompiled program.size source.length]
  | .error _ => []

namespace Ending

variable {σ : Type}

/-- What a run reports: its successful end only. -/
def events (ending : Ending σ) : List Log.Event :=
  match ending with
  | ⟨machine, none⟩ => [.programHalted machine.steps machine.tape.head machine.tape.size]
  | ⟨_, some _⟩ => []

end Ending

namespace SourceRun

variable {σ : Type}

/-- How running `source` on `machine` ends, if it does so within `patience` steps. -/
def run? [Console σ] (patience : Nat) (source : Source) (machine : Machine σ) :
    Option (SourceRun σ) :=
  match compile source with
  | .error error => some (.rejected error machine)
  | .ok program => (program.run? patience machine).map (.ended program)

/-- The machine as the run leaves it. -/
def machine : SourceRun σ → Machine σ
  | .rejected _ machine => machine
  | .ended _ ending => ending.machine

/-- Why the source was not run to a successful end, if it was not. -/
def error? : SourceRun σ → Option SourceError
  | .rejected error _ => some (.compile error)
  | .ended _ ending => ending.fault.map .execution

/-- What running `source` in this way reports. -/
def events (source : Source) : SourceRun σ → List Log.Event
  | .rejected error _ => compileEvents source (.error error)
  | .ended program ending => compileEvents source (.ok program) ++ ending.events

end SourceRun

end TapeMachine
