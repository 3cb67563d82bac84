/-! # Log events

What the program reports about its own work. An event has a level, a target that names the part of
the program it comes from, a text, and named values.
-/

namespace TapeMachine.Log

/-- How much an event matters; a filter lets through a level and all that matter more. -/
inductive Level where
  | error
  | warn
  | info
  | debug
  | trace
  deriving DecidableEq

namespace Level

/-- How verbose a log has to be to show the level. -/
def verbosity : Level → Nat
  | .error => 1
  | .warn => 2
  | .info => 3
  | .debug => 4
  | .trace => 5

/-- The level as a log line begins with it. -/
def name : Level → String
  | .error => "ERROR"
  | .warn => "WARN"
  | .info => "INFO"
  | .debug => "DEBUG"
  | .trace => "TRACE"

end Level

/-- What can be reported. -/
inductive Event where
  /-- A program file of that many bytes is about to be run. -/
  | runningProgram (path : String) (bytes : Nat)
  /-- The shell is about to execute a command. -/
  | executing (command : String)
  /-- The shell starts without the history it should have loaded. -/
  | withoutHistory (path error : String)
  /-- The shell could not read a line. -/
  | unreadableLine (error : String)
  | programCompiled (operations sourceBytes : Nat)
  | programHalted (steps head tapeSize : Nat)
  deriving DecidableEq

namespace Event

/-- How much the event matters. -/
def level : Event → Level
  | .runningProgram _ _ => .info
  | .executing _ => .debug
  | .withoutHistory _ _ => .debug
  | .unreadableLine _ => .error
  | .programCompiled _ _ => .debug
  | .programHalted _ _ _ => .debug

/-- The part of the program that reports the event. -/
def target : Event → String
  | .runningProgram _ _ => "bfvm::interpreter"
  | .executing _ => "bfvm::interpreter"
  | .withoutHistory _ _ => "bfvm::interpreter"
  | .unreadableLine _ => "bfvm::interpreter"
  | .programCompiled _ _ => "bfvm::vm::compiler"
  | .programHalted _ _ _ => "bfvm::vm::machine"

/-- The text of the event. -/
def message : Event → String
  | .runningProgram _ _ => "running program"
  | .executing _ => "executing"
  | .withoutHistory _ _ => "starting without history"
  | .unreadableLine _ => "failed to read from the terminal"
  | .programCompiled _ _ => "program compiled"
  | .programHalted _ _ _ => "program halted"

/-- The named values of the event, in the order in which they are written. -/
def fields : Event → List (String × String)
  | .runningProgram path bytes => [("path", path), ("bytes", bytes.repr)]
  | .executing command => [("command", command)]
  | .withoutHistory path error => [("history", path), ("error", error)]
  | .unreadableLine error => [("error", error)]
  | .programCompiled operations sourceBytes =>
    [("operations", operations.repr), ("source_bytes", sourceBytes.repr)]
  | .programHalted steps head tapeSize =>
    [("steps", steps.repr), ("head", head.repr), ("tape_size", tapeSize.repr)]

/-- The line that the log shows for the event. -/
def line (event : Event) : String :=
  event.level.name ++ " " ++ event.target ++ ": " ++ event.message ++
    String.join (event.fields.map fun (name, value) => " " ++ name ++ "=" ++ value) ++ "\n"

end Event

end TapeMachine.Log
