import TapeMachine.Console.Script
import TapeMachine.SourceRun

/-! # Checking whole programs

An expectation says what a program does with given lines of input: that it runs to its end, having
read so many lines and written exactly these bytes, or that it fails while running, having written
exactly these bytes by then. Checks are made in a fixed order and the first that does not hold
decides. A machine does the same each time, so one run settles an expectation.
-/

namespace TapeMachine

/-- A record in diagnostics: its name and the values of its fields. -/
def describeRecord (name : String) (fields : List (String × String)) : String :=
  name ++ " \x7b " ++ ", ".intercalate (fields.map fun (field, value) => field ++ ": " ++ value) ++
    " \x7d"

namespace CompileError

/-- The error as diagnostics show it. -/
def describe (error : CompileError) : String :=
  describeRecord "UnbalancedLoop"
    [("bracket", "'" ++ error.bracket.toChar.toString ++ "'"), ("offset", error.offset.repr)]

end CompileError

namespace ExecutionError

/-- The error as diagnostics show it. -/
def describe : ExecutionError → String
  | .underflow refused =>
    "Memory(" ++ describeRecord "Underflow"
      [("head", refused.head.repr), ("distance", refused.distance.repr)] ++ ")"
  | .unexpectedEndOfInput position =>
    describeRecord "UnexpectedEndOfInput" [("position", position.repr)]
  | .console reason => "Io(" ++ reason ++ ")"

end ExecutionError

namespace SourceError

/-- The error as diagnostics show it. -/
def describe : SourceError → String
  | .compile error => "Compile(" ++ error.describe ++ ")"
  | .execution error => "Execution(" ++ error.describe ++ ")"

end SourceError

/-- A program and what it is expected to do. -/
structure Expectation where
  source : Source
  input : List Line
  output : List UInt8
  /-- How many lines it reads, if it is to run to its end; otherwise it is to fail while running. -/
  reads : Option Nat
  deriving DecidableEq

/-- What became of an expectation. -/
inductive Verdict where
  /-- It is met, by this error if an error was wanted. -/
  | met (error : Option ExecutionError)
  /-- The program ended in another way than the one wanted. -/
  | wrongEnding (diagnosis : String)
  /-- A value differs from the one wanted. -/
  | mismatch (actual wanted : String)
  deriving DecidableEq

namespace Expectation

/-- Bytes as diagnostics show them: numbers between square brackets. -/
def describeBytes (bytes : List UInt8) : String :=
  "[" ++ ", ".intercalate (bytes.map fun byte => byte.toNat.repr) ++ "]"

/-- Compares what was written with the output wanted. -/
def judgeOutput (expectation : Expectation) (script : Script) (met : Verdict) : Verdict :=
  let actual := script.output.toList
  if actual = expectation.output then met
  else .mismatch (describeBytes actual) (describeBytes expectation.output)

/-- Judges a run that is to reach its end after `reads` lines. -/
def judgeCompletion (expectation : Expectation) (reads : Nat) : SourceRun Script → Verdict
  | .rejected error _ => .wrongEnding (SourceError.compile error).describe
  | .ended _ ⟨_, some fault⟩ => .wrongEnding (SourceError.execution fault).describe
  | .ended _ ⟨⟨_, script, _⟩, none⟩ =>
    let actual := expectation.input.length - script.linesLeft?.getD 0
    if actual = reads then expectation.judgeOutput script (.met none)
    else .mismatch actual.repr reads.repr

/-- Judges a run that is to fail. -/
def judgeFailure (expectation : Expectation) : SourceRun Script → Verdict
  | .rejected error _ => .wrongEnding error.describe
  | .ended _ ⟨_, none⟩ => .wrongEnding "nothing"
  | .ended _ ⟨⟨_, script, _⟩, some fault⟩ => expectation.judgeOutput script (.met (some fault))

/-- Runs the program and judges what it did, if it ends within `patience` steps. -/
def judge? (patience : Nat) (expectation : Expectation) : Option Verdict :=
  let start := Machine.fresh (Script.ofLines expectation.input)
  (SourceRun.run? patience expectation.source start).map fun run =>
    match expectation.reads with
    | some reads => expectation.judgeCompletion reads run
    | none => expectation.judgeFailure run

end Expectation

end TapeMachine
