import TapeMachine.Proofs.Causality
import TapeMachine.Proofs.LineEndings

/-! # All that a program sees of its input

A program stores the first byte of a line and drops the others, so lines might as well have one byte
each. A view of a console is another console that answers in this way and is otherwise the same:
what a machine does on the view is the view of what it does. Where two inputs have the same view, no
program can tell them apart.
-/

namespace TapeMachine

/-- The answer with a line of one byte, zero where the line is empty. -/
def ReadResult.curtail : ReadResult → ReadResult
  | .line bytes => .line [bytes.headD 0]
  | .endOfInput => .endOfInput
  | .failed reason => .failed reason

section

variable {σ τ : Type} {look : σ → τ}

/-- The same machine on the view of its console. -/
def Machine.view (look : σ → τ) (machine : Machine σ) : Machine τ :=
  ⟨machine.tape, look machine.console, machine.steps⟩

def Configuration.view (look : σ → τ) (configuration : Configuration σ) : Configuration τ :=
  ⟨configuration.address, configuration.machine.view look⟩

def Ending.view (look : σ → τ) (ending : Ending σ) : Ending τ :=
  ⟨ending.machine.view look, ending.fault⟩

/-- All there is to see of a run but its console, of which the view is seen. -/
def Progress.view (look : σ → τ) (progress : Progress (Configuration σ) (Ending σ)) :
    Progress (Configuration τ) (Ending τ) :=
  progress.map (Configuration.view look) (Ending.view look)

/-- The view answers to reads with lines of one byte and does everything else as the console does. -/
structure Console.Curtails [Console σ] [Console τ] (look : σ → τ) : Prop where
  read : ∀ console, Console.read (look console) =
    ((Console.read console).1.curtail, look (Console.read console).2)
  write : ∀ byte console, Console.write byte (look console) =
    ((Console.write byte console).1, look (Console.write byte console).2)

variable [Console σ] [Console τ] (curtails : Console.Curtails look)

include curtails

namespace Machine

theorem readTimes_view (position count : Nat) (machine : Machine σ) :
    (machine.view look).readTimes position count =
      (machine.readTimes position count).view look := by
  induction count generalizing machine with
  | zero => rfl
  | succ count ih =>
    obtain ⟨tape, console, steps⟩ := machine
    simp only [Machine.view, readTimes, curtails.read]
    obtain ⟨answer, after⟩ := Console.read console
    cases answer with
    | line bytes => exact ih ⟨tape.store (bytes.headD 0), after, steps⟩
    | endOfInput | failed reason => rfl

theorem writeTimes_view (count : Nat) (machine : Machine σ) :
    (machine.view look).writeTimes count = (machine.writeTimes count).view look := by
  induction count generalizing machine with
  | zero => rfl
  | succ count ih =>
    obtain ⟨tape, console, steps⟩ := machine
    simp only [Machine.view, writeTimes, curtails.write]
    obtain ⟨answer, after⟩ := Console.write tape.load console
    cases answer with
    | written => exact ih ⟨tape, after, steps⟩
    | failed reason => rfl

theorem perform_view (position : Nat) (action : Action) (count : Nat) (machine : Machine σ) :
    (machine.view look).perform position action count =
      (machine.perform position action count).view look := by
  cases action with
  | moveRight | increment | decrement => rfl
  | moveLeft =>
    obtain ⟨tape, console, steps⟩ := machine
    simp only [Machine.view, perform]
    cases tape.moveLeft count <;> rfl
  | output => exact writeTimes_view curtails count machine
  | input => exact readTimes_view curtails position count machine

theorem dispatch_view (operation : Operation) (address : Nat) (machine : Machine σ) :
    (machine.view look).dispatch operation address =
      (machine.dispatch operation address).view look := by
  cases operation with
  | perform action count =>
    have performed := perform_view curtails address action count machine.tick
    rw [dispatch_perform, dispatch_perform]
    change ((machine.tick.view look).perform address action count).goOn address = _
    rw [performed]
    obtain ⟨after, fault⟩ := machine.tick.perform address action count
    cases fault <;> rfl
  | jumpIfZero target | jumpIfNonzero target => rfl

end Machine

namespace Program

theorem step_view (program : Program) (configuration : Configuration σ) :
    program.step (configuration.view look) = (program.step configuration).view look := by
  obtain ⟨address, machine⟩ := configuration
  simp only [Configuration.view]
  cases found : program.fetch? address with
  | none =>
    rw [step_of_fetch?_eq_none found, step_of_fetch?_eq_none found]
    rfl
  | some operation =>
    rw [step_of_fetch? found, step_of_fetch? found]
    exact Machine.dispatch_view curtails operation address machine

/-- On a view a run is the view of the run. -/
theorem runFor_view (program : Program) (machine : Machine σ) (count : Nat) :
    program.runFor count (machine.view look) = (program.runFor count machine).view look :=
  runSteps_map (step_view curtails program) count ⟨0, machine⟩

end Program

end

/-- The first bytes of the lines still to be read, and the bytes written so far. -/
structure Digest where
  firsts : List UInt8
  written : Array UInt8
  deriving DecidableEq

instance : Console Digest where
  read
    | ⟨[], written⟩ => (.endOfInput, ⟨[], written⟩)
    | ⟨first :: rest, written⟩ => (.line [first], ⟨rest, written⟩)
  write byte digest := (.written, ⟨digest.firsts, digest.written.push byte⟩)

namespace Streams

/-- What is to be seen of streams: of each line that is left its first byte, zero if the line is
empty. -/
def digest (streams : Streams) : Digest :=
  ⟨(Line.splitRaw streams.pending).map fun line => line.stripTerminator.headD 0, streams.written⟩

theorem curtails_digest : Console.Curtails digest where
  read := by
    rintro ⟨pending, written⟩
    by_cases used : pending = []
    · subst used
      change Console.read (⟨(Line.splitRaw []).map _, written⟩ : Digest) =
        (.endOfInput, ⟨(Line.splitRaw []).map _, written⟩)
      rw [Line.splitRaw_nil]
      rfl
    · obtain ⟨line, rest, next⟩ := Line.exists_takeRaw? used
      rw [read_of_takeRaw? next]
      simp only [digest, Line.splitRaw_of_takeRaw? next]
      rfl
  write _ _ := rfl

theorem digest_of_written {lines : List Line} {bytes : List UInt8}
    (spelled : Line.Written lines bytes) (written : Array UInt8) :
    digest ⟨bytes, written⟩ = ⟨lines.map fun line => line.headD 0, written⟩ := by
  have firsts := congrArg (List.map fun line : Line => line.headD 0) spelled.map_splitRaw
  rw [List.map_map] at firsts
  exact congrArg (Digest.mk · written) firsts

end Streams

namespace Oracle

/-- The oracle with lines of one byte. -/
def curtail (oracle : Oracle) : Oracle :=
  ⟨fun number => (oracle.answers number).curtail, oracle.refusal, oracle.record⟩

theorem curtails_curtail : Console.Curtails curtail where
  read _ := rfl
  write := by
    intro byte oracle
    have same : ∀ answer, oracle.refusal oracle.record.output byte = answer →
        oracle.curtail.refusal oracle.curtail.record.output byte = answer := fun _ => id
    cases found : oracle.refusal oracle.record.output byte with
    | none =>
      rw [write_of_refusal_none found, write_of_refusal_none (same _ found)]
      rfl
    | some reason => rw [write_of_refusal_some found, write_of_refusal_some (same _ found)]

theorem curtail_start {answers answers' : Nat → ReadResult}
    (same : ∀ number, (answers number).curtail = (answers' number).curtail)
    (refusal : List UInt8 → UInt8 → Option String) :
    (start answers refusal).curtail = (start answers' refusal).curtail := by
  rw [curtail, curtail]
  exact congrArg (Oracle.mk · refusal ⟨0, []⟩) (funext same)

end Oracle

/-- The record of an oracle is not touched by shortening its lines. -/
theorem Progress.seen_view (progress : Progress (Configuration Oracle) (Ending Oracle)) :
    (progress.view Oracle.curtail).seen = progress.seen := by
  cases progress <;> rfl

/-- A stream of bytes is a sequence of lines, and a program makes use of their first bytes only. -/
structure Linewise (program : Program) (tape : Tape) (steps : Nat) : Prop where
  /-- Repeated reading gives the lines that an input is written from and after that nothing, however
  often it is tried. -/
  delivers : ∀ lines bytes, Line.Written lines bytes → ∀ written more,
    Console.answers (lines.length + more) (⟨bytes, written⟩ : Streams) =
      lines.map .line ++ List.replicate more .endOfInput
  /-- There is no other input. -/
  written : ∀ bytes, ∃ lines, Line.Written lines bytes
  /-- Inputs with as many lines and with the same first bytes give the same run: at any time the same
  operation is next, tape, output and fault are the same, and as many lines are left, with the same
  first bytes again. -/
  firsts : ∀ lines lines' bytes bytes', Line.Written lines bytes → Line.Written lines' bytes' →
    (lines.map fun line => line.headD 0) = (lines'.map fun line => line.headD 0) →
      ∀ (written : Array UInt8) (count : Nat),
        (program.runFor count ⟨tape, (⟨bytes, written⟩ : Streams), steps⟩).view Streams.digest =
          (program.runFor count ⟨tape, ⟨bytes', written⟩, steps⟩).view Streams.digest
  /-- The same holds of inputs that may fail and of outputs that may be full. -/
  answers : ∀ answers answers' refusal,
    (∀ number, (answers number).curtail = (answers' number).curtail) → ∀ count,
      (program.runFor count (.attached tape steps answers refusal)).seen =
        (program.runFor count (.attached tape steps answers' refusal)).seen

/-- Lines come out of a stream as they are written into it, and of each only the first byte counts. -/
theorem reads_linewise (program : Program) (tape : Tape) (steps : Nat) :
    Linewise program tape steps where
  delivers _ _ spelled := Streams.answers_of_written spelled
  written := Line.exists_written
  firsts := by
    intro lines lines' bytes bytes' spelled spelled' same written count
    have alike : (⟨tape, (⟨bytes, written⟩ : Streams), steps⟩ : Machine Streams).view Streams.digest =
        (⟨tape, ⟨bytes', written⟩, steps⟩ : Machine Streams).view Streams.digest := by
      simp only [Machine.view, Streams.digest_of_written spelled, Streams.digest_of_written spelled',
        same]
    rw [← Program.runFor_view Streams.curtails_digest, alike,
      Program.runFor_view Streams.curtails_digest]
  answers := by
    intro answers answers' refusal same count
    have alike : (Machine.attached tape steps answers refusal).view Oracle.curtail =
        (Machine.attached tape steps answers' refusal).view Oracle.curtail := by
      simp only [Machine.view, Machine.attached, Oracle.curtail_start same]
    rw [← Progress.seen_view, ← Program.runFor_view Oracle.curtails_curtail, alike,
      Program.runFor_view Oracle.curtails_curtail, Progress.seen_view]

end TapeMachine
