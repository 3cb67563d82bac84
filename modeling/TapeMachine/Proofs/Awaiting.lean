import TapeMachine.Proofs.DirectReading
import TapeMachine.Proofs.Repetition

/-! # Direct reading beside a machine

A machine and direct reading of a source are in step when they agree on tape and console and reading
has before it what the machine is to do. They stay in step over a loop, of which nesting names the
brackets, and over a run of one action, which the machine does in one go and reading byte by byte,
past comments in between. Where a fault cuts the run short, both stop with the same kind of fault.
-/

namespace TapeMachine

section

variable {σ : Type}

/-- A machine and direct reading have ended alike. After a fault their heads may differ, since a
refused move leaves the head of the machine where it was. -/
structure Ending.Matches (ending : Ending σ) (stop : Direct.Stop σ) : Prop where
  console : ending.machine.console = stop.console
  cells : ending.machine.tape.cells = stop.tape.cells
  fault : ending.fault.map ExecutionError.kind = stop.fault
  tape : ending.fault = none → ending.machine.tape = stop.tape

namespace Ending.Matches

variable {ending : Ending σ} {stop : Direct.Stop σ}

/-- Of the tapes only the cells count after a fault. -/
theorem of_fault {machine : Machine σ} {error : ExecutionError}
    (console : machine.console = stop.console) (cells : machine.tape.cells = stop.tape.cells)
    (fault : some error.kind = stop.fault) : Ending.Matches ⟨machine, some error⟩ stop where
  console := console
  cells := cells
  fault := fault
  tape := by
    intro success
    cases success

theorem stop_eq (matched : ending.Matches stop) (success : ending.fault = none) :
    stop = ⟨ending.machine.tape, ending.machine.console, none⟩ := by
  have fault := matched.fault
  rw [success, Option.map_none] at fault
  rw [matched.tape success, matched.console, fault]

theorem ending_eq (matched : ending.Matches stop) (success : stop.fault = none) :
    ending = ⟨⟨stop.tape, stop.console, ending.machine.steps⟩, none⟩ := by
  have fault := matched.fault
  rw [success, Option.map_eq_none_iff] at fault
  rw [← matched.tape fault, ← matched.console, ← fault]

end Ending.Matches

/-- An ending without a fault is not the end of the run. -/
def Ending.progress : Ending σ → Progress (Machine σ) (Ending σ)
  | ⟨machine, none⟩ => .running machine
  | ⟨machine, some fault⟩ => .stopped ⟨machine, some fault⟩

theorem Ending.progress_bind (ending : Ending σ) (continuation : Machine σ → Ending σ) :
    (ending.bind continuation).progress =
      ending.progress.bind fun machine => (continuation machine).progress := by
  obtain ⟨machine, fault⟩ := ending
  cases fault <;> rfl

end

namespace Direct

variable {σ : Type} {source : Source} {rest : List Symbol} {machine : Machine σ}
  {reading : State σ}

/-- Reading agrees with a machine on tape and console, and has the symbols `rest` before it. -/
def Awaits (source : Source) (rest : List Symbol) (machine : Machine σ) (reading : State σ) :
    Prop :=
  ∃ front back : Source, source = front ++ back ∧ back.symbols = rest ∧
    reading = ⟨front.length, machine.tape, machine.console⟩

theorem awaits_start (source : Source) (machine : Machine σ) :
    Awaits source source.symbols machine ⟨0, machine.tape, machine.console⟩ :=
  ⟨[], source, rfl, rfl, rfl⟩

/-- From either bracket of a loop reading goes on inside the loop or behind it. -/
theorem awaits_loop (front inside back : Source) (machine : Machine σ) :
    Awaits (front ++ Symbol.loopStart.toByte :: (inside ++ Symbol.loopEnd.toByte :: back))
      (if machine.tape.load = 0 then back.symbols else inside.symbols ++ .loopEnd :: back.symbols)
      machine
      ⟨if machine.tape.load = 0 then front.length + 1 + inside.length + 1 else front.length + 1,
        machine.tape, machine.console⟩ := by
  split
  · refine ⟨front ++ Symbol.loopStart.toByte :: (inside ++ [Symbol.loopEnd.toByte]), back, ?_⟩
    simp [Nat.add_assoc, Nat.add_comm 1]
  · refine ⟨front ++ [Symbol.loopStart.toByte], inside ++ Symbol.loopEnd.toByte :: back, ?_⟩
    simp

variable [Console σ]

/-- Doing an action once is the same thing to both. -/
theorem perform_agrees (address position : Nat) (action : Action) (machine : Machine σ) :
    (machine.perform address action 1).progress.Agrees
      (fun machine reading => reading = ⟨position + 1, machine.tape, machine.console⟩)
      Ending.Matches (perform action ⟨position, machine.tape, machine.console⟩) := by
  obtain ⟨tape, console, steps⟩ := machine
  cases action with
  | moveRight => rfl
  | moveLeft =>
    simp only [Machine.perform, perform]
    cases tape.moveLeft 1 with
    | ok moved => rfl
    | error refused => exact .of_fault rfl rfl rfl
  | increment => rfl
  | decrement => rfl
  | output =>
    simp only [Machine.perform, Machine.writeTimes, perform]
    obtain ⟨answer, after⟩ := Console.write tape.load console
    cases answer with
    | written => rfl
    | failed reason => exact .of_fault rfl rfl rfl
  | input =>
    simp only [Machine.perform, Machine.readTimes, perform]
    obtain ⟨answer, after⟩ := Console.read console
    cases answer with
    | line bytes => rfl
    | endOfInput => exact .of_fault rfl rfl rfl
    | failed reason => exact .of_fault rfl rfl rfl

namespace Awaits

/-- Reading gets to the symbol that it awaits. -/
theorem exists_reached {symbol : Symbol} (awaits : Awaits source (symbol :: rest) machine reading) :
    ∃ (count : Nat) (front back : Source), source = front ++ symbol.toByte :: back ∧
      back.symbols = rest ∧ runSteps (step source) count reading =
        .running ⟨front.length, machine.tape, machine.console⟩ := by
  obtain ⟨front, following, rfl, read, rfl⟩ := awaits
  obtain ⟨comments, back, rfl, silent, behind⟩ := Source.exists_comments read
  exact ⟨comments.length, front ++ comments, back, by simp, behind, runSteps_comments silent⟩

/-- Reading that awaits nothing ends without a fault. -/
theorem exists_stopped (awaits : Awaits source [] machine reading) :
    ∃ count, 0 < count ∧ runSteps (step source) count reading =
      .stopped ⟨machine.tape, machine.console, none⟩ := by
  obtain ⟨front, comments, rfl, silent, rfl⟩ := awaits
  have passed : runSteps (step (front ++ (comments ++ []))) comments.length
      ⟨front.length, machine.tape, machine.console⟩ =
        .running ⟨(front ++ comments).length, machine.tape, machine.console⟩ :=
    runSteps_comments silent
  rw [List.append_nil] at passed
  refine ⟨comments.length + 1, Nat.succ_pos _, ?_⟩
  rw [runSteps_of_running passed, runSteps_one, step_end]

/-- An action that is done once takes reading behind its byte. -/
theorem exists_agrees_once {action : Action} (address : Nat)
    (awaits : Awaits source (.act action :: rest) machine reading) :
    ∃ count, 0 < count ∧ (machine.perform address action 1).progress.Agrees (Awaits source rest)
      Ending.Matches (runSteps (step source) count reading) := by
  obtain ⟨passed, front, back, rfl, behind, reached⟩ := awaits.exists_reached
  refine ⟨passed + 1, Nat.succ_pos _, ?_⟩
  rw [runSteps_of_running reached, runSteps_one, step_act]
  apply (perform_agrees address front.length action machine).mono
  rintro next _ rfl
  exact ⟨front ++ [(Symbol.act action).toByte], back, by simp, behind, by simp⟩

/-- Moving past the left end one cell at a time fails as well, though at the end itself. -/
theorem exists_underflow {count : Nat}
    (awaits : Awaits source (List.replicate count (.act .moveLeft) ++ rest) machine reading)
    (past : machine.tape.head < count) :
    ∃ steps tape, 0 < steps ∧ tape.cells = machine.tape.cells ∧
      runSteps (step source) steps reading =
        .stopped ⟨tape, machine.console, some .underflow⟩ := by
  induction count generalizing machine reading with
  | zero => omega
  | succ count ih =>
    rw [List.replicate_succ, List.cons_append] at awaits
    by_cases atEnd : machine.tape.head = 0
    · obtain ⟨passed, front, back, rfl, behind, reached⟩ := awaits.exists_reached
      have refused : machine.tape.moveLeft 1 = .error ⟨machine.tape.head, 1⟩ :=
        (machine.tape.moveLeft_eq_error_iff 1).mpr ⟨by omega, rfl⟩
      refine ⟨passed + 1, machine.tape, Nat.succ_pos _, rfl, ?_⟩
      rw [runSteps_of_running reached, runSteps_one, step_act, perform]
      simp only [refused]
    · obtain ⟨moved, done, cells, head⟩ := Tape.moveLeft_of_le (by omega : 1 ≤ machine.tape.head)
      obtain ⟨first, -, agrees⟩ := awaits.exists_agrees_once 0
      simp only [Machine.perform, done, Ending.progress] at agrees
      obtain ⟨middle, reached, awaits⟩ := agrees.exists_running
      obtain ⟨more, tape, positive, same, fails⟩ := ih awaits (by simp only [head]; omega)
      refine ⟨first + more, tape, by omega, same.trans cells, ?_⟩
      rw [runSteps_of_running reached]
      exact fails

/-- A run of an action takes reading behind the last byte of the run. -/
theorem exists_agrees {action : Action} {count : Nat} (address : Nat)
    (awaits : Awaits source (List.replicate (count + 1) (.act action) ++ rest) machine reading) :
    ∃ steps, 0 < steps ∧ (machine.perform address action (count + 1)).progress.Agrees
      (Awaits source rest) Ending.Matches (runSteps (step source) steps reading) := by
  induction count generalizing machine reading with
  | zero => exact awaits.exists_agrees_once address
  | succ count ih =>
    by_cases past : action = .moveLeft ∧ machine.tape.head < count + 1 + 1
    · obtain ⟨rfl, past⟩ := past
      obtain ⟨steps, tape, positive, cells, fails⟩ := awaits.exists_underflow past
      refine ⟨steps, positive, ?_⟩
      rw [Machine.perform_moveLeft_of_lt address past, fails]
      exact .of_fault rfl cells.symm rfl
    · rw [List.replicate_succ, List.cons_append] at awaits
      rw [machine.perform_succ address action (count + 1)
        (fun left => Nat.le_of_not_lt fun close => past ⟨left, close⟩), Ending.progress_bind]
      obtain ⟨first, positive, agrees⟩ := awaits.exists_agrees_once address
      obtain ⟨steps, enough, agrees⟩ := agrees.exists_bind fun _ _ awaits => ih awaits
      exact ⟨steps, by omega, agrees⟩

/-- An opening bracket takes reading into its loop or behind it. -/
theorem exists_loopStart {body beyond : List Symbol} (nested : Nested body)
    (awaits : Awaits source (.loopStart :: (body ++ .loopEnd :: beyond)) machine reading) :
    ∃ steps next, 0 < steps ∧ runSteps (step source) steps reading = .running next ∧
      Awaits source (if machine.tape.load = 0 then beyond else body ++ .loopEnd :: beyond)
        machine next := by
  obtain ⟨passed, front, following, rfl, read, reached⟩ := awaits.exists_reached
  obtain ⟨inside, back, rfl, rfl, rfl⟩ := Source.exists_split read
  refine ⟨passed + 1, _, Nat.succ_pos _, ?_, awaits_loop front inside back machine⟩
  rw [runSteps_of_running reached, runSteps_one, step_loopStart nested]

/-- A closing bracket takes reading back into its loop or behind it. -/
theorem exists_loopEnd {before body beyond : List Symbol} (nested : Nested body)
    (whole : source.symbols = before ++ .loopStart :: (body ++ .loopEnd :: beyond))
    (awaits : Awaits source (.loopEnd :: beyond) machine reading) :
    ∃ steps next, 0 < steps ∧ runSteps (step source) steps reading = .running next ∧
      Awaits source (if machine.tape.load = 0 then beyond else body ++ .loopEnd :: beyond)
        machine next := by
  obtain ⟨passed, front, back, rfl, rfl, reached⟩ := awaits.exists_reached
  have opened : front.symbols = before ++ .loopStart :: body := by
    rw [Source.symbols_append, Source.symbols_toByte_cons, ← List.cons_append,
      ← List.append_assoc] at whole
    exact List.append_cancel_right whole
  obtain ⟨outer, inside, rfl, -, rfl⟩ := Source.exists_split opened
  have awaits := awaits_loop outer inside back machine
  rw [← List.cons_append, ← List.append_assoc] at awaits
  refine ⟨passed + 1, _, Nat.succ_pos _, ?_, awaits⟩
  rw [runSteps_of_running reached, runSteps_one, step_loopEnd nested]

end Awaits

end Direct

end TapeMachine
