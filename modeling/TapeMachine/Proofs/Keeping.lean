import TapeMachine.Proofs.Outcome

/-! # What holds of a console all along

A machine has two ways to touch its console. What both of them keep, every run keeps, whatever the
program and however the run ends.
-/

namespace TapeMachine

variable {σ : Type} [Console σ] {holds : σ → Prop}

/-- Neither a read nor a write, failed ones included, ends what holds of the console. -/
structure Console.Keeps (holds : σ → Prop) : Prop where
  read : ∀ console, holds console → holds (Console.read console).2
  write : ∀ byte console, holds console → holds (Console.write byte console).2

namespace Console.Keeps

theorem readTimes (keeps : Keeps holds) (position count : Nat) (machine : Machine σ)
    (before : holds machine.console) :
    holds (machine.readTimes position count).machine.console := by
  induction count generalizing machine with
  | zero => exact before
  | succ count ih =>
    obtain ⟨tape, console, steps⟩ := machine
    have kept := keeps.read console before
    simp only [Machine.readTimes]
    generalize Console.read console = result at kept
    obtain ⟨answer, after⟩ := result
    cases answer with
    | line bytes => exact ih ⟨tape.store (bytes.headD 0), after, steps⟩ kept
    | endOfInput => exact kept
    | failed reason => exact kept

theorem writeTimes (keeps : Keeps holds) (count : Nat) (machine : Machine σ)
    (before : holds machine.console) : holds (machine.writeTimes count).machine.console := by
  induction count generalizing machine with
  | zero => exact before
  | succ count ih =>
    obtain ⟨tape, console, steps⟩ := machine
    have kept := keeps.write tape.load console before
    simp only [Machine.writeTimes]
    generalize Console.write tape.load console = result at kept
    obtain ⟨answer, after⟩ := result
    cases answer with
    | written => exact ih ⟨tape, after, steps⟩ kept
    | failed reason => exact kept

theorem perform (keeps : Keeps holds) (position : Nat) (action : Action) (count : Nat)
    (machine : Machine σ) (before : holds machine.console) :
    holds (machine.perform position action count).machine.console := by
  cases action with
  | moveRight | increment | decrement => exact before
  | moveLeft =>
    simp only [Machine.perform]
    cases machine.tape.moveLeft count <;> exact before
  | output => exact keeps.writeTimes count machine before
  | input => exact keeps.readTimes position count machine before

theorem dispatch (keeps : Keeps holds) (operation : Operation) (address : Nat) (machine : Machine σ)
    (before : holds machine.console) :
    holds (machine.dispatch operation address).machine.console := by
  cases operation with
  | perform action count =>
    rw [Machine.dispatch_perform, Ending.machine_goOn]
    exact keeps.perform address action count machine.tick before
  | jumpIfZero target | jumpIfNonzero target => exact before

/-- A run keeps what each read and each write keeps. -/
theorem runSteps (keeps : Keeps holds) (program : Program) (count : Nat)
    (configuration : Configuration σ) (before : holds configuration.machine.console) :
    holds (runSteps program.step count configuration).machine.console := by
  induction count generalizing configuration with
  | zero => exact before
  | succ count ih =>
    obtain ⟨address, machine⟩ := configuration
    have kept : holds (program.step ⟨address, machine⟩).machine.console := by
      cases found : program.fetch? address with
      | none =>
        rw [Program.step_of_fetch?_eq_none found]
        exact before
      | some operation =>
        rw [Program.step_of_fetch? found]
        exact keeps.dispatch operation address machine before
    rw [runSteps_succ]
    generalize program.step ⟨address, machine⟩ = progress at kept
    cases progress with
    | running next => exact ih next kept
    | stopped ending => exact kept

/-- What holds when a run begins holds when it has ended. -/
theorem of_run? (keeps : Keeps holds) {program : Program} {machine : Machine σ} {patience : Nat}
    {ending : Ending σ} (before : holds machine.console)
    (ends : program.run? patience machine = some ending) : holds ending.machine.console := by
  have kept := keeps.runSteps program patience ⟨0, machine⟩ before
  have reached : TapeMachine.runSteps program.step patience ⟨0, machine⟩ = .stopped ending :=
    Program.run?_eq_some_iff.mp ends
  rw [reached] at kept
  exact kept

/-- What holds at some time of a run holds from then on. -/
theorem runFor_of_le (keeps : Keeps holds) {program : Program} {machine : Machine σ}
    {early late : Nat} (later : early ≤ late)
    (before : holds (program.runFor early machine).machine.console) :
    holds (program.runFor late machine).machine.console := by
  obtain ⟨more, rfl⟩ := Nat.exists_eq_add_of_le later
  rw [Program.runFor, runSteps_add]
  rw [Program.runFor] at before
  generalize TapeMachine.runSteps program.step early ⟨0, machine⟩ = progress at before ⊢
  cases progress with
  | running next => exact keeps.runSteps program more next before
  | stopped ending => exact before

end Console.Keeps

end TapeMachine
