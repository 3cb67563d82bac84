import TapeMachine.Console.Script
import TapeMachine.Proofs.Awaiting
import TapeMachine.Proofs.Outcome
import TapeMachine.Proofs.Remainder

/-! # Runs of compiled programs

A compiled program does what its source says when it is read directly. The two take different
numbers of steps: direct reading passes comments and does an action once at a time, the program does
a whole run of actions in one step. What relates them is not a table of positions but what each has
still to do, so both are at corresponding points when the same symbols are before them.

Consoles are arbitrary. One that keeps a record of its requests ends with the same record either
way, so the requests are the same and come in the same order.
-/

namespace TapeMachine

variable {σ : Type} {source : Source} {program : Program}

/-- Direct reading awaits what the program has still to do. -/
def Configuration.Follows (source : Source) (program : Program) (configuration : Configuration σ)
    (reading : Direct.State σ) : Prop :=
  Direct.Awaits source (program.symbolsFrom configuration.address) configuration.machine reading

theorem Configuration.Follows.start (spelled : program.symbols = source.symbols)
    (machine : Machine σ) :
    Configuration.Follows source program ⟨0, machine⟩ ⟨0, machine.tape, machine.console⟩ := by
  rw [Follows, Program.symbolsFrom_zero, spelled]
  exact Direct.awaits_start source machine

/-- Both brackets of a loop lead to the same two points, whichever of them is executed. -/
theorem Configuration.Follows.of_loop {start stop : Nat} {body : List Symbol} {machine : Machine σ}
    {reading : Direct.State σ}
    (inner : program.symbolsFrom (start + 1) = body ++ .loopEnd :: program.symbolsFrom (stop + 1))
    (awaits : Direct.Awaits source
      (if machine.tape.load = 0 then program.symbolsFrom (stop + 1)
        else body ++ .loopEnd :: program.symbolsFrom (stop + 1)) machine reading) :
    Configuration.Follows source program
      ⟨if machine.tape.load = 0 then stop + 1 else start + 1, machine.tick⟩ reading := by
  rw [← inner, ← apply_ite program.symbolsFrom] at awaits
  exact awaits

variable [Console σ]

/-- The program stands for the symbols of the source: each jump leads behind the partner and no
action is done zero times. Its runs need not be folded. -/
structure Program.Spells (program : Program) (source : Source) : Prop where
  linked : program.Linked
  counted : ∀ address action count,
    program.fetch? address = some (.perform action count) → 0 < count
  symbols : program.symbols = source.symbols

namespace Program.Spells

variable {address : Nat} {machine : Machine σ} {reading : Direct.State σ}

/-- Direct reading matches a run of an action. -/
theorem exists_agrees_perform {action : Action} {count : Nat} (positive : 0 < count)
    (found : program.fetch? address = some (.perform action count))
    (follows : Configuration.Follows source program ⟨address, machine⟩ reading) :
    ∃ steps, 0 < steps ∧ (machine.dispatch (.perform action count) address).Agrees
      (Configuration.Follows source program) Ending.Matches
      (runSteps (Direct.step source) steps reading) := by
  have awaits : Direct.Awaits source (List.replicate count (.act action) ++
      program.symbolsFrom (address + 1)) machine.tick reading := by
    rw [Configuration.Follows, symbolsFrom_of_fetch? found] at follows
    exact follows
  obtain ⟨count, rfl⟩ := Nat.exists_eq_add_of_lt positive
  rw [Nat.zero_add] at awaits ⊢
  obtain ⟨steps, positive, agrees⟩ := awaits.exists_agrees address
  refine ⟨steps, positive, ?_⟩
  simp only [Machine.dispatch]
  generalize machine.tick.perform address action (count + 1) = ending at agrees
  obtain ⟨next, fault⟩ := ending
  cases fault with
  | none =>
    obtain ⟨middle, reached, awaits⟩ := agrees.exists_running
    rw [reached]
    exact awaits
  | some fault =>
    obtain ⟨stop, stopped, matched⟩ := agrees.exists_stopped
    rw [stopped]
    exact matched

/-- Direct reading matches each step of a program that spells the source. -/
theorem simulates (spells : program.Spells source) :
    Simulates program.step (Direct.step source) (Configuration.Follows source program)
      (Ending.Matches : Ending σ → Direct.Stop σ → Prop) := by
  rintro ⟨address, machine⟩ reading follows
  cases found : program.fetch? address with
  | none =>
    rw [Configuration.Follows, symbolsFrom_of_fetch?_eq_none found] at follows
    obtain ⟨count, positive, ends⟩ := follows.exists_stopped
    refine ⟨count, positive, ?_⟩
    rw [step_of_fetch?_eq_none found, ends]
    exact ⟨rfl, rfl, rfl, fun _ => rfl⟩
  | some operation =>
    rw [step_of_fetch? found]
    cases operation with
    | perform action count =>
      exact exists_agrees_perform (spells.counted address action count found) found follows
    | jumpIfZero target =>
      obtain ⟨stop, partners, rfl⟩ := spells.linked.exists_partner_of_jumpIfZero found
      obtain ⟨body, nested, inner⟩ := partners.exists_body
      rw [Configuration.Follows, partners.symbolsFrom_start, inner] at follows
      obtain ⟨steps, next, positive, reached, awaits⟩ := follows.exists_loopStart nested
      refine ⟨steps, positive, ?_⟩
      rw [reached]
      exact .of_loop inner awaits
    | jumpIfNonzero target =>
      obtain ⟨start, partners, rfl⟩ := spells.linked.exists_partner_of_jumpIfNonzero found
      obtain ⟨body, nested, inner⟩ := partners.exists_body
      obtain ⟨before, whole⟩ := program.exists_symbols_eq start
      rw [spells.symbols, partners.symbolsFrom_start, inner] at whole
      rw [Configuration.Follows, partners.symbolsFrom_stop] at follows
      obtain ⟨steps, next, positive, reached, awaits⟩ := follows.exists_loopEnd nested whole
      refine ⟨steps, positive, ?_⟩
      rw [reached]
      exact .of_loop inner awaits

end Program.Spells

theorem Program.WellFormed.spells (formed : program.WellFormed)
    (spelled : program.symbols = source.symbols) : program.Spells source where
  linked := formed.linked
  counted := formed.counted
  symbols := spelled

theorem Program.WellFormed.simulates (formed : program.WellFormed)
    (spelled : program.symbols = source.symbols) :
    Simulates program.step (Direct.step source) (Configuration.Follows source program)
      (Ending.Matches : Ending σ → Direct.Stop σ → Prop) :=
  (formed.spells spelled).simulates

/-- What the program does on the machine is, for all that can be observed, what its source says:
on the tape and the console of the machine, direct reading does the same. -/
structure Faithful (source : Source) (program : Program) (machine : Machine σ) : Prop where
  /-- A successful end leaves the same tape, its head included, and the same console. -/
  halts : ∀ tape console,
    (∃ count steps, program.runFor count machine = .stopped ⟨⟨tape, console, steps⟩, none⟩) ↔
      ∃ count, Direct.readFor source count machine.tape machine.console =
        .stopped ⟨tape, console, none⟩
  /-- A fault is one of the same kind, and leaves the same cells and the same console. -/
  fails : ∀ fault cells console,
    (∃ count ending, program.runFor count machine = .stopped ending ∧
      ending.fault.map ExecutionError.kind = some fault ∧ ending.machine.tape.cells = cells ∧
        ending.machine.console = console) ↔
      ∃ count stop, Direct.readFor source count machine.tape machine.console = .stopped stop ∧
        stop.fault = some fault ∧ stop.tape.cells = cells ∧ stop.console = console
  /-- One goes on forever if and only if the other does. -/
  diverges : (∀ count, ∃ configuration, program.runFor count machine = .running configuration) ↔
    ∀ count, ∃ reading,
      Direct.readFor source count machine.tape machine.console = .running reading
  /-- Direct reading passes through every tape and console that the program passes through. -/
  passes : ∀ count configuration, program.runFor count machine = .running configuration →
    ∃ more position, count ≤ more ∧
      Direct.readFor source more machine.tape machine.console =
        .running ⟨position, configuration.machine.tape, configuration.machine.console⟩

/-- A compiled program does on every machine, whatever its tape and its console, what reading its
source directly does. -/
theorem compile_faithful (compiled : compile source = .ok program) (machine : Machine σ) :
    Faithful source program machine := by
  have simulates : Simulates program.step (Direct.step source)
      (Configuration.Follows source program)
      (Ending.Matches : Ending σ → Direct.Stop σ → Prop) :=
    (wellFormed_of_compile compiled).simulates (symbols_of_compile compiled)
  have start := Configuration.Follows.start (symbols_of_compile compiled) machine
  refine ⟨?_, ?_, simulates.diverges_iff start, ?_⟩
  · intro tape console
    constructor
    · rintro ⟨count, steps, stops⟩
      obtain ⟨more, stop, ends, matched⟩ := simulates.exists_stopped start stops
      exact ⟨more, ends.trans (congrArg _ (matched.stop_eq rfl))⟩
    · rintro ⟨count, ends⟩
      obtain ⟨ending, stops, matched⟩ := simulates.exists_of_stopped start ends
      exact ⟨count, ending.machine.steps, stops.trans (congrArg _ (matched.ending_eq rfl))⟩
  · intro fault cells console
    constructor
    · rintro ⟨count, ending, stops, faulty, rfl, rfl⟩
      obtain ⟨more, stop, ends, matched⟩ := simulates.exists_stopped start stops
      exact ⟨more, stop, ends, matched.fault ▸ faulty, matched.cells.symm, matched.console.symm⟩
    · rintro ⟨count, stop, ends, faulty, rfl, rfl⟩
      obtain ⟨ending, stops, matched⟩ := simulates.exists_of_stopped start ends
      exact ⟨count, ending, stops, matched.fault.trans faulty, matched.cells, matched.console⟩
  · intro count configuration runs
    obtain ⟨more, reading, enough, reads, follows⟩ := simulates.exists_running start runs
    obtain ⟨front, back, -, -, rfl⟩ := follows
    exact ⟨more, front.length, enough, reads⟩

/-- A source that repeats its input up to an empty line and then moves past the left end, with a
comment inside its last run. -/
def repeatInput : Source :=
  [',', '[', '.', ',', ']', '<', ' ', '<'].map Char.toUInt8

/-- What `repeatInput` compiles to. -/
def repeatInputCode : Program :=
  ⟨#[.perform .input 1, .jumpIfZero 5, .perform .output 1, .perform .input 1, .jumpIfNonzero 2,
    .perform .moveLeft 2]⟩

theorem compile_faithful_repeatInput :
    compile repeatInput = .ok repeatInputCode ∧
      Faithful repeatInput repeatInputCode
        (Machine.fresh (Script.start (some [[72], [73], []]) none (some 1) false)) :=
  ⟨rfl, compile_faithful rfl _⟩

end TapeMachine
