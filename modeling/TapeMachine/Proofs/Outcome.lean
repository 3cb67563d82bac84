import TapeMachine.Direct
import TapeMachine.Machine
import TapeMachine.Proofs.Simulation

/-! # How an execution ends

`Stops` forgets how many steps an execution takes and keeps its result. A state has the outcomes of
the state after it, so an execution can be followed step by step as a chain of equivalences; and
where one step function imitates another state by state, so do the outcomes.
-/

namespace TapeMachine

variable {State Result State' Result' : Type}

/-- The execution from a state stops with a result. -/
def Stops (step : State → Progress State Result) (state : State) (result : Result) : Prop :=
  ∃ count, runSteps step count state = .stopped result

namespace Stops

variable {step : State → Progress State Result} {state next : State} {result other : Result}

theorem unique (first : Stops step state result) (second : Stops step state other) :
    result = other := by
  obtain ⟨count, stops⟩ := first
  obtain ⟨count', stops'⟩ := second
  have late := runSteps_stopped_of_le step stops (Nat.le_max_left count count')
  rw [runSteps_stopped_of_le step stops' (Nat.le_max_right count count')] at late
  cases late
  rfl

/-- A step that goes on changes nothing about the outcome. -/
theorem iff_of_running (goes : step state = .running next) :
    Stops step state result ↔ Stops step next result := by
  constructor
  · rintro ⟨count, stops⟩
    cases count with
    | zero => cases stops
    | succ count =>
      rw [runSteps_succ, goes] at stops
      exact ⟨count, stops⟩
  · rintro ⟨count, stops⟩
    refine ⟨count + 1, ?_⟩
    rw [runSteps_succ, goes]
    exact stops

theorem iff_of_stopped (ends : step state = .stopped other) :
    Stops step state result ↔ result = other := by
  have stops : Stops step state other := ⟨1, by rw [runSteps_one, ends]⟩
  constructor
  · intro stops'
    exact stops'.unique stops
  · rintro rfl
    exact stops

/-- States with the same next step have the same outcomes. -/
theorem iff_of_step_eq (same : step state = step next) :
    Stops step state result ↔ Stops step next result := by
  cases taken : step next with
  | running after =>
    rw [taken] at same
    rw [iff_of_running same, iff_of_running taken]
  | stopped other =>
    rw [taken] at same
    rw [iff_of_stopped same, iff_of_stopped taken]

end Stops

namespace Progress

/-- Translates the state or the result. -/
def map (onState : State → State') (onResult : Result → Result') :
    Progress State Result → Progress State' Result'
  | .running state => .running (onState state)
  | .stopped result => .stopped (onResult result)

end Progress

section

variable {step : State → Progress State Result} {step' : State' → Progress State' Result'}
  {onState : State → State'} {onResult : Result → Result'}
  (imitates : ∀ state, step' (onState state) = (step state).map onState onResult)

include imitates

/-- An execution that translates another step by step translates it all along. -/
theorem runSteps_map (count : Nat) (state : State) :
    runSteps step' count (onState state) = (runSteps step count state).map onState onResult := by
  induction count generalizing state with
  | zero => rfl
  | succ count ih =>
    rw [runSteps_succ, runSteps_succ, imitates]
    cases step state with
    | running next => exact ih next
    | stopped result => rfl

/-- It has the translated outcomes. -/
theorem Stops.iff_of_map (state : State) (result' : Result') :
    Stops step' (onState state) result' ↔
      ∃ result, Stops step state result ∧ result' = onResult result := by
  constructor
  · rintro ⟨count, stops⟩
    rw [runSteps_map imitates] at stops
    cases reached : runSteps step count state with
    | running next =>
      rw [reached] at stops
      cases stops
    | stopped result =>
      rw [reached] at stops
      cases stops
      exact ⟨result, ⟨count, reached⟩, rfl⟩
  · rintro ⟨result, ⟨count, stops⟩, rfl⟩
    refine ⟨count, ?_⟩
    rw [runSteps_map imitates, stops]
    rfl

end

section

variable {step : State → Progress State Result} {state : State} {count : Nat}

/-- What holds at first and is kept by every step holds of all states that an execution passes. -/
theorem holds_of_runSteps {holds : State → Prop}
    (keeps : ∀ state next, holds state → step state = .running next → holds next)
    {reached : State} (start : holds state)
    (runs : runSteps step count state = .running reached) : holds reached := by
  induction count generalizing state with
  | zero =>
    cases runs
    exact start
  | succ count ih =>
    rw [runSteps_succ] at runs
    cases first : step state with
    | running next =>
      rw [first] at runs
      exact ih (keeps state next start first) runs
    | stopped result =>
      rw [first] at runs
      cases runs

/-- A result is that of the last step taken. -/
theorem exists_running_of_stopped {result : Result}
    (stops : runSteps step count state = .stopped result) : ∃ moment < count, ∃ reached,
      runSteps step moment state = .running reached ∧ step reached = .stopped result := by
  induction count generalizing state with
  | zero => cases stops
  | succ count ih =>
    rw [runSteps_succ] at stops
    cases first : step state with
    | running next =>
      rw [first] at stops
      obtain ⟨moment, early, reached, runs, last⟩ := ih stops
      refine ⟨moment + 1, Nat.succ_lt_succ early, reached, ?_, last⟩
      rw [runSteps_succ, first]
      exact runs
    | stopped other =>
      rw [first] at stops
      cases stops
      exact ⟨0, Nat.succ_pos count, state, rfl, first⟩

end

/-- What a fault is to direct reading, which has no operations to name. -/
def ExecutionError.kind : ExecutionError → Direct.Fault
  | .underflow _ => .underflow
  | .unexpectedEndOfInput _ => .endOfInput
  | .console reason => .console reason

section

variable {σ : Type}

/-- What is to be seen of an ending where runs are folded differently. -/
structure Observation (σ : Type) where
  console : σ
  cells : Array UInt8
  /-- The kind of fault, or where the head stands after a success. -/
  outcome : Except Direct.Fault Nat

/-- Of a fault its kind is seen, but neither the operation it names nor where the head then stands.
-/
def Ending.observe : Ending σ → Observation σ
  | ⟨⟨tape, console, _⟩, none⟩ => ⟨console, tape.cells, .ok tape.head⟩
  | ⟨⟨tape, console, _⟩, some fault⟩ => ⟨console, tape.cells, .error fault.kind⟩

/-- The machine as a run has left it so far. -/
def Progress.machine : Progress (Configuration σ) (Ending σ) → Machine σ
  | .running configuration => configuration.machine
  | .stopped ending => ending.machine

/-- Goes on behind the operation at `address`, unless there has been a fault. -/
def Ending.goOn (address : Nat) : Ending σ → Progress (Configuration σ) (Ending σ)
  | ⟨machine, none⟩ => .running ⟨address + 1, machine⟩
  | ⟨machine, some fault⟩ => .stopped ⟨machine, some fault⟩

@[simp] theorem Ending.machine_goOn (ending : Ending σ) (address : Nat) :
    (ending.goOn address).machine = ending.machine := by
  obtain ⟨machine, fault⟩ := ending
  cases fault <;> rfl

theorem Machine.dispatch_perform [Console σ] (machine : Machine σ) (action : Action)
    (count address : Nat) : machine.dispatch (.perform action count) address =
      (machine.tick.perform address action count).goOn address := by
  simp only [dispatch]
  obtain ⟨after, fault⟩ := machine.tick.perform address action count
  cases fault <;> rfl

namespace Program

variable [Console σ] {program : Program} {machine : Machine σ} {address : Nat}

theorem step_of_fetch? {operation : Operation} (found : program.fetch? address = some operation)
    (machine : Machine σ) :
    program.step ⟨address, machine⟩ = machine.dispatch operation address := by
  simp only [step, found]

theorem step_of_fetch?_eq_none (ended : program.fetch? address = none) (machine : Machine σ) :
    program.step ⟨address, machine⟩ = .stopped ⟨machine, none⟩ := by
  simp only [step, ended]

theorem step_of_size_le (past : program.size ≤ address) (machine : Machine σ) :
    program.step ⟨address, machine⟩ = .stopped ⟨machine, none⟩ :=
  step_of_fetch?_eq_none (fetch?_eq_none_iff.mpr past) machine

/-- A run that has ended stays ended. -/
theorem runFor_stopped_of_le {ending : Ending σ} {early late : Nat}
    (stops : program.runFor early machine = .stopped ending) (later : early ≤ late) :
    program.runFor late machine = .stopped ending :=
  runSteps_stopped_of_le program.step stops later

theorem run?_eq_some_iff {patience : Nat} {ending : Ending σ} :
    program.run? patience machine = some ending ↔
      program.runFor patience machine = .stopped ending := by
  rw [run?]
  cases program.runFor patience machine with
  | running configuration => exact ⟨nofun, nofun⟩
  | stopped reached => simp [Progress.result?]

/-- The program, run on the machine from its first operation, ends in this way. -/
def Ends (program : Program) (machine : Machine σ) (ending : Ending σ) : Prop :=
  ∃ count, program.runFor count machine = .stopped ending

end Program

end

end TapeMachine
