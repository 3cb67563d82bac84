/-! # Running a step function

Execution is the iteration of a step function that either yields the next state or stops with a
result. A run is given a number of steps; when they are used up it hands back the state it has
reached, so a run can always be continued and giving it more steps never changes what it did.
-/

namespace TapeMachine

/-- Where an execution stands: in a state with more to do, or at its result. -/
inductive Progress (State Result : Type) where
  | running (state : State)
  | stopped (result : Result)

namespace Progress

variable {State Result : Type}

/-- Goes on with `continuation` unless the execution has stopped. -/
def bind (progress : Progress State Result) (continuation : State → Progress State Result) :
    Progress State Result :=
  match progress with
  | .running state => continuation state
  | .stopped result => .stopped result

/-- The result, if there is one yet. -/
def result? : Progress State Result → Option Result
  | .running _ => none
  | .stopped result => some result

end Progress

/-- Takes up to `count` steps. -/
@[specialize] def runSteps {State Result : Type} (step : State → Progress State Result) :
    Nat → State → Progress State Result
  | 0, state => .running state
  | count + 1, state =>
    match step state with
    | .running next => runSteps step count next
    | .stopped result => .stopped result

section

variable {State Result : Type} (step : State → Progress State Result)

@[simp] theorem runSteps_zero (state : State) : runSteps step 0 state = .running state := rfl

theorem runSteps_succ (count : Nat) (state : State) :
    runSteps step (count + 1) state = (step state).bind (runSteps step count) := by
  rw [runSteps]
  cases step state <;> rfl

/-- A run of two numbers of steps is the second run after the first. -/
theorem runSteps_add (first second : Nat) (state : State) :
    runSteps step (first + second) state =
      (runSteps step first state).bind (runSteps step second) := by
  induction first generalizing state with
  | zero => rw [Nat.zero_add]; rfl
  | succ first ih =>
    rw [Nat.succ_add, runSteps_succ, runSteps_succ]
    cases step state with
    | running next => exact ih next
    | stopped result => rfl

/-- A result stands, however many steps more are allowed. -/
theorem runSteps_stopped_of_le {fewer more : Nat} {state : State} {result : Result}
    (stopped : runSteps step fewer state = .stopped result) (allowed : fewer ≤ more) :
    runSteps step more state = .stopped result := by
  obtain ⟨extra, rfl⟩ := Nat.exists_eq_add_of_le allowed
  rw [runSteps_add, stopped]
  rfl

end

end TapeMachine
