import TapeMachine.Execution

/-! # Simulations between executions

One execution is simulated by another if each of its steps is matched by one or more steps of the
other. Since no step is matched by none, the other is never behind: it stops if and only if the
first does, and with a result that agrees. Both are functions, so this needs one direction of
matching only. Where some steps are matched by none, a rank that they lower does the same service.
-/

namespace TapeMachine

variable {State Result State' Result' : Type}
  {related : State → State' → Prop} {agree : Result → Result' → Prop}

theorem runSteps_of_running {step : State → Progress State Result} {count : Nat}
    {state middle : State} (reached : runSteps step count state = .running middle) (more : Nat) :
    runSteps step (count + more) state = runSteps step more middle := by
  rw [runSteps_add, reached]
  rfl

theorem runSteps_one (step : State → Progress State Result) (state : State) :
    runSteps step 1 state = step state := by
  rw [runSteps_succ]
  cases step state <;> rfl

/-- An execution goes on forever unless it stops. -/
theorem diverges_iff_not_stopped {step : State → Progress State Result} {state : State} :
    (∀ count, ∃ next, runSteps step count state = .running next) ↔
      ¬∃ count result, runSteps step count state = .stopped result := by
  constructor
  · rintro diverges ⟨count, result, stops⟩
    obtain ⟨next, runs⟩ := diverges count
    rw [stops] at runs
    cases runs
  · intro never count
    cases reached : runSteps step count state with
    | running next => exact ⟨next, rfl⟩
    | stopped result => exact absurd ⟨count, result, reached⟩ never

namespace Progress

/-- Two executions stand in states related in one way, or both at results related in another. -/
def Agrees (related : State → State' → Prop) (agree : Result → Result' → Prop) :
    Progress State Result → Progress State' Result' → Prop
  | .running state, .running state' => related state state'
  | .stopped result, .stopped result' => agree result result'
  | _, _ => False

variable {progress : Progress State Result} {progress' : Progress State' Result'}

theorem Agrees.exists_running {state : State}
    (agrees : (running state).Agrees related agree progress') :
    ∃ state', progress' = .running state' ∧ related state state' := by
  cases progress' with
  | running state' => exact ⟨state', rfl, agrees⟩
  | stopped result' => exact agrees.elim

theorem Agrees.exists_stopped {result : Result}
    (agrees : (stopped result).Agrees related agree progress') :
    ∃ result', progress' = .stopped result' ∧ agree result result' := by
  cases progress' with
  | running state' => exact agrees.elim
  | stopped result' => exact ⟨result', rfl, agrees⟩

theorem Agrees.exists_of_stopped {result' : Result'}
    (agrees : progress.Agrees related agree (stopped result')) :
    ∃ result, progress = .stopped result ∧ agree result result' := by
  cases progress with
  | running state => exact agrees.elim
  | stopped result => exact ⟨result, rfl, agrees⟩

theorem Agrees.mono_result {agree' : Result → Result' → Prop}
    (agrees : progress.Agrees related agree progress')
    (weaker : ∀ result result', agree result result' → agree' result result') :
    progress.Agrees related agree' progress' := by
  cases progress with
  | running state =>
    obtain ⟨state', rfl, relates⟩ := agrees.exists_running
    exact relates
  | stopped result =>
    obtain ⟨result', rfl, agreed⟩ := agrees.exists_stopped
    exact weaker result result' agreed

theorem Agrees.mono {related' : State → State' → Prop}
    (agrees : progress.Agrees related agree progress')
    (weaker : ∀ state state', related state state' → related' state state') :
    progress.Agrees related' agree progress' := by
  cases progress with
  | running state =>
    obtain ⟨state', rfl, relates⟩ := agrees.exists_running
    exact weaker state state' relates
  | stopped result =>
    obtain ⟨result', rfl, agreed⟩ := agrees.exists_stopped
    exact agreed

/-- What agrees goes on to agree if every pair of states does that it can have reached. -/
theorem Agrees.exists_bind {related' : State → State' → Prop}
    {step' : State' → Progress State' Result'} {state' : State'} {count least : Nat}
    {continuation : State → Progress State Result}
    (agrees : progress.Agrees related agree (runSteps step' count state'))
    (continues : ∀ state state', related state state' → ∃ more, least ≤ more ∧
      (continuation state).Agrees related' agree (runSteps step' more state')) :
    ∃ more, count + least ≤ more ∧
      (progress.bind continuation).Agrees related' agree (runSteps step' more state') := by
  cases progress with
  | running state =>
    obtain ⟨next', reached, related⟩ := agrees.exists_running
    obtain ⟨more, enough, agrees⟩ := continues state next' related
    refine ⟨count + more, by omega, ?_⟩
    rw [runSteps_of_running reached]
    exact agrees
  | stopped result =>
    obtain ⟨result', reached, agrees⟩ := agrees.exists_stopped
    refine ⟨count + least, Nat.le_refl _, ?_⟩
    rw [runSteps_stopped_of_le step' reached (Nat.le_add_right ..)]
    exact agrees

end Progress

/-- Each step from a state is matched by one or more steps from any related state. -/
def Simulates (step : State → Progress State Result) (step' : State' → Progress State' Result')
    (related : State → State' → Prop) (agree : Result → Result' → Prop) : Prop :=
  ∀ state state', related state state' →
    ∃ count, 0 < count ∧ (step state).Agrees related agree (runSteps step' count state')

namespace Simulates

variable {step : State → Progress State Result} {step' : State' → Progress State' Result'}
  {state : State} {state' : State'} {count : Nat}

/-- Any number of steps is matched by at least as many. -/
theorem exists_agrees (simulates : Simulates step step' related agree)
    (start : related state state') (count : Nat) :
    ∃ more, count ≤ more ∧
      (runSteps step count state).Agrees related agree (runSteps step' more state') := by
  induction count generalizing state state' with
  | zero => exact ⟨0, Nat.le_refl 0, start⟩
  | succ count ih =>
    obtain ⟨first, positive, matched⟩ := simulates state state' start
    obtain ⟨more, enough, agrees⟩ := matched.exists_bind fun _ _ related => ih related
    refine ⟨more, by omega, ?_⟩
    rw [runSteps_succ]
    exact agrees

theorem exists_stopped (simulates : Simulates step step' related agree)
    (start : related state state') {result : Result}
    (stops : runSteps step count state = .stopped result) :
    ∃ more result', runSteps step' more state' = .stopped result' ∧ agree result result' := by
  obtain ⟨more, -, agrees⟩ := simulates.exists_agrees start count
  rw [stops] at agrees
  exact ⟨more, agrees.exists_stopped⟩

theorem exists_of_stopped (simulates : Simulates step step' related agree)
    (start : related state state') {result' : Result'}
    (stops : runSteps step' count state' = .stopped result') :
    ∃ result, runSteps step count state = .stopped result ∧ agree result result' := by
  obtain ⟨more, enough, agrees⟩ := simulates.exists_agrees start count
  rw [runSteps_stopped_of_le step' stops enough] at agrees
  exact agrees.exists_of_stopped

theorem exists_running (simulates : Simulates step step' related agree)
    (start : related state state') {next : State}
    (runs : runSteps step count state = .running next) :
    ∃ more next', count ≤ more ∧ runSteps step' more state' = .running next' ∧
      related next next' := by
  obtain ⟨more, enough, agrees⟩ := simulates.exists_agrees start count
  rw [runs] at agrees
  obtain ⟨next', reached, related⟩ := agrees.exists_running
  exact ⟨more, next', enough, reached, related⟩

/-- One execution goes on forever exactly if the other does. -/
theorem diverges_iff (simulates : Simulates step step' related agree)
    (start : related state state') :
    (∀ count, ∃ next, runSteps step count state = .running next) ↔
      ∀ count, ∃ next', runSteps step' count state' = .running next' := by
  rw [diverges_iff_not_stopped, diverges_iff_not_stopped]
  refine not_congr ⟨?_, ?_⟩
  · rintro ⟨count, result, stops⟩
    obtain ⟨more, result', stops', -⟩ := simulates.exists_stopped start stops
    exact ⟨more, result', stops'⟩
  · rintro ⟨count, result', stops'⟩
    obtain ⟨result, stops, -⟩ := simulates.exists_of_stopped start stops'
    exact ⟨count, result, stops⟩

end Simulates

/-- Each step from a state is matched by some steps from any related state, by none at all only if a
rank falls. -/
def SimulatesRanked (rank : State → Nat) (step : State → Progress State Result)
    (step' : State' → Progress State' Result') (related : State → State' → Prop)
    (agree : Result → Result' → Prop) : Prop :=
  ∀ state state', related state state' → ∃ count,
    (count = 0 → ∃ next, step state = .running next ∧ rank next < rank state) ∧
      (step state).Agrees related agree (runSteps step' count state')

namespace SimulatesRanked

variable {rank : State → Nat} {step : State → Progress State Result}
  {step' : State' → Progress State' Result'} {state : State} {state' : State'} {count : Nat}

theorem exists_agrees (simulates : SimulatesRanked rank step step' related agree)
    (start : related state state') (count : Nat) :
    ∃ more, (runSteps step count state).Agrees related agree (runSteps step' more state') := by
  induction count generalizing state state' with
  | zero => exact ⟨0, start⟩
  | succ count ih =>
    obtain ⟨first, -, matched⟩ := simulates state state' start
    obtain ⟨more, -, agrees⟩ := matched.exists_bind fun _ _ related =>
      (ih related).imp fun _ agrees => ⟨Nat.zero_le _, agrees⟩
    refine ⟨more, ?_⟩
    rw [runSteps_succ]
    exact agrees

/-- Steps matched by none are followed by one that is not, so any number of steps is needed to match
enough of the others. -/
theorem exists_enough (simulates : SimulatesRanked rank step step' related agree)
    (start : related state state') (enough : Nat) : ∃ count more, enough ≤ more ∧
      (runSteps step count state).Agrees related agree (runSteps step' more state') := by
  induction enough generalizing state state' with
  | zero => exact ⟨0, 0, Nat.le_refl 0, start⟩
  | succ enough ih =>
    generalize height : rank state = bound
    induction bound using Nat.strongRecOn generalizing state with
    | ind bound lower =>
      obtain ⟨first, falls, matched⟩ := simulates state state' start
      cases first with
      | zero =>
        obtain ⟨next, taken, less⟩ := falls rfl
        rw [taken] at matched
        obtain ⟨count, more, reached, agrees⟩ := lower (rank next) (height ▸ less) matched rfl
        refine ⟨count + 1, more, reached, ?_⟩
        rw [runSteps_succ, taken]
        exact agrees
      | succ first =>
        cases taken : step state with
        | running next =>
          rw [taken] at matched
          obtain ⟨next', reached, relates⟩ := matched.exists_running
          obtain ⟨count, more, farther, agrees⟩ := ih relates
          refine ⟨count + 1, first + 1 + more, by omega, ?_⟩
          rw [runSteps_succ, taken, runSteps_of_running reached]
          exact agrees
        | stopped result =>
          rw [taken] at matched
          obtain ⟨result', reached, agreed⟩ := matched.exists_stopped
          refine ⟨1, first + 1 + enough, by omega, ?_⟩
          rw [runSteps_one, taken, runSteps_stopped_of_le step' reached (Nat.le_add_right ..)]
          exact agreed

theorem exists_running (simulates : SimulatesRanked rank step step' related agree)
    (start : related state state') {next : State}
    (runs : runSteps step count state = .running next) :
    ∃ more next', runSteps step' more state' = .running next' ∧ related next next' := by
  obtain ⟨more, agrees⟩ := simulates.exists_agrees start count
  rw [runs] at agrees
  exact ⟨more, agrees.exists_running⟩

theorem exists_stopped (simulates : SimulatesRanked rank step step' related agree)
    (start : related state state') {result : Result}
    (stops : runSteps step count state = .stopped result) :
    ∃ more result', runSteps step' more state' = .stopped result' ∧ agree result result' := by
  obtain ⟨more, agrees⟩ := simulates.exists_agrees start count
  rw [stops] at agrees
  exact ⟨more, agrees.exists_stopped⟩

theorem exists_of_stopped (simulates : SimulatesRanked rank step step' related agree)
    (start : related state state') {result' : Result'}
    (stops : runSteps step' count state' = .stopped result') :
    ∃ fewer result, runSteps step fewer state = .stopped result ∧ agree result result' := by
  obtain ⟨fewer, more, enough, agrees⟩ := simulates.exists_enough start count
  rw [runSteps_stopped_of_le step' stops enough] at agrees
  exact ⟨fewer, agrees.exists_of_stopped⟩

/-- One execution goes on forever exactly if the other does. -/
theorem diverges_iff (simulates : SimulatesRanked rank step step' related agree)
    (start : related state state') :
    (∀ count, ∃ next, runSteps step count state = .running next) ↔
      ∀ count, ∃ next', runSteps step' count state' = .running next' := by
  rw [diverges_iff_not_stopped, diverges_iff_not_stopped]
  refine not_congr ⟨?_, ?_⟩
  · rintro ⟨count, result, stops⟩
    obtain ⟨more, result', stops', -⟩ := simulates.exists_stopped start stops
    exact ⟨more, result', stops'⟩
  · rintro ⟨count, result', stops'⟩
    obtain ⟨fewer, result, stops, -⟩ := simulates.exists_of_stopped start stops'
    exact ⟨fewer, result, stops⟩

end SimulatesRanked

/-- Executions of which each step agrees agree at any time. -/
theorem runSteps_agrees {step : State → Progress State Result}
    {step' : State' → Progress State' Result'}
    (each : ∀ state state', related state state' →
      (step state).Agrees related agree (step' state'))
    {state : State} {state' : State'} (start : related state state') (count : Nat) :
    (runSteps step count state).Agrees related agree (runSteps step' count state') := by
  induction count generalizing state state' with
  | zero => exact start
  | succ count ih =>
    have first := each state state' start
    rw [runSteps_succ, runSteps_succ]
    cases taken : step state with
    | running next =>
      rw [taken] at first
      obtain ⟨next', taken', relates⟩ := first.exists_running
      rw [taken']
      exact ih relates
    | stopped result =>
      rw [taken] at first
      obtain ⟨result', taken', agreed⟩ := first.exists_stopped
      rw [taken']
      exact agreed

/-- Executions of which each step agrees, but for states where they part, agree at any time or have
agreed up to such states. -/
theorem exists_parting {step : State → Progress State Result}
    {step' : State' → Progress State' Result'} {parts : State → State' → Prop}
    (each : ∀ state state', related state state' →
      (step state).Agrees related agree (step' state') ∨ parts state state')
    {state : State} {state' : State'} (start : related state state') (count : Nat) :
    (runSteps step count state).Agrees related agree (runSteps step' count state') ∨
      ∃ moment < count, ∃ reached reached', runSteps step moment state = .running reached ∧
        runSteps step' moment state' = .running reached' ∧ parts reached reached' ∧
          ∀ earlier ≤ moment,
            (runSteps step earlier state).Agrees related agree (runSteps step' earlier state') := by
  induction count generalizing state state' with
  | zero => exact .inl start
  | succ count ih =>
    obtain agrees | parted := each state state' start
    · cases first : step state with
      | stopped result =>
        rw [first] at agrees
        obtain ⟨result', first', agreed⟩ := agrees.exists_stopped
        left
        rw [runSteps_succ, runSteps_succ, first, first']
        exact agreed
      | running next =>
        rw [first] at agrees
        obtain ⟨next', first', relates⟩ := agrees.exists_running
        have onward : ∀ count, runSteps step (count + 1) state = runSteps step count next := by
          intro count
          rw [runSteps_succ, first]
          rfl
        have onward' : ∀ count, runSteps step' (count + 1) state' = runSteps step' count next' := by
          intro count
          rw [runSteps_succ, first']
          rfl
        rw [onward, onward']
        refine (ih relates).imp_right ?_
        rintro ⟨moment, early, reached, reached', runs, runs', parted, before⟩
        refine ⟨moment + 1, Nat.succ_lt_succ early, reached, reached', (onward moment).trans runs,
          (onward' moment).trans runs', parted, ?_⟩
        intro earlier bound
        cases earlier with
        | zero => exact start
        | succ earlier =>
          rw [onward, onward']
          exact before earlier (Nat.le_of_succ_le_succ bound)
    · refine .inr ⟨0, Nat.succ_pos count, state, state', rfl, rfl, parted, ?_⟩
      intro earlier bound
      obtain rfl := Nat.le_zero.mp bound
      exact start

end TapeMachine
