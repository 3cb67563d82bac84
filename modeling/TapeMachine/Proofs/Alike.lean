import TapeMachine.Proofs.Outcome

/-! # Machines that are alike

Two machines are alike if their tapes are related and so are their consoles, where the relations are
such that neither machine can tell the difference: related tapes show the same cell, related consoles
give the same answers, and what is done to both leaves them related. Moves to the left are the one
thing that need not be so and are looked at case by case.

Alike machines do the same. The operations may stand at other addresses, as long as their jumps are
led there too; only a fault that names its operation then shows it.
-/

namespace TapeMachine

/-- The operation with its jump led elsewhere. -/
def Operation.retarget (lead : Nat → Nat) : Operation → Operation
  | .perform action count => .perform action count
  | .jumpIfZero target => .jumpIfZero (lead target)
  | .jumpIfNonzero target => .jumpIfNonzero (lead target)

/-- The fault of an operation that stands elsewhere. -/
def ExecutionError.retarget (lead : Nat → Nat) : ExecutionError → ExecutionError
  | .underflow refused => .underflow refused
  | .unexpectedEndOfInput position => .unexpectedEndOfInput (lead position)
  | .console reason => .console reason

@[simp] theorem Operation.retarget_id (operation : Operation) :
    operation.retarget id = operation := by
  cases operation <;> rfl

@[simp] theorem ExecutionError.retarget_id (error : ExecutionError) : error.retarget id = error := by
  cases error <;> rfl

@[simp] theorem ExecutionError.map_retarget_id (fault : Option ExecutionError) :
    fault.map (retarget id) = fault := by
  cases fault <;> simp

/-- Related tapes show the same cell, and stay related when something is stored in it and when both
heads move to the right. -/
structure Tape.Indistinct (tapes : Tape → Tape → Prop) : Prop where
  load : ∀ {tape tape'}, tapes tape tape' → tape'.load = tape.load
  store : ∀ {tape tape'}, tapes tape tape' → ∀ value, tapes (tape.store value) (tape'.store value)
  moveRight : ∀ {tape tape'}, tapes tape tape' →
    ∀ distance, tapes (tape.moveRight distance) (tape'.moveRight distance)

/-- Both tapes refuse to move so far to the left, or both move and are related then. -/
def Tape.MoveAlike (tapes : Tape → Tape → Prop) (distance : Nat) (tape tape' : Tape) : Prop :=
  (∃ refused, tape.moveLeft distance = .error refused ∧ tape'.moveLeft distance = .error refused) ∨
    ∃ moved moved', tape.moveLeft distance = .ok moved ∧ tape'.moveLeft distance = .ok moved' ∧
      tapes moved moved'

theorem Tape.indistinct_eq : Tape.Indistinct Eq where
  load same := congrArg Tape.load same.symm
  store same value := congrArg (Tape.store value) same
  moveRight same distance := congrArg (Tape.moveRight distance) same

theorem Tape.moveAlike_eq (distance : Nat) (tape : Tape) : MoveAlike Eq distance tape tape := by
  cases moves : tape.moveLeft distance with
  | ok moved => exact .inr ⟨moved, moved, moves, moves, rfl⟩
  | error refused => exact .inl ⟨refused, moves, moves⟩

section

variable {σ τ : Type}

/-- Related consoles answer alike and stay related. -/
structure Console.Indistinct [Console σ] [Console τ] (consoles : σ → τ → Prop) : Prop where
  read : ∀ {one other}, consoles one other → (Console.read other).1 = (Console.read one).1 ∧
    consoles (Console.read one).2 (Console.read other).2
  write : ∀ {one other}, consoles one other → ∀ byte,
    (Console.write byte other).1 = (Console.write byte one).1 ∧
      consoles (Console.write byte one).2 (Console.write byte other).2

theorem Console.indistinct_eq [Console σ] : Console.Indistinct (Eq : σ → σ → Prop) where
  read := by
    rintro one _ rfl
    exact ⟨rfl, rfl⟩
  write := by
    rintro one _ rfl byte
    exact ⟨rfl, rfl⟩

variable {tapes : Tape → Tape → Prop} {consoles : σ → τ → Prop} {lead : Nat → Nat}

/-- Machines with related tapes and related consoles. The operations dispatched so far may differ in
number. -/
structure Machine.Alike (tapes : Tape → Tape → Prop) (consoles : σ → τ → Prop) (one : Machine σ)
    (other : Machine τ) : Prop where
  tape : tapes one.tape other.tape
  console : consoles one.console other.console

/-- Alike machines about to execute corresponding operations. -/
structure Configuration.Alike (tapes : Tape → Tape → Prop) (consoles : σ → τ → Prop)
    (lead : Nat → Nat) (one : Configuration σ) (other : Configuration τ) : Prop where
  address : other.address = lead one.address
  machine : one.machine.Alike tapes consoles other.machine

/-- Alike machines stopped by the same fault of corresponding operations, or by none. -/
structure Ending.Alike (tapes : Tape → Tape → Prop) (consoles : σ → τ → Prop) (lead : Nat → Nat)
    (one : Ending σ) (other : Ending τ) : Prop where
  fault : other.fault = one.fault.map (ExecutionError.retarget lead)
  machine : one.machine.Alike tapes consoles other.machine

variable [Console σ] [Console τ] {one : Machine σ} {other : Machine τ}

namespace Machine

variable (stable : Tape.Indistinct tapes) (answers : Console.Indistinct consoles)

include stable answers

theorem readTimes_alike (alike : one.Alike tapes consoles other) (position count : Nat) :
    (one.readTimes position count).Alike tapes consoles lead
      (other.readTimes (lead position) count) := by
  induction count generalizing one other with
  | zero => exact ⟨rfl, alike⟩
  | succ count ih =>
    obtain ⟨tape, console, steps⟩ := one
    obtain ⟨tape', console', steps'⟩ := other
    obtain ⟨related, met⟩ := alike
    obtain ⟨same, after⟩ := answers.read met
    simp only [readTimes]
    generalize Console.read console = result at same after
    generalize Console.read console' = result' at same after
    obtain ⟨answer, next⟩ := result
    obtain ⟨answer', next'⟩ := result'
    dsimp only at same
    subst same
    cases answer' with
    | line bytes => exact ih ⟨stable.store related (bytes.headD 0), after⟩
    | endOfInput => exact ⟨rfl, related, after⟩
    | failed reason => exact ⟨rfl, related, after⟩

theorem writeTimes_alike (alike : one.Alike tapes consoles other) (count : Nat) :
    (one.writeTimes count).Alike tapes consoles lead (other.writeTimes count) := by
  induction count generalizing one other with
  | zero => exact ⟨rfl, alike⟩
  | succ count ih =>
    obtain ⟨tape, console, steps⟩ := one
    obtain ⟨tape', console', steps'⟩ := other
    obtain ⟨related, met⟩ := alike
    have shown : tape'.load = tape.load := stable.load related
    obtain ⟨same, after⟩ := answers.write met tape.load
    simp only [writeTimes, shown]
    generalize Console.write tape.load console = result at same after
    generalize Console.write tape.load console' = result' at same after
    obtain ⟨answer, next⟩ := result
    obtain ⟨answer', next'⟩ := result'
    dsimp only at same
    subst same
    cases answer' with
    | written => exact ih ⟨related, after⟩
    | failed reason => exact ⟨rfl, related, after⟩

/-- Alike machines do an action alike, a move to the left if their tapes do. -/
theorem perform_alike (alike : one.Alike tapes consoles other) (position : Nat) (action : Action)
    (count : Nat)
    (moves : action = .moveLeft → Tape.MoveAlike tapes count one.tape other.tape) :
    (one.perform position action count).Alike tapes consoles lead
      (other.perform (lead position) action count) := by
  cases action with
  | moveRight => exact ⟨rfl, stable.moveRight alike.tape count, alike.console⟩
  | moveLeft =>
    obtain ⟨refused, same, same'⟩ | ⟨moved, moved', same, same', related⟩ := moves rfl
    · simp only [perform, same, same']
      exact ⟨rfl, alike⟩
    · simp only [perform, same, same']
      exact ⟨rfl, related, alike.console⟩
  | increment =>
    have sum := stable.store alike.tape (one.tape.load + UInt8.ofNat count)
    rw [← Tape.add_eq_store, ← stable.load alike.tape, ← Tape.add_eq_store] at sum
    exact ⟨rfl, sum, alike.console⟩
  | decrement =>
    have difference := stable.store alike.tape (one.tape.load - UInt8.ofNat count)
    rw [← Tape.sub_eq_store, ← stable.load alike.tape, ← Tape.sub_eq_store] at difference
    exact ⟨rfl, difference, alike.console⟩
  | output => exact writeTimes_alike stable answers alike count
  | input => exact readTimes_alike stable answers alike position count

/-- Alike machines execute corresponding operations alike. -/
theorem dispatch_alike (alike : one.Alike tapes consoles other) (operation : Operation)
    (address : Nat) (behind : lead (address + 1) = lead address + 1)
    (moves : ∀ distance, operation = .perform .moveLeft distance →
      Tape.MoveAlike tapes distance one.tape other.tape) :
    (one.dispatch operation address).Agrees (Configuration.Alike tapes consoles lead)
      (Ending.Alike tapes consoles lead)
      (other.dispatch (operation.retarget lead) (lead address)) := by
  have shown : other.tape.load = one.tape.load := stable.load alike.tape
  have ticked : one.tick.Alike tapes consoles other.tick := ⟨alike.tape, alike.console⟩
  cases operation with
  | perform action count =>
    rw [Operation.retarget, dispatch_perform, dispatch_perform]
    have performed : Ending.Alike tapes consoles lead (one.tick.perform address action count)
        (other.tick.perform (lead address) action count) :=
      perform_alike stable answers ticked address action count fun same =>
        moves count (by rw [same])
    generalize one.tick.perform address action count = ending at performed
    generalize other.tick.perform (lead address) action count = ending' at performed
    obtain ⟨after, fault⟩ := ending
    obtain ⟨after', fault'⟩ := ending'
    obtain ⟨same, alike⟩ := performed
    dsimp only at same
    subst same
    cases fault with
    | none => exact ⟨behind.symm, alike⟩
    | some error => exact ⟨rfl, alike⟩
  | jumpIfZero target =>
    refine ⟨?_, ticked⟩
    simp only [shown, apply_ite lead, behind]
  | jumpIfNonzero target =>
    refine ⟨?_, ticked⟩
    simp only [shown, apply_ite lead, behind]

end Machine

/-- A program runs alike on alike machines, step by step. -/
theorem Program.step_alike (stable : Tape.Indistinct tapes) (answers : Console.Indistinct consoles)
    (program : Program) (address : Nat) (alike : one.Alike tapes consoles other)
    (moves : ∀ distance, program.fetch? address = some (.perform .moveLeft distance) →
      Tape.MoveAlike tapes distance one.tape other.tape) :
    (program.step ⟨address, one⟩).Agrees (Configuration.Alike tapes consoles id)
      (Ending.Alike tapes consoles id) (program.step ⟨address, other⟩) := by
  cases found : program.fetch? address with
  | none =>
    rw [step_of_fetch?_eq_none found, step_of_fetch?_eq_none found]
    exact ⟨rfl, alike⟩
  | some operation =>
    rw [step_of_fetch? found, step_of_fetch? found]
    have behind : id (address + 1) = id address + 1 := rfl
    have agrees := Machine.dispatch_alike stable answers alike operation address behind
      fun distance same => moves distance (by rw [found, same])
    rwa [Operation.retarget_id] at agrees

/-- Where only the consoles differ a whole run is alike. -/
theorem Program.runFor_alike (answers : Console.Indistinct consoles) (program : Program)
    (alike : one.Alike Eq consoles other) (count : Nat) :
    (program.runFor count one).Agrees (Configuration.Alike Eq consoles id)
      (Ending.Alike Eq consoles id) (program.runFor count other) := by
  have start : Configuration.Alike Eq consoles id ⟨0, one⟩ ⟨0, other⟩ := ⟨rfl, alike⟩
  refine runSteps_agrees ?_ start count
  rintro ⟨_, machine⟩ ⟨address, machine'⟩ ⟨rfl, alike⟩
  refine program.step_alike Tape.indistinct_eq answers address alike fun distance _ => ?_
  rw [alike.tape]
  exact Tape.moveAlike_eq distance machine'.tape

/-- Either neither run has ended, or both have, and alike. -/
theorem Program.run?_alike (answers : Console.Indistinct consoles) (program : Program)
    (alike : one.Alike Eq consoles other) (patience : Nat) :
    (program.run? patience one = none ∧ program.run? patience other = none) ∨
      ∃ ending ending', program.run? patience one = some ending ∧
        program.run? patience other = some ending' ∧ ending'.fault = ending.fault ∧
          ending.machine.Alike Eq consoles ending'.machine := by
  have agrees := program.runFor_alike answers alike patience
  cases reached : program.runFor patience one with
  | running configuration =>
    rw [reached] at agrees
    obtain ⟨configuration', reached', -⟩ := agrees.exists_running
    rw [run?, run?, reached, reached']
    exact .inl ⟨rfl, rfl⟩
  | stopped ending =>
    rw [reached] at agrees
    obtain ⟨ending', reached', fault, alike⟩ := agrees.exists_stopped
    rw [ExecutionError.map_retarget_id] at fault
    exact .inr ⟨ending, ending', run?_eq_some_iff.mpr reached, run?_eq_some_iff.mpr reached', fault,
      alike⟩

end

end TapeMachine
