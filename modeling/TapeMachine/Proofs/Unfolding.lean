import TapeMachine.Console.Script
import TapeMachine.Proofs.Alike
import TapeMachine.Proofs.Partners
import TapeMachine.Proofs.Repetition

/-! # One operation in place of several

An operation that does an action some number of times can be taken for as many operations that do it
once, anywhere in any program, if all jumps are led to where the operations then stand. Jumps may
lead from anywhere to anywhere, into the operation or past the end of the program. The operation may
also be one that does nothing, and then there is none in its place.

Nothing can be observed of it but where the head is left by a move past the left end.
-/

namespace TapeMachine

namespace Program

/-- Where the operation at an address stands when there are `count` operations in place of the one
at `index`. -/
def lead (index count address : Nat) : Nat :=
  if address ≤ index then address else address + count - 1

/-- The operations with the one at `index` replaced by `count` that do the action once each. -/
def unfoldedOperations (program : Program) (index : Nat) (action : Action) (count : Nat) :
    List Operation :=
  program.operations.toList.take index ++ (List.replicate count (.perform action 1) ++
    program.operations.toList.drop (index + 1))

/-- The program with the operation at `index` unfolded and all jumps led to where the operations
stand then. -/
def unfold (program : Program) (index : Nat) (action : Action) (count : Nat) : Program :=
  ⟨((program.unfoldedOperations index action count).map
    (Operation.retarget (lead index count))).toArray⟩

section

variable {program : Program} {index count address offset : Nat} {action : Action}

@[simp] theorem lead_self : lead index count index = index :=
  if_pos (Nat.le_refl index)

theorem lead_behind : lead index count (index + 1) = index + count := by
  rw [lead, if_neg (Nat.not_succ_le_self index)]
  omega

theorem lead_succ_of_ne (other : address ≠ index) :
    lead index count (address + 1) = lead index count address + 1 := by
  unfold lead
  split <;> split <;> omega

theorem fetch?_unfold : (program.unfold index action count).fetch? address =
    (program.unfoldedOperations index action count)[address]?.map
      (Operation.retarget (lead index count)) := by
  rw [unfold, fetch?, List.getElem?_toArray, List.getElem?_map]

variable (inside : index < program.size)

include inside

theorem length_take_operations : (program.operations.toList.take index).length = index :=
  List.length_take_of_le (Nat.le_of_lt inside)

/-- Each of the new operations does the action once. -/
theorem fetch?_unfold_add (early : offset < count) :
    (program.unfold index action count).fetch? (index + offset) = some (.perform action 1) := by
  have length := length_take_operations inside
  rw [fetch?_unfold, unfoldedOperations, List.getElem?_append_right (by omega), length,
    Nat.add_sub_cancel_left, List.getElem?_append_left (by simpa using early),
    List.getElem?_replicate_of_lt early]
  rfl

/-- The other operations have their jumps led elsewhere, and stand elsewhere. -/
theorem fetch?_unfold_lead (other : address ≠ index) :
    (program.unfold index action count).fetch? (lead index count address) =
      (program.fetch? address).map (Operation.retarget (lead index count)) := by
  have length := length_take_operations inside
  rw [fetch?_unfold, unfoldedOperations, fetch?, ← Array.getElem?_toList]
  rcases Nat.lt_or_gt_of_ne other with before | behind
  · rw [lead, if_pos (Nat.le_of_lt before), List.getElem?_append_left (by omega),
      List.getElem?_take_of_lt before]
  · obtain ⟨offset, rfl⟩ := Nat.exists_eq_add_of_lt behind
    rw [lead, if_neg (by omega), List.getElem?_append_right (by omega),
      List.getElem?_append_right (by simp; omega), length, List.length_replicate, List.getElem?_drop]
    congr 2
    omega

end

end Program

@[simp] theorem ExecutionError.kind_retarget (lead : Nat → Nat) (error : ExecutionError) :
    (error.retarget lead).kind = error.kind := by
  cases error <;> rfl

section

variable {σ : Type}

/-- Ended by a fault of the same kind or by none, with the same tape and the same console. -/
structure Ending.Same (one other : Ending σ) : Prop where
  kind : other.fault.map ExecutionError.kind = one.fault.map ExecutionError.kind
  tape : other.machine.tape = one.machine.tape
  console : other.machine.console = one.machine.console

/-- Ended by a move past the left end. One has not moved at all, the other has gone there cell by
cell. -/
structure Ending.Overruns (distance : Nat) (one other : Ending σ) : Prop where
  fault : one.fault = some (.underflow ⟨one.machine.tape.head, distance⟩)
  fault' : other.fault = some (.underflow ⟨0, 1⟩)
  head' : other.machine.tape.head = 0
  cells : other.machine.tape.cells = one.machine.tape.cells
  console : other.machine.console = one.machine.console

theorem Ending.Alike.same {lead : Nat → Nat} {one other : Ending σ}
    (alike : one.Alike Eq Eq lead other) : one.Same other where
  kind := by
    rw [alike.fault, Option.map_map]
    exact congrArg (one.fault.map ·) (funext (ExecutionError.kind_retarget lead))
  tape := alike.machine.tape.symm
  console := alike.machine.console.symm

theorem Ending.Same.observe_eq {one other : Ending σ} (same : one.Same other) :
    other.observe = one.observe := by
  obtain ⟨machine, fault⟩ := one
  obtain ⟨machine', fault'⟩ := other
  obtain ⟨kind, tape, console⟩ := same
  dsimp only at tape console
  cases fault with
  | none =>
    obtain rfl : fault' = none := Option.map_eq_none_iff.mp kind
    simp only [observe, tape, console]
  | some error =>
    obtain ⟨error', rfl, alike⟩ := Option.map_eq_some_iff.mp kind
    simp only [observe, tape, console, alike]

theorem Ending.Overruns.observe_eq {distance : Nat} {one other : Ending σ}
    (overruns : one.Overruns distance other) : other.observe = one.observe := by
  obtain ⟨machine, fault⟩ := one
  obtain ⟨machine', fault'⟩ := other
  obtain ⟨refused, refused', -, cells, console⟩ := overruns
  dsimp only at refused refused' cells console
  subst refused refused'
  simp only [observe, cells, console, ExecutionError.kind]

/-- One more if the operation at `index` is about to be executed. -/
def Configuration.rankAt (index : Nat) (configuration : Configuration σ) : Nat :=
  if configuration.address = index then 1 else 0

variable [Console σ]

namespace Program

variable {program : Program} {index count offset left : Nat} {action : Action}
  {machine machine' : Machine σ} {configuration configuration' : Configuration σ}

/-- Operations that do an action once each do what one does that does it as many times. -/
theorem runSteps_of_each
    (each : ∀ offset < count, program.fetch? (index + offset) = some (.perform action 1))
    (last : offset + left = count) (alike : machine.Alike Eq Eq machine')
    (room : action = .moveLeft → left ≤ machine.tape.head) :
    ((machine.perform index action left).goOn index).Agrees
      (Configuration.Alike Eq Eq (lead index count)) Ending.Same
      (runSteps program.step left ⟨index + offset, machine'⟩) := by
  induction left generalizing offset machine machine' with
  | zero =>
    rw [Machine.perform_zero]
    refine ⟨?_, alike⟩
    dsimp only
    rw [lead_behind, ← last, Nat.add_zero]
  | succ left ih =>
    have next : offset + 1 + left = count := by omega
    have ticked : machine.Alike Eq Eq machine'.tick := ⟨alike.tape, alike.console⟩
    have once : Ending.Alike Eq Eq (fun _ => index + offset) (machine.perform index action 1)
        (machine'.tick.perform (index + offset) action 1) := by
      refine Machine.perform_alike Tape.indistinct_eq Console.indistinct_eq ticked index action 1
        fun _ => ?_
      rw [ticked.tape]
      exact Tape.moveAlike_eq 1 machine'.tick.tape
    have room' : action = .moveLeft → left ≤ (machine.perform index action 1).machine.tape.head := by
      rintro rfl
      have reach : left + 1 ≤ machine.tape.head := room rfl
      obtain ⟨moved, performed, -, head⟩ :=
        Machine.perform_moveLeft_of_le index (by omega : 1 ≤ machine.tape.head)
      rw [performed]
      dsimp only
      omega
    rw [Machine.perform_succ _ _ _ _ room, runSteps_succ, step_of_fetch? (each offset (by omega)),
      Machine.dispatch_perform]
    generalize machine.perform index action 1 = ending at once room'
    generalize machine'.tick.perform (index + offset) action 1 = ending' at once
    obtain ⟨after, fault⟩ := ending
    obtain ⟨after', fault'⟩ := ending'
    obtain ⟨rfl, alike⟩ := once
    cases fault with
    | none => exact ih next alike room'
    | some error => exact Ending.Alike.same ⟨rfl, alike⟩

/-- Moves of one cell each go to the left end before they fail. -/
theorem exists_overrun_of_each
    (each : ∀ offset < count, program.fetch? (index + offset) = some (.perform .moveLeft 1))
    (last : offset + left = count) (past : machine.tape.head < left) : ∃ stopped,
      runSteps program.step left ⟨index + offset, machine⟩ =
        .stopped ⟨stopped, some (.underflow ⟨0, 1⟩)⟩ ∧ stopped.tape.head = 0 ∧
          stopped.tape.cells = machine.tape.cells ∧ stopped.console = machine.console := by
  induction left generalizing offset machine with
  | zero => exact absurd past (Nat.not_lt_zero _)
  | succ left ih =>
    rw [runSteps_succ, step_of_fetch? (each offset (by omega)), Machine.dispatch_perform]
    by_cases atEnd : machine.tick.tape.head = 0
    · rw [Machine.perform_moveLeft_of_lt _ (by omega : machine.tick.tape.head < 1), atEnd]
      exact ⟨machine.tick, rfl, atEnd, rfl, rfl⟩
    · obtain ⟨moved, performed, cells, head⟩ := Machine.perform_moveLeft_of_le (index + offset)
        (by omega : 1 ≤ machine.tick.tape.head)
      have next : offset + 1 + left = count := by omega
      have past : machine.tick.tape.head < left + 1 := past
      have near : (⟨moved, machine.console, machine.tick.steps⟩ : Machine σ).tape.head < left := by
        dsimp only
        omega
      rw [performed]
      obtain ⟨stopped, stops, zero, kept, console⟩ := ih next near
      exact ⟨stopped, stops, zero, kept.trans cells, console⟩

variable (found : program.fetch? index = some (.perform action count))

include found

/-- A step is matched by one or, at the operation unfolded, by as many as it has been replaced by. -/
theorem step_unfold
    (alike : Configuration.Alike Eq Eq (lead index count) configuration configuration')
    (room : configuration.address = index → action = .moveLeft →
      count ≤ configuration.machine.tape.head) :
    ∃ steps, (steps = 0 → ∃ next, program.step configuration = .running next ∧
        next.rankAt index < configuration.rankAt index) ∧
      (program.step configuration).Agrees (Configuration.Alike Eq Eq (lead index count)) Ending.Same
        (runSteps (program.unfold index action count).step steps configuration') := by
  have inside := lt_size_of_fetch? found
  obtain ⟨address, machine⟩ := configuration
  obtain ⟨_, machine'⟩ := configuration'
  obtain ⟨rfl, alike⟩ := alike
  by_cases here : address = index
  -- An operation that does nothing is matched by none, and what follows it is another operation.
  · subst here
    rw [lead_self, step_of_fetch? found, Machine.dispatch_perform]
    refine ⟨count, ?_, ?_⟩
    · rintro rfl
      rw [Machine.perform_zero]
      exact ⟨_, rfl, by simp [Configuration.rankAt]⟩
    · exact runSteps_of_each (fun _ => fetch?_unfold_add inside) (Nat.zero_add count)
        ⟨alike.tape, alike.console⟩ (room rfl)
  · refine ⟨1, nofun, ?_⟩
    have fetched : (program.unfold index action count).fetch? (lead index count address) = _ :=
      fetch?_unfold_lead inside here
    rw [runSteps_one]
    cases old : program.fetch? address with
    | none =>
      rw [old] at fetched
      rw [step_of_fetch?_eq_none old, step_of_fetch?_eq_none fetched]
      exact ⟨rfl, alike.tape.symm, alike.console.symm⟩
    | some operation =>
      rw [old] at fetched
      rw [step_of_fetch? old, step_of_fetch? fetched]
      refine (Machine.dispatch_alike Tape.indistinct_eq Console.indistinct_eq alike operation
        address (lead_succ_of_ne here) fun distance _ => ?_).mono_result fun _ _ => Ending.Alike.same
      rw [alike.tape]
      exact Tape.moveAlike_eq distance machine'.tape

/-- A move past the left end goes there first where it has been unfolded. -/
theorem exists_overrun_unfold (leftward : action = .moveLeft)
    (alike : machine.Alike Eq Eq machine') (past : machine.tape.head < count) : ∃ ending',
      runSteps (program.unfold index action count).step count ⟨index, machine'⟩ =
        .stopped ending' ∧
      Ending.Overruns count
        ⟨machine.tick, some (.underflow ⟨machine.tape.head, count⟩)⟩ ending' := by
  subst leftward
  have inside := lt_size_of_fetch? found
  rw [alike.tape] at past
  obtain ⟨stopped, stops, head, cells, console⟩ :=
    exists_overrun_of_each (fun _ => fetch?_unfold_add inside) (Nat.zero_add count) past
  refine ⟨_, stops, rfl, rfl, head, ?_, ?_⟩
  · rw [cells, ← alike.tape]
    rfl
  · rw [console, ← alike.console]
    rfl

/-- Nothing that is observed tells a program from one with an operation unfolded. -/
theorem simulates_unfold : SimulatesRanked (Configuration.rankAt index) program.step
    (program.unfold index action count).step
    (Configuration.Alike Eq Eq (lead index count) : Configuration σ → Configuration σ → Prop)
    fun one other => other.observe = one.observe := by
  intro configuration configuration' alike
  by_cases room : configuration.address = index → action = .moveLeft →
      count ≤ configuration.machine.tape.head
  · obtain ⟨steps, falls, agrees⟩ := step_unfold found alike room
    exact ⟨steps, falls, agrees.mono_result fun _ _ => Ending.Same.observe_eq⟩
  · simp only [Classical.not_imp, Nat.not_le] at room
    obtain ⟨here, leftward, past⟩ := room
    obtain ⟨address, machine⟩ := configuration
    obtain ⟨_, machine'⟩ := configuration'
    obtain ⟨rfl, alike⟩ := alike
    obtain rfl : address = index := here
    obtain ⟨ending', stops, overruns⟩ := exists_overrun_unfold found leftward alike past
    subst leftward
    refine ⟨count, ?_, ?_⟩
    · rintro rfl
      exact absurd past (Nat.not_lt_zero _)
    · rw [lead_self, stops, step_of_moveLeft_of_lt found past]
      exact overruns.observe_eq

omit found

/-- What a program does on a machine is what it does with the operation at `index` unfolded. -/
structure Unfolds (program : Program) (index : Nat) (action : Action) (count : Nat)
    (machine : Machine σ) : Prop where
  /-- Either both succeed, with the same tape and the same console, or both fail, with the same kind
  of fault, the same cells and the same console. -/
  ends : ∀ seen, (∃ ending, program.Ends machine ending ∧ ending.observe = seen) ↔
    ∃ ending, (program.unfold index action count).Ends machine ending ∧ ending.observe = seen
  /-- One goes on forever if and only if the other does. -/
  diverges : (∀ count, ∃ configuration, program.runFor count machine = .running configuration) ↔
    ∀ steps, ∃ configuration,
      (program.unfold index action count).runFor steps machine = .running configuration
  /-- The heads are the same too, wherever the run ends but at an unfolded move to the left. -/
  same : ∀ moment address before ending,
    program.runFor moment machine = .running ⟨address, before⟩ →
      program.step ⟨address, before⟩ = .stopped ending →
        (address = index → action ≠ .moveLeft) →
          ∃ ending', (program.unfold index action count).Ends machine ending' ∧ ending.Same ending'
  /-- Where that move fails the one head has stayed where it was and the other is at the left end. -/
  overruns : ∀ moment before, program.runFor moment machine = .running ⟨index, before⟩ →
    action = .moveLeft → before.tape.head < count → ∃ ending ending',
      program.Ends machine ending ∧ (program.unfold index action count).Ends machine ending' ∧
        ending.machine.tape = before.tape ∧ ending.Overruns count ending'

/-- Anywhere in any program an operation may be replaced by as many that do its action once. -/
theorem runs_unfolded (found : program.fetch? index = some (.perform action count))
    (machine : Machine σ) : program.Unfolds index action count machine := by
  have start : Configuration.Alike Eq Eq (lead index count) ⟨0, machine⟩ ⟨0, machine⟩ :=
    ⟨(if_pos (Nat.zero_le index)).symm, rfl, rfl⟩
  have simulates := simulates_unfold (σ := σ) found
  refine ⟨?_, simulates.diverges_iff start, ?_, ?_⟩
  · intro seen
    constructor
    · rintro ⟨ending, ⟨steps, stops⟩, rfl⟩
      obtain ⟨more, ending', stops', same⟩ := simulates.exists_stopped start stops
      exact ⟨ending', ⟨more, stops'⟩, same⟩
    · rintro ⟨ending', ⟨steps, stops'⟩, rfl⟩
      obtain ⟨fewer, ending, stops, same⟩ := simulates.exists_of_stopped start stops'
      exact ⟨ending, ⟨fewer, stops⟩, same.symm⟩
  · intro moment address before ending runs last other
    obtain ⟨more, configuration, runs', alike⟩ := simulates.exists_running start runs
    obtain ⟨steps, -, agrees⟩ := step_unfold found alike fun here leftward =>
      absurd leftward (other here)
    rw [last] at agrees
    obtain ⟨ending', stops, same⟩ := agrees.exists_stopped
    exact ⟨ending', ⟨more + steps, (runSteps_of_running runs' steps).trans stops⟩, same⟩
  · intro moment before runs leftward past
    obtain ⟨more, ⟨_, before'⟩, runs', rfl, alike⟩ := simulates.exists_running start runs
    obtain ⟨ending', stops, overruns⟩ := exists_overrun_unfold found leftward alike past
    rw [lead_self] at runs'
    subst leftward
    refine ⟨_, ending', ⟨moment + 1, ?_⟩, ⟨more + count, ?_⟩, rfl, overruns⟩
    · rw [runFor, runSteps_of_running runs 1, runSteps_one]
      exact step_of_moveLeft_of_lt found past
    · rw [runFor, runSteps_of_running runs' count]
      exact stops

end Program

end

/-- A jump over an operation that does nothing, a move past the left end and a jump that leads past
the last operation. -/
def backAndForth : Program :=
  ⟨#[.jumpIfZero 2, .perform .output 0, .perform .moveRight 1, .perform .moveLeft 3,
    .jumpIfNonzero 9]⟩

theorem runs_unfolded_backAndForth :
    backAndForth.fetch? 3 = some (.perform .moveLeft 3) ∧
      backAndForth.Unfolds 3 .moveLeft 3 (Machine.fresh (Script.ofLines [])) :=
  ⟨rfl, backAndForth.runs_unfolded rfl _⟩

end TapeMachine
