import TapeMachine.Proofs.Outcome

/-! # Doing an action several times

An action that is done several times in one go does what it would do one at a time: moves and sums
add up, and a read or a write that fails cuts short whatever is left. The one difference is a move
to the left that is refused. In one go it does not move the head at all, one at a time it moves it
to the left end first.
-/

namespace TapeMachine

namespace Tape

variable (tape : Tape)

theorem ext_cell {first second : Tape} (size : first.size = second.size)
    (cell : ∀ address, first.cell address = second.cell address)
    (head : first.head = second.head) : first = second := by
  refine ext (Array.ext size ?_) head
  intro address bound bound'
  simpa [Tape.cell, bound, bound'] using cell address

@[simp] theorem load_store (value : UInt8) : (tape.store value).load = value := by
  simp [load_eq_cell, cell_store]

@[simp] theorem store_load : tape.store tape.load = tape := by
  obtain ⟨cells, head, bound⟩ := tape
  simp [store, load]

@[simp] theorem store_store (first second : UInt8) :
    (tape.store first).store second = tape.store second := by
  apply ext_cell
  · simp
  · intro address
    simp only [cell_store, head_store]
    split <;> rfl
  · simp

@[simp] theorem moveRight_zero : tape.moveRight 0 = tape := by
  obtain ⟨cells, head, bound⟩ := tape
  simp [moveRight, bound]

@[simp] theorem moveLeft_zero : tape.moveLeft 0 = .ok tape := by
  obtain ⟨cells, head, bound⟩ := tape
  simp [moveLeft]

@[simp] theorem add_zero : tape.add 0 = tape := by
  obtain ⟨cells, head, bound⟩ := tape
  simp [add]

@[simp] theorem sub_zero : tape.sub 0 = tape := by
  obtain ⟨cells, head, bound⟩ := tape
  simp [sub]

theorem moveRight_moveRight (first second : Nat) :
    (tape.moveRight first).moveRight second = tape.moveRight (first + second) := by
  apply ext_cell
  · simp only [size_moveRight, head_moveRight]
    omega
  · simp
  · simp only [head_moveRight]
    omega

/-- A move to the left within the tape can be made in two parts. -/
theorem exists_moveLeft {first second : Nat} (reachable : first + second ≤ tape.head) :
    ∃ middle moved, tape.moveLeft first = .ok middle ∧ middle.moveLeft second = .ok moved ∧
      tape.moveLeft (first + second) = .ok moved := by
  obtain ⟨middle, once, cells, head⟩ := moveLeft_of_le (by omega : first ≤ tape.head)
  obtain ⟨moved, twice, cells', head'⟩ := moveLeft_of_le (by omega : second ≤ middle.head)
  obtain ⟨whole, atOnce, cells'', head''⟩ := moveLeft_of_le reachable
  have same : whole = moved := by
    apply ext
    · rw [cells'', cells', cells]
    · omega
  exact ⟨middle, moved, once, twice, by rw [atOnce, same]⟩

theorem add_add (first second : Nat) : (tape.add first).add second = tape.add (first + second) := by
  simp only [add_eq_store, load_store, store_store, UInt8.ofNat_add, UInt8.add_assoc]

theorem sub_sub (first second : Nat) : (tape.sub first).sub second = tape.sub (first + second) := by
  simp only [sub_eq_store, load_store, store_store, UInt8.ofNat_add, UInt8.sub_eq_add_neg,
    UInt8.neg_add, UInt8.add_assoc]

end Tape

/-- Goes on with `continuation` unless there has been a fault. -/
def Ending.bind {σ : Type} (ending : Ending σ) (continuation : Machine σ → Ending σ) : Ending σ :=
  match ending with
  | ⟨machine, none⟩ => continuation machine
  | ⟨machine, some fault⟩ => ⟨machine, some fault⟩

namespace Machine

variable {σ : Type} [Console σ]

theorem writeTimes_succ (count : Nat) (machine : Machine σ) :
    machine.writeTimes (count + 1) = (machine.writeTimes 1).bind (writeTimes count) := by
  obtain ⟨tape, console, steps⟩ := machine
  simp only [writeTimes]
  cases Console.write tape.load console with
  | mk answer console => cases answer <;> rfl

theorem readTimes_succ (position count : Nat) (machine : Machine σ) :
    machine.readTimes position (count + 1) =
      (machine.readTimes position 1).bind (readTimes position count) := by
  obtain ⟨tape, console, steps⟩ := machine
  simp only [readTimes]
  cases Console.read console with
  | mk answer console => cases answer <;> rfl

/-- After some lines have been read, the others are read from there. -/
theorem readTimes_of_reached {machine reached : Machine σ} {position done : Nat}
    (reads : machine.readTimes position done = ⟨reached, none⟩) (more : Nat) :
    machine.readTimes position (done + more) = reached.readTimes position more := by
  induction done generalizing machine with
  | zero =>
    cases reads
    rw [Nat.zero_add]
  | succ done ih =>
    rw [readTimes_succ] at reads
    rw [Nat.succ_add, readTimes_succ]
    generalize machine.readTimes position 1 = once at reads ⊢
    obtain ⟨next, fault⟩ := once
    cases fault with
    | none => exact ih reads
    | some error => cases reads

/-- After some bytes have been written, the others are written from there. -/
theorem writeTimes_of_reached {machine reached : Machine σ} {done : Nat}
    (writes : machine.writeTimes done = ⟨reached, none⟩) (more : Nat) :
    machine.writeTimes (done + more) = reached.writeTimes more := by
  induction done generalizing machine with
  | zero =>
    cases writes
    rw [Nat.zero_add]
  | succ done ih =>
    rw [writeTimes_succ] at writes
    rw [Nat.succ_add, writeTimes_succ]
    generalize machine.writeTimes 1 = once at writes ⊢
    obtain ⟨next, fault⟩ := once
    cases fault with
    | none => exact ih writes
    | some error => cases writes

/-- Doing an action no times does nothing. -/
theorem perform_zero (position : Nat) (action : Action) (machine : Machine σ) :
    machine.perform position action 0 = ⟨machine, none⟩ := by
  cases action with
  | moveRight | moveLeft | increment | decrement => simp [perform]
  | output | input => rfl

/-- Doing an action once more is doing it once and then as often as before, unless it moves the head
past the left end. -/
theorem perform_succ (position : Nat) (action : Action) (count : Nat) (machine : Machine σ)
    (reachable : action = .moveLeft → count + 1 ≤ machine.tape.head) :
    machine.perform position action (count + 1) =
      (machine.perform position action 1).bind (perform position action count) := by
  cases action with
  | moveRight =>
    have whole := machine.tape.moveRight_moveRight 1 count
    rw [Nat.add_comm] at whole
    simp only [perform, Ending.bind, whole]
  | moveLeft =>
    have reach : 1 + count ≤ machine.tape.head := by
      have bound := reachable rfl
      omega
    obtain ⟨middle, moved, once, twice, whole⟩ := machine.tape.exists_moveLeft reach
    rw [Nat.add_comm] at whole
    simp only [perform, once, whole, Ending.bind, twice]
  | increment =>
    have whole := machine.tape.add_add 1 count
    rw [Nat.add_comm] at whole
    simp only [perform, Ending.bind, whole]
  | decrement =>
    have whole := machine.tape.sub_sub 1 count
    rw [Nat.add_comm] at whole
    simp only [perform, Ending.bind, whole]
  | output => exact machine.writeTimes_succ count
  | input => exact machine.readTimes_succ position count

theorem perform_moveLeft_of_lt (position : Nat) {count : Nat} {machine : Machine σ}
    (past : machine.tape.head < count) :
    machine.perform position .moveLeft count =
      ⟨machine, some (.underflow ⟨machine.tape.head, count⟩)⟩ := by
  have refused := (machine.tape.moveLeft_eq_error_iff count).mpr ⟨past, rfl⟩
  simp only [perform, refused]

theorem perform_moveLeft_of_le (position : Nat) {count : Nat} {machine : Machine σ}
    (reachable : count ≤ machine.tape.head) : ∃ moved,
      machine.perform position .moveLeft count = ⟨⟨moved, machine.console, machine.steps⟩, none⟩ ∧
        moved.cells = machine.tape.cells ∧ moved.head = machine.tape.head - count := by
  obtain ⟨moved, moves, cells, head⟩ := Tape.moveLeft_of_le reachable
  refine ⟨moved, ?_, cells, head⟩
  simp only [perform, moves]

end Machine

namespace Program

variable {σ : Type} [Console σ] {program : Program} {machine : Machine σ} {address distance : Nat}

theorem step_of_moveLeft_of_lt (found : program.fetch? address = some (.perform .moveLeft distance))
    (past : machine.tape.head < distance) : program.step ⟨address, machine⟩ =
      .stopped ⟨machine.tick, some (.underflow ⟨machine.tape.head, distance⟩)⟩ := by
  rw [step_of_fetch? found, Machine.dispatch_perform,
    Machine.perform_moveLeft_of_lt address (show machine.tick.tape.head < distance from past)]
  rfl

end Program

end TapeMachine
