import Mathlib.Data.List.GetD
import TapeMachine.Console.Script
import TapeMachine.Proofs.Alike
import TapeMachine.Proofs.Faults

/-! # Where on the tape a program works makes no difference

A tape is displaced when cells are put in front of it and its head moves along, and when zeros are
added or taken away at its end. A program does the same on both tapes and never touches what was put
in front, until it moves past the left end of the first. That move is the only one that can tell the
two apart: on the displaced tape it may find room among the cells in front.
-/

namespace TapeMachine

/-- Equal but for zeros at the end. -/
def SameButZeros (first second : List UInt8) : Prop :=
  ∃ more more', first ++ List.replicate more 0 = second ++ List.replicate more' 0

theorem getD_append_replicate_zero (cells : List UInt8) (more address : Nat) :
    (cells ++ List.replicate more 0).getD address 0 = cells.getD address 0 := by
  simp only [List.getD_eq_getElem?_getD, List.getElem?_append]
  split
  · rfl
  · rename_i past
    rw [List.getElem?_eq_none (Nat.le_of_not_lt past), List.getElem?_replicate]
    split <;> rfl

/-- Zeros at the end make no difference to what is read at any address. -/
theorem sameButZeros_iff {first second : List UInt8} :
    SameButZeros first second ↔ ∀ address, second.getD address 0 = first.getD address 0 := by
  constructor
  · rintro ⟨more, more', same⟩ address
    rw [← getD_append_replicate_zero first more, same, getD_append_replicate_zero]
  · intro same
    refine ⟨second.length, first.length, List.ext_getElem (by simp; omega) ?_⟩
    intro address bound bound'
    have here := same address
    rw [← getD_append_replicate_zero first second.length,
      ← getD_append_replicate_zero second first.length] at here
    rw [List.getD_eq_getElem _ _ bound, List.getD_eq_getElem _ _ bound'] at here
    exact here.symm

/-- A list begins with what stands at its first addresses. -/
theorem eq_append_drop_of_getD {front cells : List UInt8} (within : front.length ≤ cells.length)
    (same : ∀ address < front.length, cells.getD address 0 = front.getD address 0) :
    cells = front ++ cells.drop front.length := by
  have start : cells.take front.length = front := by
    apply List.ext_getElem (List.length_take_of_le within)
    intro address bound inside
    have here := same address inside
    rw [List.getD_eq_getElem _ _ (Nat.lt_of_lt_of_le inside within),
      List.getD_eq_getElem _ _ inside] at here
    rw [List.getElem_take, here]
  calc
    cells = cells.take front.length ++ cells.drop front.length := (List.take_append_drop ..).symm
    _ = front ++ cells.drop front.length := by rw [start]

namespace Tape

/-- The cells `front` stand before those of the first tape, up to zeros at the end, and the head has
moved along. -/
structure Displaced (front : List UInt8) (tape tape' : Tape) : Prop where
  head_eq : tape'.head = front.length + tape.head
  cells_eq : ∃ rest, tape'.cells.toList = front ++ rest ∧ SameButZeros tape.cells.toList rest

variable {front : List UInt8} {tape tape' : Tape}

theorem cell_eq_getD (tape : Tape) (address : Nat) :
    tape.cell address = tape.cells.toList.getD address 0 := by
  simp [cell, Array.getD_eq_getD_getElem?]

/-- A displaced tape has the cells in front and then those of the first tape. -/
theorem displaced_iff : Displaced front tape tape' ↔
    tape'.head = front.length + tape.head ∧ ∀ address, tape'.cell address =
      if address < front.length then front.getD address 0
      else tape.cell (address - front.length) := by
  simp only [cell_eq_getD]
  constructor
  · rintro ⟨head, rest, cells, same⟩
    refine ⟨head, fun address => ?_⟩
    rw [cells]
    split
    · rename_i inside
      exact List.getD_append _ _ _ _ inside
    · rename_i past
      rw [List.getD_append_right _ _ _ _ (Nat.le_of_not_lt past), sameButZeros_iff.mp same]
  · rintro ⟨head, cells⟩
    have inside : tape'.head < tape'.cells.toList.length := tape'.head_lt_size
    have within : front.length ≤ tape'.cells.toList.length := by omega
    refine ⟨head, tape'.cells.toList.drop front.length, ?_, sameButZeros_iff.mpr ?_⟩
    · apply eq_append_drop_of_getD within
      intro address early
      rw [cells, if_pos early]
    · intro address
      have here := cells (front.length + address)
      rw [if_neg (Nat.not_lt.mpr (Nat.le_add_right ..)), Nat.add_sub_cancel_left] at here
      rw [← here]
      simp [List.getD_eq_getElem?_getD]

theorem Displaced.cell_eq (displaced : Displaced front tape tape') (address : Nat) :
    tape'.cell (front.length + address) = tape.cell address := by
  rw [(displaced_iff.mp displaced).2, if_neg (Nat.not_lt.mpr (Nat.le_add_right ..)),
    Nat.add_sub_cancel_left]

/-- A displaced tape shows the same cell and stays displaced. -/
theorem indistinct_displaced (front : List UInt8) : Tape.Indistinct (Displaced front) where
  load := by
    intro tape tape' displaced
    rw [load_eq_cell, load_eq_cell, displaced.head_eq, displaced.cell_eq]
  store := by
    intro tape tape' displaced value
    obtain ⟨head, cells⟩ := displaced_iff.mp displaced
    refine displaced_iff.mpr ⟨head, fun address => ?_⟩
    rw [cell_store, cell_store, cells, head]
    by_cases early : address < front.length
    · rw [if_pos early, if_pos early, if_neg (by omega)]
    · rw [if_neg early, if_neg early]
      exact if_congr (by omega) rfl rfl
  moveRight := by
    intro tape tape' displaced distance
    obtain ⟨head, cells⟩ := displaced_iff.mp displaced
    refine displaced_iff.mpr ⟨?_, fun address => ?_⟩
    · rw [head_moveRight, head_moveRight, head, Nat.add_assoc]
    · rw [cell_moveRight, cell_moveRight]
      exact cells address

/-- A move within the first tape is one on the displaced tape too. -/
theorem Displaced.moveAlike (displaced : Displaced front tape tape') {distance : Nat}
    (reachable : distance ≤ tape.head) : MoveAlike (Displaced front) distance tape tape' := by
  have head := displaced.head_eq
  obtain ⟨moved, done, cells, stands⟩ := moveLeft_of_le reachable
  obtain ⟨moved', done', cells', stands'⟩ := moveLeft_of_le (by omega : distance ≤ tape'.head)
  refine .inr ⟨moved, moved', done, done', ?_, ?_⟩
  · omega
  · rw [cells, cells']
    exact displaced.cells_eq

end Tape

section

variable {σ : Type} [Console σ]

/-- The tape of one machine is displaced against that of the other, and the consoles are equal. -/
abbrev Machine.Displaced (front : List UInt8) : Machine σ → Machine σ → Prop :=
  Machine.Alike (Tape.Displaced front) Eq

abbrev Configuration.Displaced (front : List UInt8) : Configuration σ → Configuration σ → Prop :=
  Configuration.Alike (Tape.Displaced front) Eq id

abbrev Ending.Displaced (front : List UInt8) : Ending σ → Ending σ → Prop :=
  Ending.Alike (Tape.Displaced front) Eq id

namespace Program

variable {program : Program} {front : List UInt8} {machine machine' before : Machine σ}
  {address distance moment : Nat}

/-- Both configurations are about to make a move to the left that the first tape refuses. -/
def Refuses (program : Program) (front : List UInt8) (one other : Configuration σ) : Prop :=
  Configuration.Displaced front one other ∧ ∃ distance,
    program.fetch? one.address = some (.perform .moveLeft distance) ∧
      one.machine.tape.head < distance

/-- One step on displaced tapes, unless the first refuses a move. -/
theorem step_displaced (program : Program) (one other : Configuration σ)
    (displaced : one.Displaced front other) :
    (program.step one).Agrees (Configuration.Displaced front) (Ending.Displaced front)
      (program.step other) ∨ program.Refuses front one other := by
  by_cases refuses : program.Refuses front one other
  · exact .inr refuses
  · obtain ⟨_, machine⟩ := one
    obtain ⟨address, machine'⟩ := other
    obtain ⟨rfl, alike⟩ := displaced
    refine .inl (program.step_alike (Tape.indistinct_displaced front) Console.indistinct_eq address
      alike ?_)
    intro distance found
    apply alike.tape.moveAlike
    apply Nat.le_of_not_lt
    intro past
    exact refuses ⟨⟨rfl, alike⟩, distance, found, past⟩

/-- On displaced tapes runs go in lockstep, unless the first has ended by an underflow. -/
theorem runFor_displaced (program : Program) (displaced : machine.Displaced front machine')
    (count : Nat) :
    (program.runFor count machine).Agrees (Configuration.Displaced front) (Ending.Displaced front)
      (program.runFor count machine') ∨
    ∃ stopped refused,
      program.runFor count machine = .stopped ⟨stopped, some (.underflow refused)⟩ := by
  have start : Configuration.Displaced front ⟨0, machine⟩ ⟨0, machine'⟩ := ⟨rfl, displaced⟩
  refine (exists_parting program.step_displaced start count).imp_right ?_
  rintro ⟨moment, early, ⟨address, reached⟩, other, runs, -, ⟨-, distance, found, past⟩, -⟩
  refine ⟨reached.tick, ⟨reached.tape.head, distance⟩, runFor_stopped_of_le ?_ early⟩
  rw [runFor, runSteps_of_running runs 1, runSteps_one]
  exact step_of_moveLeft_of_lt found past

/-- A run that has not ended is at the same operation on the displaced tape. -/
theorem exists_running_of_displaced (displaced : machine.Displaced front machine')
    (runs : program.runFor moment machine = .running ⟨address, before⟩) :
    ∃ before', program.runFor moment machine' = .running ⟨address, before'⟩ ∧
      before.Displaced front before' := by
  obtain agrees | ⟨stopped, refused, fails⟩ := program.runFor_displaced displaced moment
  · rw [runs] at agrees
    obtain ⟨⟨_, before'⟩, runs', rfl, alike⟩ := agrees.exists_running
    exact ⟨before', runs', alike⟩
  · rw [runs] at fails
    cases fails

/-- A move that the first tape refuses may find room in front. -/
theorem step_displaced_of_moveLeft (displaced : before.Displaced front machine')
    (found : program.fetch? address = some (.perform .moveLeft distance))
    (room : distance ≤ front.length + before.tape.head) :
    ∃ after, program.step ⟨address, machine'⟩ = .running ⟨address + 1, after⟩ ∧
      after.tape.head = front.length + before.tape.head - distance ∧
        after.tape.cells = machine'.tape.cells ∧ after.console = before.console := by
  rw [← displaced.tape.head_eq] at room
  obtain ⟨moved, performed, cells, head⟩ :=
    Machine.perform_moveLeft_of_le address (show distance ≤ machine'.tick.tape.head from room)
  refine ⟨⟨moved, machine'.console, machine'.steps + 1⟩, ?_, ?_, cells, displaced.console.symm⟩
  · rw [step_of_fetch? found, Machine.dispatch_perform, performed]
    rfl
  · rw [← displaced.tape.head_eq]
    exact head

/-- What a program does on one machine it does on another whose tape is displaced. -/
structure Local (program : Program) (front : List UInt8) (machine machine' : Machine σ) :
    Prop where
  running : ∀ count address reached,
    program.runFor count machine = .running ⟨address, reached⟩ →
      ∃ reached', program.runFor count machine' = .running ⟨address, reached'⟩ ∧
        reached.Displaced front reached'
  stopped : ∀ count stopped fault, program.runFor count machine = .stopped ⟨stopped, fault⟩ →
    (∀ refused, fault ≠ some (.underflow refused)) →
      ∃ stopped', program.runFor count machine' = .stopped ⟨stopped', fault⟩ ∧
        stopped.Displaced front stopped'
  /-- A run that underflows does so at a move to the left. On the displaced tape the same operation
  is reached, and it underflows from further to the right or is done. -/
  underflow : ∀ count stopped refused,
    program.runFor count machine = .stopped ⟨stopped, some (.underflow refused)⟩ →
      ∃ moment < count, ∃ address before before',
        program.fetch? address = some (.perform .moveLeft refused.distance) ∧
        program.runFor moment machine = .running ⟨address, before⟩ ∧
        program.runFor moment machine' = .running ⟨address, before'⟩ ∧
        before.Displaced front before' ∧ refused.head = before.tape.head ∧
        (front.length + refused.head < refused.distance →
          program.runFor (moment + 1) machine' = .stopped
            ⟨before'.tick, some (.underflow ⟨front.length + refused.head, refused.distance⟩)⟩) ∧
        (refused.distance ≤ front.length + refused.head →
          ∃ after, program.runFor (moment + 1) machine' = .running ⟨address + 1, after⟩ ∧
            after.tape.head = front.length + refused.head - refused.distance ∧
            after.tape.cells = before'.tape.cells ∧ after.console = before.console)

/-- Neither the cells in front of those that a program works on nor the zeros behind them make a
difference to it, up to an underflow. -/
theorem runs_local (program : Program) (displaced : machine.Displaced front machine') :
    program.Local front machine machine' where
  running _ _ _ runs := exists_running_of_displaced displaced runs
  stopped := by
    intro count stopped fault stops sound
    obtain agrees | ⟨_, refused, fails⟩ := program.runFor_displaced displaced count
    · rw [stops] at agrees
      obtain ⟨⟨stopped', _⟩, stops', rfl, alike⟩ := agrees.exists_stopped
      rw [ExecutionError.map_retarget_id] at stops'
      exact ⟨stopped', stops', alike⟩
    · rw [stops] at fails
      cases fails
      exact absurd rfl (sound refused)
  underflow := by
    intro count stopped refused fails
    obtain ⟨moment, early, ⟨address, before⟩, runs, last⟩ := exists_running_of_stopped fails
    obtain ⟨found, -, head, -⟩ := exists_moveLeft_of_step last
    obtain ⟨before', runs', alike⟩ := exists_running_of_displaced displaced runs
    have next : program.runFor (moment + 1) machine' = program.step ⟨address, before'⟩ := by
      rw [runFor, runSteps_of_running runs', runSteps_one]
    refine ⟨moment, early, address, before, before', found, runs, runs', alike, head, ?_, ?_⟩
    · intro past
      rw [head, ← alike.tape.head_eq] at past
      rw [next, step_of_moveLeft_of_lt found past, head, alike.tape.head_eq]
    · intro room
      rw [head] at room
      rw [next, head]
      exact step_displaced_of_moveLeft alike found room

end Program

end

/-- Two cells to the right and three to the left: too far on a blank tape, not on one with a cell in
front. -/
def overstep : Program :=
  ⟨#[.perform .moveRight 2, .perform .output 1, .perform .moveLeft 3, .perform .output 1]⟩

theorem runs_local_overstep :
    let machine := Machine.fresh (Script.ofLines [])
    let machine' : Machine Script := ⟨⟨#[7, 0, 0], 1, by decide⟩, .ofLines [], 0⟩
    machine.Displaced [7] machine' ∧ overstep.Local [7] machine machine' :=
  have displaced : Machine.Displaced [7] (Machine.fresh (Script.ofLines []))
      ⟨⟨#[7, 0, 0], 1, by decide⟩, .ofLines [], 0⟩ := ⟨⟨rfl, [0, 0], rfl, 1, 0, rfl⟩, rfl⟩
  ⟨displaced, overstep.runs_local displaced⟩

end TapeMachine
