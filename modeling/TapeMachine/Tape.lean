/-! # The tape

A tape is a row of byte cells with a head on one of them. It has a left end and grows to the right
when the head moves past the cells it has; new cells are zero. Arithmetic on a cell is modulo 256.

That the head stands on a cell is part of the type, so no operation can leave it elsewhere.

Head positions and distances are natural numbers without a bound. Where a machine word is to hold
them, head positions are taken to stay below `2 ^ 64`, so that moving to the right never wraps
around.
-/

namespace TapeMachine

/-- Byte cells under a head. -/
structure Tape where
  cells : Array UInt8
  head : Nat
  head_lt_size : head < cells.size

/-- A move over the left end of the tape, which is refused. -/
structure Underflow where
  /-- Where the head stands. -/
  head : Nat
  /-- How far it was to move. -/
  distance : Nat
  deriving DecidableEq

namespace Underflow

/-- The text that reports the refused move. -/
def message (underflow : Underflow) : String :=
  "Memory underflow: cannot move " ++ underflow.distance.repr ++ " cells left of cell " ++
    underflow.head.repr

end Underflow

namespace Tape

/-- The tape before any run: one zero cell. -/
def blank : Tape := ⟨#[0], 0, Nat.one_pos⟩

theorem ext {first second : Tape} (cells : first.cells = second.cells)
    (head : first.head = second.head) : first = second := by
  cases first
  cases second
  cases cells
  cases head
  rfl

/-- How many cells the tape has by now. -/
def size (tape : Tape) : Nat :=
  tape.cells.size

/-- The cell at `address`; the tape counts as zero past its end. -/
def cell (tape : Tape) (address : Nat) : UInt8 :=
  tape.cells.getD address 0

/-- The cell under the head. -/
def load : Tape → UInt8
  | ⟨cells, head, _⟩ => cells[head]

/-- Writes `value` into the cell under the head. -/
def store (value : UInt8) : Tape → Tape
  | ⟨cells, head, bound⟩ => ⟨cells.set head value bound, head, by simpa using bound⟩

/-- Adds `count` to the cell under the head, modulo 256. -/
def add (count : Nat) : Tape → Tape
  | ⟨cells, head, bound⟩ =>
    ⟨cells.set head (cells[head] + UInt8.ofNat count) bound, head, by simpa using bound⟩

/-- Subtracts `count` from the cell under the head, modulo 256. -/
def sub (count : Nat) : Tape → Tape
  | ⟨cells, head, bound⟩ =>
    ⟨cells.set head (cells[head] - UInt8.ofNat count) bound, head, by simpa using bound⟩

/-- Moves the head `distance` cells to the right and appends zero cells up to it where needed. -/
def moveRight (distance : Nat) : Tape → Tape
  | ⟨cells, head, _⟩ =>
    if inside : head + distance < cells.size then ⟨cells, head + distance, inside⟩
    else
      ⟨cells ++ Array.replicate (head + distance + 1 - cells.size) 0, head + distance, by
        simp only [Array.size_append, Array.size_replicate]
        omega⟩

/-- Moves the head `distance` cells to the left, unless the tape ends before that. -/
def moveLeft (distance : Nat) (tape : Tape) : Except Underflow Tape :=
  match tape with
  | ⟨cells, head, bound⟩ =>
    if head < distance then .error ⟨head, distance⟩
    else .ok ⟨cells, head - distance, Nat.lt_of_le_of_lt (Nat.sub_le ..) bound⟩

theorem load_eq_cell (tape : Tape) : tape.load = tape.cell tape.head := by
  obtain ⟨cells, head, bound⟩ := tape
  simp [load, cell, bound]

theorem cell_of_size_le {tape : Tape} {address : Nat} (past : tape.size ≤ address) :
    tape.cell address = 0 := by
  have past : tape.cells.size ≤ address := past
  simp [cell, Array.getD, Nat.not_lt.mpr past]

@[simp] theorem cell_blank (address : Nat) : blank.cell address = 0 := by
  cases address <;> simp [cell, blank, Array.getD]

section

variable (tape : Tape) (count : Nat) (value : UInt8)

@[simp] theorem head_store : (tape.store value).head = tape.head := rfl

@[simp] theorem head_add : (tape.add count).head = tape.head := rfl

@[simp] theorem head_sub : (tape.sub count).head = tape.head := rfl

@[simp] theorem size_store : (tape.store value).size = tape.size := by
  simp [store, size]

@[simp] theorem size_add : (tape.add count).size = tape.size := by
  simp [add, size]

@[simp] theorem size_sub : (tape.sub count).size = tape.size := by
  simp [sub, size]

theorem cell_store (address : Nat) :
    (tape.store value).cell address = if address = tape.head then value else tape.cell address := by
  obtain ⟨cells, head, bound⟩ := tape
  simp only [store, cell, Array.getD_eq_getD_getElem?, Array.getElem?_set]
  by_cases here : address = head
  · simp [here]
  · simp [here, Ne.symm here]

/-- Addition is storing a sum. -/
theorem add_eq_store : tape.add count = tape.store (tape.load + UInt8.ofNat count) := rfl

/-- Subtraction is storing a difference. -/
theorem sub_eq_store : tape.sub count = tape.store (tape.load - UInt8.ofNat count) := rfl

@[simp] theorem head_moveRight : (tape.moveRight count).head = tape.head + count := by
  unfold moveRight
  dsimp only
  split <;> rfl

theorem size_moveRight : (tape.moveRight count).size = max tape.size (tape.head + count + 1) := by
  unfold moveRight size
  dsimp only
  split
  · change tape.cells.size = _
    omega
  · simp only [Array.size_append, Array.size_replicate]
    omega

/-- Growing changes no cell, since what is past the end counts as zero already. -/
@[simp] theorem cell_moveRight (address : Nat) :
    (tape.moveRight count).cell address = tape.cell address := by
  unfold moveRight cell
  dsimp only
  split
  · rfl
  · simp only [Array.getD_eq_getD_getElem?, Array.getElem?_append]
    split
    · rfl
    · rename_i past
      simp [Array.getElem?_replicate, Array.getElem?_eq_none (Nat.le_of_not_lt past)]
      split <;> rfl

/-- A move to the left fails exactly if the head stands too close to the end. -/
theorem moveLeft_eq_error_iff {refused : Underflow} :
    tape.moveLeft count = .error refused ↔ tape.head < count ∧ refused = ⟨tape.head, count⟩ := by
  unfold moveLeft
  dsimp only
  split <;> rename_i close <;> simp [close, eq_comm]

end

theorem moveLeft_of_le {tape : Tape} {count : Nat} (reachable : count ≤ tape.head) :
    ∃ moved, tape.moveLeft count = .ok moved ∧ moved.cells = tape.cells ∧
      moved.head = tape.head - count := by
  refine ⟨⟨tape.cells, tape.head - count, ?_⟩, ?_, rfl, rfl⟩
  · exact Nat.lt_of_le_of_lt (Nat.sub_le ..) tape.head_lt_size
  · simp [moveLeft, Nat.not_lt.mpr reachable]

end Tape

end TapeMachine
