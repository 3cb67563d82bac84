import TapeMachine.Operation

/-! # Programs

A program is a sequence of operations; an address is an index into it. Any sequence is a program:
jump targets may point anywhere, and an address with no operation is where a run halts.
-/

namespace TapeMachine

/-- A compiled program. -/
structure Program where
  operations : Array Operation
  deriving DecidableEq

namespace Program

/-- The program without operations, which halts at once. -/
def empty : Program := ⟨#[]⟩

/-- How many operations the program has, which is the first address past its end. -/
def size (program : Program) : Nat :=
  program.operations.size

/-- Whether the program has no operations. -/
def isEmpty (program : Program) : Bool :=
  program.operations.isEmpty

/-- The operation at `address`, if the program has one there. -/
def fetch? (program : Program) (address : Nat) : Option Operation :=
  program.operations[address]?

/-- Appends an operation. -/
def push (program : Program) (operation : Operation) : Program :=
  ⟨program.operations.push operation⟩

/-- Directs the loop opened at `address` to `target`; an address that opens no loop stays as it
is. -/
def patch (program : Program) (address target : Nat) : Program :=
  ⟨program.operations.modify address fun
    | .jumpIfZero _ => .jumpIfZero target
    | operation => operation⟩

/-- The addresses that some operation may jump to, in the order of the operations. -/
def jumpTargets (program : Program) : List Nat :=
  program.operations.toList.filterMap Operation.jumpTarget?

@[simp] theorem size_push (program : Program) (operation : Operation) :
    (program.push operation).size = program.size + 1 := by
  simp [push, size]

@[simp] theorem size_patch (program : Program) (address target : Nat) :
    (program.patch address target).size = program.size := by
  simp [patch, size]

@[simp] theorem size_empty : empty.size = 0 := rfl

theorem fetch?_eq_none_iff {program : Program} {address : Nat} :
    program.fetch? address = none ↔ program.size ≤ address := by
  simp [fetch?, size]

theorem fetch?_push (program : Program) (operation : Operation) (address : Nat) :
    (program.push operation).fetch? address =
      if address = program.size then some operation else program.fetch? address := by
  exact Array.getElem?_push

theorem fetch?_patch (program : Program) (address target : Nat) {other : Nat} :
    (program.patch address target).fetch? other =
      if other = address then
        (program.fetch? other).map fun
          | .jumpIfZero _ => .jumpIfZero target
          | operation => operation
      else program.fetch? other := by
  simp [patch, fetch?, Array.getElem?_modify, eq_comm]

theorem mem_jumpTargets {program : Program} {target : Nat} :
    target ∈ program.jumpTargets ↔
      ∃ address operation, program.fetch? address = some operation ∧
        operation.jumpTarget? = some target := by
  simp only [jumpTargets, List.mem_filterMap]
  constructor
  · rintro ⟨operation, listed, leads⟩
    obtain ⟨address, fetched⟩ := List.mem_iff_getElem?.mp listed
    exact ⟨address, operation, by simpa [fetch?] using fetched, leads⟩
  · rintro ⟨address, operation, fetched, leads⟩
    refine ⟨operation, List.mem_iff_getElem?.mpr ⟨address, ?_⟩, leads⟩
    simpa [fetch?] using fetched

end Program

end TapeMachine
