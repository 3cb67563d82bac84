import TapeMachine.Program

/-! # The shape of compiled programs

Any sequence of operations is a program, but compiled ones have a particular shape: their brackets
nest, each jump leads to the address behind its partner, and runs are folded as far as they go. Two
brackets are partners when what stands between them nests by itself.

`Program.symbols` undoes folding: it spells out the symbols that a program stands for.
-/

namespace TapeMachine

/-- Symbols whose brackets nest. -/
inductive Nested : List Symbol → Prop where
  | nil : Nested []
  | act (action : Action) {rest : List Symbol} (nested : Nested rest) :
    Nested (.act action :: rest)
  | loop {body rest : List Symbol} (inner : Nested body) (nested : Nested rest) :
    Nested (.loopStart :: (body ++ .loopEnd :: rest))

namespace Nested

theorem append {first second : List Symbol} (left : Nested first) (right : Nested second) :
    Nested (first ++ second) := by
  induction left with
  | nil => exact right
  | act action _ ih => exact .act action ih
  | loop inner _ _ ih =>
    rw [List.cons_append, List.append_assoc, List.cons_append]
    exact .loop inner ih

end Nested

/-- The symbols that an operation stands for: as many as its count for an action, the bracket for a
jump. -/
def Operation.symbols : Operation → List Symbol
  | .perform action count => List.replicate count (.act action)
  | .jumpIfZero _ => [.loopStart]
  | .jumpIfNonzero _ => [.loopEnd]

namespace Program

/-- The symbols that a program stands for. -/
def symbols (program : Program) : List Symbol :=
  program.operations.toList.flatMap Operation.symbols

/-- The kinds of the operations from `first` up to but not at `last`. -/
def kinds (program : Program) (first last : Nat) : List Symbol :=
  ((program.operations.toList.take last).drop first).map Operation.symbol

/-- A loop opens at `start` and closes at `stop`, with nesting operations between them. -/
structure Partners (program : Program) (start stop : Nat) : Prop where
  opens : (program.fetch? start).map Operation.symbol = some .loopStart
  closes : (program.fetch? stop).map Operation.symbol = some .loopEnd
  start_lt_stop : start < stop
  nested : Nested (program.kinds (start + 1) stop)

/-- The shape of compiled programs. -/
structure WellFormed (program : Program) : Prop where
  nested : Nested (program.kinds 0 program.size)
  /-- Both jumps of a loop lead behind the partner. -/
  jumps : ∀ start stop, program.Partners start stop →
    program.fetch? start = some (.jumpIfZero (stop + 1)) ∧
      program.fetch? stop = some (.jumpIfNonzero (start + 1))
  /-- No action is done zero times. -/
  counted : ∀ address action count,
    program.fetch? address = some (.perform action count) → 0 < count
  /-- Neighbouring operations do not do the same action. -/
  folded : ∀ address action first second,
    program.fetch? address = some (.perform action first) →
      program.fetch? (address + 1) ≠ some (.perform action second)

@[simp] theorem symbols_empty : empty.symbols = [] := rfl

@[simp] theorem symbols_push (program : Program) (operation : Operation) :
    (program.push operation).symbols = program.symbols ++ operation.symbols := by
  simp [symbols, push]

end Program

end TapeMachine
