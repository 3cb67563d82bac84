import TapeMachine.Proofs.Growth
import TapeMachine.Proofs.Outcome

/-! # No access is out of bounds

The type of tapes keeps the head on a cell. To say that nothing ever depends on this, the machine is
set beside one that takes nothing for granted: its head may stand anywhere, it looks before every
access whether there is a cell or an operation, and it gives up where there is none. The two go in
lockstep, so the cautious machine never gives up, whatever programs it serves one after the other
and however they end.
-/

namespace TapeMachine

/-- Byte cells and a head that nothing keeps on them. -/
structure LooseTape where
  cells : Array UInt8
  head : Nat

/-- The tape without what is known of its head. -/
def Tape.loosen (tape : Tape) : LooseTape := ⟨tape.cells, tape.head⟩

namespace LooseTape

/-- The tape before any edit. -/
def blank : LooseTape := ⟨#[0], 0⟩

/-- The cell under the head, if there is one. -/
def load? (tape : LooseTape) : Option UInt8 :=
  tape.cells[tape.head]?

/-- Changes the cell under the head, if there is one. -/
def change? (tape : LooseTape) (change : UInt8 → UInt8) : Option LooseTape :=
  tape.load?.map fun value => ⟨tape.cells.setIfInBounds tape.head (change value), tape.head⟩

/-- What one edit makes of the tape, if all that it accesses is there. -/
def edit? (tape : LooseTape) : Tape.Edit → Option (Except Underflow LooseTape)
  | .add count => (tape.change? (· + UInt8.ofNat count)).map .ok
  | .sub count => (tape.change? (· - UInt8.ofNat count)).map .ok
  | .store value => (tape.change? fun _ => value).map .ok
  | .moveRight distance =>
    let head := tape.head + distance
    some (.ok ⟨if head < tape.cells.size then tape.cells
      else tape.cells ++ Array.replicate (head + 1 - tape.cells.size) 0, head⟩)
  | .moveLeft distance =>
    some (if tape.head < distance then .error ⟨tape.head, distance⟩
      else .ok ⟨tape.cells, tape.head - distance⟩)

/-- What edits in a row make of the tape; those that fail are passed over. -/
def editAll? (tape : LooseTape) (edits : List Tape.Edit) : Option LooseTape :=
  edits.foldlM (fun tape edit => (tape.edit? edit).map (·.toOption.getD tape)) tape

end LooseTape

namespace Tape

variable (tape : Tape)

@[simp] theorem load?_loosen : tape.loosen.load? = some tape.load := by
  obtain ⟨cells, head, bound⟩ := tape
  simp [loosen, LooseTape.load?, load, bound]

theorem change?_loosen (change : UInt8 → UInt8) :
    tape.loosen.change? change = some (tape.store (change tape.load)).loosen := by
  rw [LooseTape.change?, load?_loosen]
  obtain ⟨cells, head, bound⟩ := tape
  simp [loosen, store, Array.setIfInBounds, bound]

/-- What an edit accesses is always there. -/
@[simp] theorem edit?_loosen (edit : Edit) :
    tape.loosen.edit? edit = some ((tape.edit edit).map loosen) := by
  cases edit with
  | add count | sub count | store value =>
    rw [LooseTape.edit?, change?_loosen]
    rfl
  | moveRight distance =>
    obtain ⟨cells, head, bound⟩ := tape
    simp only [LooseTape.edit?, loosen, Tape.edit, moveRight, Except.map]
    by_cases inside : head + distance < cells.size <;> simp only [inside, if_true, if_false] <;> rfl
  | moveLeft distance =>
    obtain ⟨cells, head, bound⟩ := tape
    simp only [LooseTape.edit?, loosen, Tape.edit, moveLeft]
    by_cases close : head < distance <;> simp only [close, if_true, if_false] <;> rfl

theorem editAll?_loosen (edits : List Edit) :
    tape.loosen.editAll? edits = some (tape.editAll edits).loosen := by
  induction edits generalizing tape with
  | nil => rfl
  | cons edit rest ih =>
    have next : (tape.loosen.edit? edit).map (·.toOption.getD tape.loosen) =
        some ((tape.edit edit).toOption.getD tape).loosen := by
      rw [edit?_loosen]
      cases tape.edit edit <;> rfl
    rw [LooseTape.editAll?, List.foldlM_cons, next]
    exact ih _

end Tape

/-- A machine on a tape whose head may stand anywhere. -/
structure LooseMachine (σ : Type) where
  tape : LooseTape
  console : σ
  steps : Nat

namespace LooseMachine

variable {σ : Type}

/-- A machine after some work, and the fault that cut the work short if there was one. -/
abbrev Ending (σ : Type) := LooseMachine σ × Option ExecutionError

/-- A machine with a blank tape. -/
def fresh (console : σ) : LooseMachine σ := ⟨.blank, console, 0⟩

/-- Makes an edit, if all that it accesses is there. -/
def edit? (machine : LooseMachine σ) (edit : Tape.Edit) : Option (Ending σ) :=
  (machine.tape.edit? edit).map fun
    | .ok tape => ({ machine with tape }, none)
    | .error refused => (machine, some (.underflow refused))

variable [Console σ]

/-- Writes `value` so many times, up to the first write that fails. -/
def writeTimes (value : UInt8) : Nat → LooseMachine σ → Ending σ
  | 0, machine => (machine, none)
  | count + 1, ⟨tape, console, steps⟩ =>
    match Console.write value console with
    | (.written, console) => writeTimes value count ⟨tape, console, steps⟩
    | (.failed reason, console) => (⟨tape, console, steps⟩, some (.console reason))

/-- Reads so many lines and stores the first byte of each, if there is always a cell to store it
in. -/
def readTimes? (position : Nat) : Nat → LooseMachine σ → Option (Ending σ)
  | 0, machine => some (machine, none)
  | count + 1, ⟨tape, console, steps⟩ =>
    match Console.read console with
    | (.line line, console) =>
      (tape.change? fun _ => line.headD 0).bind fun tape =>
        readTimes? position count ⟨tape, console, steps⟩
    | (.endOfInput, console) =>
      some (⟨tape, console, steps⟩, some (.unexpectedEndOfInput position))
    | (.failed reason, console) => some (⟨tape, console, steps⟩, some (.console reason))

/-- Does `action` `count` times, if all that it accesses is there. -/
def perform? (position : Nat) (action : Action) (count : Nat) (machine : LooseMachine σ) :
    Option (Ending σ) :=
  match action with
  | .moveRight => machine.edit? (.moveRight count)
  | .moveLeft => machine.edit? (.moveLeft count)
  | .increment => machine.edit? (.add count)
  | .decrement => machine.edit? (.sub count)
  | .output => machine.tape.load?.map fun value => machine.writeTimes value count
  | .input => machine.readTimes? position count

/-- Executes the operation at `address`, if all that it accesses is there. -/
def dispatch? (operation : Operation) (address : Nat) (machine : LooseMachine σ) :
    Option (Progress (Nat × LooseMachine σ) (Ending σ)) :=
  let ticked := { machine with steps := machine.steps + 1 }
  match operation with
  | .perform action count =>
    (ticked.perform? address action count).map fun
      | (machine, none) => .running (address + 1, machine)
      | (machine, some fault) => .stopped (machine, some fault)
  | .jumpIfZero target =>
    machine.tape.load?.map fun value =>
      .running (if value = 0 then target else address + 1, ticked)
  | .jumpIfNonzero target =>
    machine.tape.load?.map fun value =>
      .running (if value = 0 then address + 1 else target, ticked)

/-- One step of a run. A run halts at an address behind the last operation; at any other it gives up
unless there is an operation. -/
def step? (program : Program) (address : Nat) (machine : LooseMachine σ) :
    Option (Progress (Nat × LooseMachine σ) (Ending σ)) :=
  if address < program.operations.size then
    program.operations[address]?.bind fun operation => machine.dispatch? operation address
  else some (.stopped (machine, none))

/-- Takes up to `count` steps, if all that they access is there. -/
def runSteps? (program : Program) :
    Nat → Nat → LooseMachine σ → Option (Progress (Nat × LooseMachine σ) (Ending σ))
  | 0, address, machine => some (.running (address, machine))
  | count + 1, address, machine =>
    (machine.step? program address).bind fun
      | .running (address, machine) => runSteps? program count address machine
      | .stopped ending => some (.stopped ending)

/-- Runs programs one after the other, each from its first operation for some number of steps, and
each on what the one before it has left, after a fault too. -/
def serve? : List (Program × Nat) → LooseMachine σ → Option (LooseMachine σ)
  | [], machine => some machine
  | (program, count) :: rest, machine =>
    (machine.runSteps? program count 0).bind fun
      | .running (_, machine) => serve? rest machine
      | .stopped (machine, _) => serve? rest machine

end LooseMachine

section

variable {σ : Type}

/-- The machine without what is known of its head. -/
def Machine.loosen (machine : Machine σ) : LooseMachine σ :=
  ⟨machine.tape.loosen, machine.console, machine.steps⟩

def Ending.loosen (ending : Ending σ) : LooseMachine.Ending σ :=
  (ending.machine.loosen, ending.fault)

def Progress.loosen :
    Progress (Configuration σ) (Ending σ) → Progress (Nat × LooseMachine σ) (LooseMachine.Ending σ)
  | .running ⟨address, machine⟩ => .running (address, machine.loosen)
  | .stopped ending => .stopped ending.loosen

variable [Console σ]

/-- Runs programs one after the other, each from its first operation for some number of steps, and
each on what the one before it has left, after a fault too. -/
def Machine.serve : List (Program × Nat) → Machine σ → Machine σ
  | [], machine => machine
  | (program, count) :: rest, machine => serve rest (program.runFor count machine).machine

namespace Machine

theorem writeTimes_loosen (count : Nat) (machine : Machine σ) :
    machine.loosen.writeTimes machine.tape.load count = (machine.writeTimes count).loosen := by
  induction count generalizing machine with
  | zero => rfl
  | succ count ih =>
    obtain ⟨tape, console, steps⟩ := machine
    simp only [loosen, LooseMachine.writeTimes, writeTimes]
    obtain ⟨answer, after⟩ := Console.write tape.load console
    cases answer with
    | written => exact ih ⟨tape, after, steps⟩
    | failed reason => rfl

theorem readTimes?_loosen (position count : Nat) (machine : Machine σ) :
    machine.loosen.readTimes? position count = some (machine.readTimes position count).loosen := by
  induction count generalizing machine with
  | zero => rfl
  | succ count ih =>
    obtain ⟨tape, console, steps⟩ := machine
    simp only [loosen, LooseMachine.readTimes?, readTimes]
    obtain ⟨answer, after⟩ := Console.read console
    cases answer with
    | line bytes =>
      simp only [Tape.change?_loosen, Option.bind_some]
      exact ih ⟨tape.store (bytes.headD 0), after, steps⟩
    | endOfInput => rfl
    | failed reason => rfl

theorem perform?_loosen (position : Nat) (action : Action) (count : Nat) (machine : Machine σ) :
    machine.loosen.perform? position action count =
      some (machine.perform position action count).loosen := by
  obtain ⟨tape, console, steps⟩ := machine
  cases action with
  | moveRight | increment | decrement =>
    simp only [loosen, LooseMachine.perform?, LooseMachine.edit?, Tape.edit?_loosen]
    rfl
  | moveLeft =>
    simp only [loosen, LooseMachine.perform?, LooseMachine.edit?, Tape.edit?_loosen, Tape.edit,
      perform]
    cases tape.moveLeft count <;> rfl
  | output =>
    simp only [loosen, LooseMachine.perform?, Tape.load?_loosen, Option.map_some]
    exact congrArg some (writeTimes_loosen count ⟨tape, console, steps⟩)
  | input => exact readTimes?_loosen position count ⟨tape, console, steps⟩

/-- Everything that an operation accesses is there. -/
theorem dispatch?_loosen (operation : Operation) (address : Nat) (machine : Machine σ) :
    machine.loosen.dispatch? operation address =
      some (machine.dispatch operation address).loosen := by
  cases operation with
  | perform action count =>
    have performed := perform?_loosen address action count machine.tick
    change (machine.tick.loosen.perform? address action count).map _ = _
    rw [performed, Option.map_some]
    simp only [dispatch]
    obtain ⟨after, fault⟩ := machine.tick.perform address action count
    cases fault <;> rfl
  | jumpIfZero target | jumpIfNonzero target =>
    simp only [LooseMachine.dispatch?, loosen, Tape.load?_loosen]
    rfl

theorem step?_loosen (program : Program) (address : Nat) (machine : Machine σ) :
    machine.loosen.step? program address = some (program.step ⟨address, machine⟩).loosen := by
  simp only [LooseMachine.step?, Program.step, Program.fetch?]
  by_cases inside : address < program.operations.size
  · simp only [inside, if_true, Array.getElem?_eq_getElem, Option.bind_some]
    exact dispatch?_loosen _ address machine
  · simp only [inside, if_false, Array.getElem?_eq_none (Nat.le_of_not_lt inside)]
    rfl

theorem runSteps?_loosen (program : Program) (count address : Nat) (machine : Machine σ) :
    machine.loosen.runSteps? program count address =
      some (runSteps program.step count ⟨address, machine⟩).loosen := by
  induction count generalizing address machine with
  | zero => rfl
  | succ count ih =>
    rw [LooseMachine.runSteps?, step?_loosen, Option.bind_some, runSteps_succ]
    cases program.step ⟨address, machine⟩ with
    | running next => exact ih next.address next.machine
    | stopped ending => rfl

theorem serve?_loosen (session : List (Program × Nat)) (machine : Machine σ) :
    machine.loosen.serve? session = some (machine.serve session).loosen := by
  induction session generalizing machine with
  | nil => rfl
  | cons run rest ih =>
    obtain ⟨program, count⟩ := run
    rw [LooseMachine.serve?, runSteps?_loosen, Option.bind_some, serve, Program.runFor]
    cases runSteps program.step count ⟨0, machine⟩ with
    | running next => exact ih next.machine
    | stopped ending => exact ih ending.machine

end Machine

end

/-- What holds of a tape after a history of edits, and of the tape without an end that it stands
for. -/
structure Tape.History (edits : List Tape.Edit) (tape : Tape) (model : UnboundedTape) : Prop where
  /-- No edit, refused ones included, has accessed a cell that was not there. -/
  in_bounds : LooseTape.blank.editAll? edits = some tape.loosen
  head_lt_size : tape.head < tape.size
  /-- The size is one more than any address that the head has ever been at. -/
  head_early_lt : ∀ early, early <+: edits → (Tape.blank.editAll early).head < tape.size
  /-- The size is no more than that. -/
  exists_size_eq : ∃ early, early <+: edits ∧ tape.size = 1 + (Tape.blank.editAll early).head
  head_eq : tape.head = model.head
  cells_eq : ∀ address, address < tape.size → tape.cells[address]? = some (model.cell address)
  cell_past_end : ∀ address, tape.size ≤ address → model.cell address = 0
  /-- Only a move over the left end is refused. -/
  refused_iff : ∀ edit refused, tape.edit edit = .error refused ↔
    ∃ distance, edit = .moveLeft distance ∧ tape.head < distance ∧
      refused = ⟨tape.head, distance⟩
  /-- The tape without an end refuses the same edits. -/
  refused_model_iff : ∀ edit refused, model.edit edit = .error refused ↔
    tape.edit edit = .error refused
  /-- A refused move leaves the tape as it is. -/
  refused_unchanged : ∀ distance, tape.head < distance →
    Tape.blank.editAll (edits ++ [.moveLeft distance]) = tape

/-- A growing tape stands for one that is infinite and all zero at first, whatever is done to it,
and no access ever falls outside: not one of the edits, and not one of the accesses to the tape or
to a program that a machine makes, whatever programs it runs one after the other. -/
theorem accesses_in_bounds :
    (∀ edits : List Tape.Edit,
      Tape.History edits (Tape.blank.editAll edits) (UnboundedTape.blank.editAll edits)) ∧
    ∀ (σ : Type) [Console σ] (console : σ) (session : List (Program × Nat)),
      (LooseMachine.fresh console).serve? session =
        some ((Machine.fresh console).serve session).loosen := by
  refine ⟨?_, fun _ _ console session => (Machine.fresh console).serve?_loosen session⟩
  intro edits
  have represents : ∀ edits,
      (Tape.blank.editAll edits).Represents (UnboundedTape.blank.editAll edits) :=
    Tape.Represents.blank.editAll
  obtain ⟨bounded, reached, initial, farthest⟩ := UnboundedTape.farthest_editAll edits
  have whole := represents edits
  refine ⟨Tape.blank.editAll?_loosen edits, Tape.head_lt_size _, ?_, ?_, whole.head_eq, ?_, ?_, ?_,
    ?_, ?_⟩
  · intro early initial
    rw [(represents early).head_eq, whole.size_eq]
    exact Nat.lt_succ_of_le (bounded early initial)
  · refine ⟨reached, initial, ?_⟩
    rw [(represents reached).head_eq, whole.size_eq, farthest, Nat.add_comm]
  · intro address inside
    rw [← whole.cell_eq]
    exact Tape.getElem?_cells inside
  · intro address past
    rw [← whole.cell_eq]
    exact Tape.cell_of_size_le past
  · exact Tape.edit_eq_error_iff _
  · intro edit refused
    obtain ⟨_, same, same'⟩ | ⟨_, _, same, same', -⟩ := whole.edit edit
    · simp only [same, same', Except.error.injEq]
    · rw [same, same']
      exact iff_of_false nofun nofun
  · intro distance close
    have refused := ((Tape.blank.editAll edits).moveLeft_eq_error_iff distance).mpr ⟨close, rfl⟩
    rw [Tape.editAll_concat, Tape.edit, refused]
    rfl

end TapeMachine
