import TapeMachine.Proofs.Bounds
import TapeMachine.Proofs.Repetition

/-! # What a fault leaves behind

An operation fails in one of three ways: a move to the left has no room, a read does not get a line,
or a write is refused. `Machine.Fails` says for each what the operation has done by then. Apart from
that the machine stands as it stood before the operation, which is counted all the same.

Faults come from reads and writes in the middle of a repetition, so the console is followed through
the lines that it hands out and the copies of a byte that it takes before it fails.
-/

namespace TapeMachine

section

variable {σ : Type}

/-- The machine stands as the other did, with one operation more counted, with this console and this
value in the current cell. -/
structure Machine.Leaves (before : Machine σ) (console : σ) (value : UInt8) (stopped : Machine σ) :
    Prop where
  steps : stopped.steps = before.steps + 1
  console : stopped.console = console
  head : stopped.tape.head = before.tape.head
  size : stopped.tape.size = before.tape.size
  current : stopped.tape.load = value
  elsewhere : ∀ address, address ≠ before.tape.head →
    stopped.tape.cell address = before.tape.cell address

/-- What is left is what there was with a value stored. -/
theorem Machine.leaves_iff {before stopped : Machine σ} {console : σ} {value : UInt8} :
    before.Leaves console value stopped ↔
      stopped = ⟨before.tape.store value, console, before.steps + 1⟩ := by
  constructor
  · intro leaves
    obtain ⟨tape, after, steps⟩ := stopped
    obtain ⟨rfl, rfl, head, size, current, elsewhere⟩ := leaves
    have same : tape = before.tape.store value := by
      refine Tape.ext_cell (by simpa using size) ?_ (by simpa using head)
      intro position
      rw [Tape.cell_store]
      by_cases here : position = before.tape.head
      · rw [if_pos here, here, ← current, Tape.load_eq_cell, head]
      · rw [if_neg here]
        exact elsewhere position here
    rw [same]
  · rintro rfl
    refine ⟨rfl, rfl, rfl, by simp, by simp, ?_⟩
    intro position there
    rw [Tape.cell_store, if_neg there]

variable [Console σ]

/-- Asked for lines and for nothing else, the console hands out these, one after the other. -/
inductive Console.HandsOut : σ → List Line → σ → Prop where
  | nothing (console : σ) : HandsOut console [] console
  | more {console next last : σ} {line : Line} {lines : List Line}
    (reads : Console.read console = (.line line, next)) (rest : HandsOut next lines last) :
    HandsOut console (line :: lines) last

/-- Asked to write this byte and for nothing else, the console takes it so many times. -/
inductive Console.Takes (byte : UInt8) : σ → Nat → σ → Prop where
  | nothing (console : σ) : Takes byte console 0 console
  | more {console next last : σ} {count : Nat}
    (writes : Console.write byte console = (.written, next)) (rest : Takes byte next count last) :
    Takes byte console (count + 1) last

/-- The fault of an operation at `position` whose read gets this answer, unless it gets a line. -/
def ReadResult.fault? (position : Nat) : ReadResult → Option ExecutionError
  | .line _ => none
  | .endOfInput => some (.unexpectedEndOfInput position)
  | .failed reason => some (.console reason)

namespace Tape

/-- The current cell once these lines have been read: the first byte of the last of them, zero if
that is empty, and what the cell held before if there is no line. -/
def valueAfter (tape : Tape) (lines : List Line) : UInt8 :=
  match lines.getLast? with
  | some line => line.headD 0
  | none => tape.load

/-- Of lines that are read one after the other only the last one counts. -/
theorem store_valueAfter_cons (tape : Tape) (line : Line) (lines : List Line) :
    (tape.store (line.headD 0)).store ((tape.store (line.headD 0)).valueAfter lines) =
      tape.store (tape.valueAfter (line :: lines)) := by
  rw [store_store]
  cases lines with
  | nil => simp [valueAfter]
  | cons next rest => simp only [valueAfter, List.getLast?_cons, Option.getD_some]

end Tape

namespace Machine

/-- How the operation at `address` fails: in which state and with which fault. -/
inductive Fails (before : Machine σ) (address : Nat) :
    Operation → Machine σ → ExecutionError → Prop where
  /-- A move over the left end does not touch anything. -/
  | moveLeft {distance : Nat} {stopped : Machine σ} (past : before.tape.head < distance)
    (leaves : before.Leaves before.console before.tape.load stopped) :
    Fails before address (.perform .moveLeft distance) stopped
      (.underflow ⟨before.tape.head, distance⟩)
  /-- A read that gets no line comes after fewer lines than were wanted. -/
  | input {count : Nat} {lines : List Line} {reached after : σ} {answer : ReadResult}
    {fault : ExecutionError} {stopped : Machine σ} (fewer : lines.length < count)
    (handed : Console.HandsOut before.console lines reached)
    (asks : Console.read reached = (answer, after)) (faulty : answer.fault? address = some fault)
    (leaves : before.Leaves after (before.tape.valueAfter lines) stopped) :
    Fails before address (.perform .input count) stopped fault
  /-- A write that is refused comes after fewer copies of the current cell than were wanted. -/
  | output {count done : Nat} {reached after : σ} {reason : String} {stopped : Machine σ}
    (fewer : done < count) (taken : Console.Takes before.tape.load before.console done reached)
    (refused : Console.write before.tape.load reached = (.failed reason, after))
    (leaves : before.Leaves after before.tape.load stopped) :
    Fails before address (.perform .output count) stopped (.console reason)

variable {before stopped : Machine σ} {address count : Nat} {fault : ExecutionError}

/-- Lines that are handed out are read and leave the rest to be read. -/
theorem readTimes_of_handsOut {console reached : σ} {lines : List Line}
    (handed : Console.HandsOut console lines reached) (tape : Tape) (position more steps : Nat) :
    readTimes position (lines.length + more) ⟨tape, console, steps⟩ =
      readTimes position more ⟨tape.store (tape.valueAfter lines), reached, steps⟩ := by
  induction handed generalizing tape with
  | nothing console => simp [Tape.valueAfter]
  | @more console next last line lines reads rest ih =>
    rw [List.length_cons, Nat.succ_add, readTimes, reads]
    dsimp only
    rw [ih, Tape.store_valueAfter_cons]

/-- Copies that are taken are written and leave the rest to be written. -/
theorem writeTimes_of_takes {tape : Tape} {console reached : σ} {done : Nat}
    (taken : Console.Takes tape.load console done reached) (more steps : Nat) :
    writeTimes (done + more) ⟨tape, console, steps⟩ =
      writeTimes more ⟨tape, reached, steps⟩ := by
  induction taken with
  | nothing console => rw [Nat.zero_add]
  | @more console next last count writes rest ih =>
    rw [Nat.succ_add, writeTimes, writes]
    exact ih

/-- Repeated reading fails at the first read that gets no line. -/
theorem exists_handsOut_of_readTimes {tape : Tape} {console : σ} {position steps : Nat}
    (fails : readTimes position count ⟨tape, console, steps⟩ = ⟨stopped, some fault⟩) :
    ∃ lines reached after answer, lines.length < count ∧
      Console.HandsOut console lines reached ∧ Console.read reached = (answer, after) ∧
      answer.fault? position = some fault ∧
      stopped = ⟨tape.store (tape.valueAfter lines), after, steps⟩ := by
  induction count generalizing tape console with
  | zero => cases fails
  | succ count ih =>
    rw [readTimes] at fails
    split at fails <;> rename_i reads
    · obtain ⟨lines, reached, after, answer, fewer, handed, asks, faulty, rfl⟩ := ih fails
      refine ⟨_ :: lines, reached, after, answer, Nat.succ_lt_succ fewer, .more reads handed, asks,
        faulty, ?_⟩
      rw [Tape.store_valueAfter_cons]
    · cases fails
      exact ⟨[], console, _, _, Nat.succ_pos count, .nothing console, reads, rfl,
        by simp [Tape.valueAfter]⟩
    · cases fails
      exact ⟨[], console, _, _, Nat.succ_pos count, .nothing console, reads, rfl,
        by simp [Tape.valueAfter]⟩

/-- Repeated writing fails at the first write that is refused. -/
theorem exists_takes_of_writeTimes {tape : Tape} {console : σ} {steps : Nat}
    (fails : writeTimes count ⟨tape, console, steps⟩ = ⟨stopped, some fault⟩) :
    ∃ done reached after reason, done < count ∧ Console.Takes tape.load console done reached ∧
      Console.write tape.load reached = (.failed reason, after) ∧ fault = .console reason ∧
      stopped = ⟨tape, after, steps⟩ := by
  induction count generalizing console with
  | zero => cases fails
  | succ count ih =>
    rw [writeTimes] at fails
    split at fails <;> rename_i writes
    · obtain ⟨done, reached, after, reason, fewer, taken, refused, same, rfl⟩ := ih fails
      exact ⟨done + 1, reached, after, reason, Nat.succ_lt_succ fewer, .more writes taken, refused,
        same, rfl⟩
    · cases fails
      exact ⟨0, console, _, _, Nat.succ_pos count, .nothing console, writes, rfl, rfl⟩

/-- An action fails in the ways there are, and in each of them if it comes to that. -/
theorem perform_eq_fault_iff {action : Action} :
    before.tick.perform address action count = ⟨stopped, some fault⟩ ↔
      before.Fails address (.perform action count) stopped fault := by
  obtain ⟨tape, console, steps⟩ := before
  constructor
  · intro fails
    cases action with
    | moveRight | increment | decrement => cases fails
    | moveLeft =>
      cases moves : tape.moveLeft count with
      | ok moved =>
        simp only [perform, tick, moves] at fails
        cases fails
      | error refusal =>
        obtain ⟨past, rfl⟩ := (tape.moveLeft_eq_error_iff count).mp moves
        simp only [perform, tick, moves] at fails
        cases fails
        exact .moveLeft past (leaves_iff.mpr (by rw [Tape.store_load]))
    | output =>
      obtain ⟨done, reached, after, reason, fewer, taken, refused, rfl, rfl⟩ :=
        exists_takes_of_writeTimes fails
      exact .output fewer taken refused (leaves_iff.mpr (by rw [Tape.store_load]))
    | input =>
      obtain ⟨lines, reached, after, answer, fewer, handed, asks, faulty, rfl⟩ :=
        exists_handsOut_of_readTimes fails
      exact .input fewer handed asks faulty (leaves_iff.mpr rfl)
  · intro fails
    cases fails with
    | moveLeft past leaves =>
      obtain rfl := leaves_iff.mp leaves
      rw [perform_moveLeft_of_lt address (show (tick ⟨tape, console, steps⟩).tape.head < _ from past),
        Tape.store_load]
      rfl
    | input fewer handed asks faulty leaves =>
      obtain rfl := leaves_iff.mp leaves
      obtain ⟨left, rfl⟩ := Nat.exists_eq_add_of_lt fewer
      rw [Nat.add_assoc]
      refine (readTimes_of_handsOut handed tape address (left + 1) (steps + 1)).trans ?_
      rw [readTimes, asks]
      rename_i answer
      cases answer with
      | line bytes => cases faulty
      | endOfInput | failed reason =>
        cases faulty
        rfl
    | output fewer taken refused leaves =>
      obtain rfl := leaves_iff.mp leaves
      obtain ⟨left, rfl⟩ := Nat.exists_eq_add_of_lt fewer
      rw [Nat.add_assoc]
      refine (writeTimes_of_takes taken (left + 1) (steps + 1)).trans ?_
      rw [writeTimes, refused, Tape.store_load]

/-- Only a move to the left underflows. -/
theorem Fails.of_underflow {operation : Operation} {refused : Underflow}
    (fails : before.Fails address operation stopped (.underflow refused)) :
    operation = .perform .moveLeft refused.distance ∧ before.tape.head < refused.distance ∧
      refused.head = before.tape.head ∧
        before.Leaves before.console before.tape.load stopped := by
  generalize cause : ExecutionError.underflow refused = fault at fails
  cases fails with
  | moveLeft past leaves =>
    cases cause
    exact ⟨rfl, past, rfl, leaves⟩
  | input fewer handed asks faulty leaves =>
    subst cause
    rename_i answer
    cases answer <;> cases faulty
  | output fewer taken refused leaves => cases cause

end Machine

namespace Program

variable {program : Program} {machine before stopped : Machine σ} {address : Nat}
  {fault : ExecutionError}

/-- A step fails exactly if the operation at the address does. -/
theorem step_eq_fault_iff :
    program.step ⟨address, before⟩ = .stopped ⟨stopped, some fault⟩ ↔
      ∃ operation, program.fetch? address = some operation ∧
        before.Fails address operation stopped fault := by
  cases found : program.fetch? address with
  | none =>
    rw [step_of_fetch?_eq_none found]
    constructor
    · nofun
    · rintro ⟨operation, fetched, -⟩
      cases fetched
  | some operation =>
    rw [step_of_fetch? found]
    simp only [Option.some.injEq, exists_eq_left']
    cases operation with
    | perform action count =>
      rw [Machine.dispatch_perform, ← Machine.perform_eq_fault_iff]
      obtain ⟨after, cause⟩ := before.tick.perform address action count
      cases cause <;> simp [Ending.goOn]
    | jumpIfZero target | jumpIfNonzero target => exact ⟨nofun, nofun⟩

/-- A step that underflows is a move to the left that has no room. -/
theorem exists_moveLeft_of_step {refused : Underflow}
    (fails : program.step ⟨address, before⟩ = .stopped ⟨stopped, some (.underflow refused)⟩) :
    program.fetch? address = some (.perform .moveLeft refused.distance) ∧
      before.tape.head < refused.distance ∧ refused.head = before.tape.head ∧
        stopped = before.tick := by
  obtain ⟨operation, found, fails⟩ := step_eq_fault_iff.mp fails
  obtain ⟨rfl, past, head, leaves⟩ := fails.of_underflow
  refine ⟨found, past, head, ?_⟩
  rw [Machine.leaves_iff.mp leaves, Tape.store_load]
  rfl

/-- A run fails exactly if it comes to an operation that does. -/
theorem ends_fault_iff :
    program.Ends machine ⟨stopped, some fault⟩ ↔ ∃ moment address before operation,
      program.runFor moment machine = .running ⟨address, before⟩ ∧
        program.fetch? address = some operation ∧
          before.Fails address operation stopped fault := by
  constructor
  · rintro ⟨count, stops⟩
    obtain ⟨moment, -, ⟨address, before⟩, runs, last⟩ := exists_running_of_stopped stops
    obtain ⟨operation, found, fails⟩ := step_eq_fault_iff.mp last
    exact ⟨moment, address, before, operation, runs, found, fails⟩
  · rintro ⟨moment, address, before, operation, runs, found, fails⟩
    refine ⟨moment + 1, ?_⟩
    rw [runFor, runSteps_of_running runs, runSteps_one]
    exact step_eq_fault_iff.mpr ⟨operation, found, fails⟩

/-- Faults of a program are known to the last detail: where they come from, what they say and what
they leave behind. -/
structure FailsCleanly (program : Program) (machine : Machine σ) : Prop where
  /-- A run fails with a fault if and only if it comes to an operation that fails so. The machine is
  then left as it stood before that operation, apart from what the operation has done by then. -/
  fails_iff : ∀ stopped fault, program.Ends machine ⟨stopped, some fault⟩ ↔
    ∃ moment address before operation,
      program.runFor moment machine = .running ⟨address, before⟩ ∧
        program.fetch? address = some operation ∧ before.Fails address operation stopped fault
  /-- An underflow comes of a move to the left for which the head stands too close to the end, and of
  nothing else. It reports both and leaves everything as it was. -/
  underflow_iff : ∀ stopped refused, program.Ends machine ⟨stopped, some (.underflow refused)⟩ ↔
    ∃ moment address before, program.runFor moment machine = .running ⟨address, before⟩ ∧
      program.fetch? address = some (.perform .moveLeft refused.distance) ∧
      before.tape.head < refused.distance ∧ refused.head = before.tape.head ∧
        before.Leaves before.console before.tape.load stopped
  /-- The next program that the machine is given begins with its first operation, on the machine as
  it has been left. -/
  restarts : ∀ count stopped fault, program.runFor count machine = .stopped ⟨stopped, some fault⟩ →
    ∀ (next : Program) (steps : Nat),
      machine.serve [(program, count), (next, steps)] = (next.runFor steps stopped).machine ∧
        ∀ operation, next.fetch? 0 = some operation →
          next.runFor 1 stopped = stopped.dispatch operation 0

/-- Whatever the program, the machine and its streams, a run that fails does so cleanly. -/
theorem runs_fail_cleanly (program : Program) (machine : Machine σ) :
    program.FailsCleanly machine where
  fails_iff _ _ := ends_fault_iff
  underflow_iff := by
    intro stopped refused
    rw [ends_fault_iff]
    constructor
    · rintro ⟨moment, address, before, operation, runs, found, fails⟩
      obtain ⟨rfl, past, head, leaves⟩ := fails.of_underflow
      exact ⟨moment, address, before, runs, found, past, head, leaves⟩
    · rintro ⟨moment, address, before, runs, found, past, head, leaves⟩
      obtain ⟨_, distance⟩ := refused
      obtain rfl := head
      exact ⟨moment, address, before, _, runs, found, .moveLeft past leaves⟩
  restarts := by
    intro count stopped fault stops next steps
    constructor
    · simp only [Machine.serve, stops, Progress.machine]
    · intro operation found
      rw [runFor, runSteps_one, step_of_fetch? found]

end Program

end

end TapeMachine
