import TapeMachine.Console.Script
import TapeMachine.Proofs.Linking

/-! # Unrolling a loop

Over a cell that is not zero a loop does its body once and is then a loop again. The closing bracket
goes back to the first operation of the body and not to the opening bracket, yet the two brackets
decide alike: from either of them the run goes on at the same address. So the loop met again after
the body is the loop itself, and the only trace that the first turn leaves is one dispatched
operation.

The count of dispatched operations is never looked at, so a run that starts with one more ends with
one more.
-/

namespace TapeMachine

section

variable {σ : Type}

/-- The ending with one more dispatched operation. -/
def Ending.tick (ending : Ending σ) : Ending σ :=
  ⟨ending.machine.tick, ending.fault⟩

/-- The configuration with one more dispatched operation. -/
def Configuration.tick (configuration : Configuration σ) : Configuration σ :=
  ⟨configuration.address, configuration.machine.tick⟩

variable [Console σ]

namespace Machine

theorem readTimes_tick (position count : Nat) (machine : Machine σ) :
    machine.tick.readTimes position count = (machine.readTimes position count).tick := by
  induction count generalizing machine with
  | zero => rfl
  | succ count ih =>
    obtain ⟨tape, console, steps⟩ := machine
    simp only [tick, readTimes]
    obtain ⟨answer, after⟩ := Console.read console
    cases answer with
    | line bytes => exact ih ⟨tape.store (bytes.headD 0), after, steps⟩
    | endOfInput => rfl
    | failed reason => rfl

theorem writeTimes_tick (count : Nat) (machine : Machine σ) :
    machine.tick.writeTimes count = (machine.writeTimes count).tick := by
  induction count generalizing machine with
  | zero => rfl
  | succ count ih =>
    obtain ⟨tape, console, steps⟩ := machine
    simp only [tick, writeTimes]
    obtain ⟨answer, after⟩ := Console.write tape.load console
    cases answer with
    | written => exact ih ⟨tape, after, steps⟩
    | failed reason => rfl

theorem perform_tick (position : Nat) (action : Action) (count : Nat) (machine : Machine σ) :
    machine.tick.perform position action count = (machine.perform position action count).tick := by
  cases action with
  | moveRight | increment | decrement => rfl
  | moveLeft =>
    obtain ⟨tape, console, steps⟩ := machine
    simp only [tick, perform]
    cases tape.moveLeft count <;> rfl
  | output => exact machine.writeTimes_tick count
  | input => exact machine.readTimes_tick position count

theorem dispatch_tick (operation : Operation) (address : Nat) (machine : Machine σ) :
    machine.tick.dispatch operation address =
      (machine.dispatch operation address).map Configuration.tick Ending.tick := by
  cases operation with
  | perform action count =>
    rw [dispatch_perform, dispatch_perform, perform_tick]
    obtain ⟨after, fault⟩ := machine.tick.perform address action count
    cases fault <;> rfl
  | jumpIfZero target => rfl
  | jumpIfNonzero target => rfl

end Machine

namespace Program

variable {program body : Program} {machine : Machine σ} {ending : Ending σ}

/-- No program looks at the count of dispatched operations. -/
theorem ends_tick_iff :
    program.Ends machine.tick ending ↔ ∃ last, program.Ends machine last ∧ ending = last.tick := by
  have imitates : ∀ configuration : Configuration σ, program.step configuration.tick =
      (program.step configuration).map Configuration.tick Ending.tick := by
    rintro ⟨address, machine⟩
    rw [Configuration.tick]
    cases found : program.fetch? address with
    | none =>
      rw [step_of_fetch?_eq_none found, step_of_fetch?_eq_none found]
      rfl
    | some operation =>
      rw [step_of_fetch? found, step_of_fetch? found]
      exact machine.dispatch_tick operation address
  exact Stops.iff_of_map imitates ⟨0, machine⟩ ending

theorem step_loop_start (body : Program) (machine : Machine σ) : body.loop.step ⟨0, machine⟩ =
    .running ⟨if machine.tape.load = 0 then body.size + 2 else 1, machine.tick⟩ := by
  rw [step_of_fetch? body.fetch?_loop_start]
  rfl

/-- From either bracket of a loop the run goes on at the same address. -/
theorem step_loop_stop (body : Program) (machine : Machine σ) :
    body.loop.step ⟨1 + body.size, machine⟩ = body.loop.step ⟨0, machine⟩ := by
  have behind : 1 + body.size + 1 = body.size + 2 := by omega
  rw [step_loop_start, step_of_fetch? body.fetch?_loop_stop]
  simp only [Machine.dispatch, behind]

/-- Over a zero cell a loop does nothing. -/
theorem ends_loop_of_zero (zero : machine.tape.load = 0) :
    body.loop.Ends machine ending ↔ ending = ⟨machine.tick, none⟩ := by
  have taken := step_loop_start body machine
  rw [if_pos zero] at taken
  have past : body.loop.size ≤ body.size + 2 := Nat.le_of_eq (size_loop body)
  exact (Stops.iff_of_running taken).trans (Stops.iff_of_stopped (step_of_size_le past _))

/-- Over any other cell a loop is its body and then the loop, but for one dispatched operation. -/
theorem ends_loop_of_nonzero (linked : body.Linked) (nonzero : machine.tape.load ≠ 0) :
    body.loop.Ends machine ending ↔
      (∃ stopped fault, body.Ends machine ⟨stopped, some fault⟩ ∧
        ending = ⟨stopped.tick, some (fault.relocate 1)⟩) ∨
      ∃ middle last, body.Ends machine ⟨middle, none⟩ ∧ body.loop.Ends middle last ∧
        ending = last.tick := by
  have taken := step_loop_start body machine
  rw [if_neg nonzero] at taken
  -- The body begins with the opening bracket counted, and where it halts stands the closing one.
  have turn := (embeds_loop body).stops_iff linked.contained machine.tick ending
  have again : ∀ middle : Machine σ,
      Stops body.loop.step ⟨1 + body.size, middle⟩ ending ↔ body.loop.Ends middle ending :=
    fun middle => Stops.iff_of_step_eq (step_loop_stop body middle)
  refine (Stops.iff_of_running taken).trans (turn.trans (or_congr ?_ ?_))
  · constructor
    · rintro ⟨stopped, fault, late, rfl⟩
      obtain ⟨⟨before, fault'⟩, ends, same⟩ := ends_tick_iff.mp late
      cases same
      exact ⟨before, fault, ends, rfl⟩
    · rintro ⟨stopped, fault, ends, rfl⟩
      exact ⟨stopped.tick, fault, ends_tick_iff.mpr ⟨_, ends, rfl⟩, rfl⟩
  · constructor
    · rintro ⟨middle, late, stops⟩
      obtain ⟨⟨before, fault⟩, ends, same⟩ := ends_tick_iff.mp late
      cases same
      obtain ⟨last, follows, rfl⟩ := ends_tick_iff.mp ((again _).mp stops)
      exact ⟨before, last, ends, follows, rfl⟩
    · rintro ⟨middle, last, ends, follows, rfl⟩
      exact ⟨middle.tick, ends_tick_iff.mpr ⟨_, ends, rfl⟩,
        (again _).mpr (ends_tick_iff.mpr ⟨last, follows, rfl⟩)⟩

end Program

end

variable {source : Source} {program : Program}

/-- A source in brackets. -/
def Source.loop (body : Source) : Source :=
  Symbol.loopStart.toByte :: (body ++ [Symbol.loopEnd.toByte])

theorem Source.symbols_loop (body : Source) :
    body.loop.symbols = .loopStart :: (body.symbols ++ [.loopEnd]) := by
  rw [loop, symbols_toByte_cons, symbols_append, symbols_toByte_cons]
  rfl

/-- A source that compiles does so in brackets, to a loop around its program. Over a zero cell the
loop ends at once. Over any other it ends as the program does by a fault, which then names an
operation one address further, or as it does itself on what the program has left; the first turn of
either kind costs one more dispatched operation. -/
theorem compile_loop (compiled : compile source = .ok program) :
    ∃ loop, compile source.loop = .ok loop ∧
      ∀ (σ : Type) [Console σ] (machine : Machine σ) (ending : Ending σ),
        (machine.tape.load = 0 → (loop.Ends machine ending ↔ ending = ⟨machine.tick, none⟩)) ∧
        (machine.tape.load ≠ 0 → (loop.Ends machine ending ↔
          (∃ stopped fault, program.Ends machine ⟨stopped, some fault⟩ ∧
            ending = ⟨stopped.tick, some (fault.relocate 1)⟩) ∨
          ∃ middle last, program.Ends machine ⟨middle, none⟩ ∧ loop.Ends middle last ∧
            ending = last.tick)) := by
  have formed := wellFormed_of_compile compiled
  have spelled : source.loop.symbols = program.loop.symbols := by
    rw [Source.symbols_loop, Program.symbols_loop, symbols_of_compile compiled]
  refine ⟨program.loop, compile_of_wellFormed formed.loop spelled, ?_⟩
  intro σ _ machine ending
  exact ⟨Program.ends_loop_of_zero, Program.ends_loop_of_nonzero formed.linked⟩

/-- Takes one off the current cell and writes what is left. -/
def countDown : Source :=
  ['-', '.'].map Char.toUInt8

/-- What `countDown` compiles to. -/
def countDownCode : Program :=
  ⟨#[.perform .decrement 1, .perform .output 1]⟩

/-- From a cell of one the loop takes one turn: two operations of the body and two brackets. -/
theorem compile_loop_countDown : compile countDown = .ok countDownCode ∧
    ∃ loop, compile countDown.loop = .ok loop ∧
      loop.Ends ⟨Tape.blank.add 1, Script.ofLines [], 0⟩
        ⟨⟨(Tape.blank.add 1).sub 1, { Script.ofLines [] with output := #[0], written := 1 }, 4⟩,
          none⟩ := by
  have compiled : compile countDown = .ok countDownCode := rfl
  obtain ⟨loop, success, laws⟩ := compile_loop compiled
  have turn : countDownCode.Ends ⟨Tape.blank.add 1, Script.ofLines [], 0⟩
      ⟨⟨(Tape.blank.add 1).sub 1, { Script.ofLines [] with output := #[0], written := 1 }, 2⟩,
        none⟩ := ⟨3, rfl⟩
  refine ⟨compiled, loop, success, ((laws Script _ _).2 (by decide)).mpr (.inr ?_)⟩
  exact ⟨_, _, turn, ((laws Script _ _).1 (by decide)).mpr rfl, rfl⟩

end TapeMachine
