import TapeMachine.Proofs.Outcome
import TapeMachine.Proofs.Partners

/-! # Programs inside programs

A program that stands inside another from some address on, with its jumps led that much further,
does there what it does alone: the two dispatch the same operations, until the one alone halts and
the other leaves the part behind its last operation. A fault is the same but for the position it
names. `Embeds.stops_iff` puts this as an equivalence of outcomes.
-/

namespace TapeMachine

/-- The operation with its jump led `offset` addresses further. -/
def Operation.relocate (offset : Nat) : Operation → Operation
  | .perform action count => .perform action count
  | .jumpIfZero target => .jumpIfZero (offset + target)
  | .jumpIfNonzero target => .jumpIfNonzero (offset + target)

/-- The fault of an operation that stands `offset` addresses further. -/
def ExecutionError.relocate (offset : Nat) : ExecutionError → ExecutionError
  | .underflow refused => .underflow refused
  | .unexpectedEndOfInput position => .unexpectedEndOfInput (offset + position)
  | .console reason => .console reason

@[simp] theorem Operation.symbol_relocate (offset : Nat) (operation : Operation) :
    (operation.relocate offset).symbol = operation.symbol := by
  cases operation <;> rfl

@[simp] theorem Operation.symbols_relocate (offset : Nat) (operation : Operation) :
    (operation.relocate offset).symbols = operation.symbols := by
  cases operation <;> rfl

@[simp] theorem Operation.relocate_zero (operation : Operation) :
    operation.relocate 0 = operation := by
  cases operation <;> simp [relocate]

@[simp] theorem ExecutionError.relocate_zero (error : ExecutionError) :
    error.relocate 0 = error := by
  cases error <;> simp [relocate]

section

variable {σ : Type}

/-- The ending of a run whose operations stand `offset` addresses further. -/
def Ending.relocate (offset : Nat) (ending : Ending σ) : Ending σ :=
  ⟨ending.machine, ending.fault.map (ExecutionError.relocate offset)⟩

/-- The configuration of a run whose operations stand `offset` addresses further. -/
def Configuration.relocate (offset : Nat) (configuration : Configuration σ) : Configuration σ :=
  ⟨offset + configuration.address, configuration.machine⟩

variable [Console σ]

namespace Machine

variable (offset position : Nat)

theorem readTimes_relocate (count : Nat) (machine : Machine σ) :
    machine.readTimes (offset + position) count =
      (machine.readTimes position count).relocate offset := by
  induction count generalizing machine with
  | zero => rfl
  | succ count ih =>
    obtain ⟨tape, console, steps⟩ := machine
    simp only [readTimes]
    obtain ⟨answer, after⟩ := Console.read console
    cases answer with
    | line bytes => exact ih _
    | endOfInput => rfl
    | failed reason => rfl

/-- What is written does not depend on the position, nor does a fault of the console. -/
theorem writeTimes_relocate (count : Nat) (machine : Machine σ) :
    machine.writeTimes count = (machine.writeTimes count).relocate offset := by
  induction count generalizing machine with
  | zero => rfl
  | succ count ih =>
    obtain ⟨tape, console, steps⟩ := machine
    simp only [writeTimes]
    obtain ⟨answer, after⟩ := Console.write tape.load console
    cases answer with
    | written => exact ih _
    | failed reason => rfl

theorem perform_relocate (action : Action) (count : Nat) (machine : Machine σ) :
    machine.perform (offset + position) action count =
      (machine.perform position action count).relocate offset := by
  cases action with
  | moveRight | increment | decrement => rfl
  | moveLeft =>
    simp only [perform]
    cases machine.tape.moveLeft count <;> rfl
  | output => exact machine.writeTimes_relocate offset count
  | input => exact machine.readTimes_relocate offset position count

/-- An operation does the same further on, and goes on or jumps that much further. -/
theorem dispatch_relocate (operation : Operation) (address : Nat) (machine : Machine σ) :
    machine.dispatch (operation.relocate offset) (offset + address) =
      (machine.dispatch operation address).map (Configuration.relocate offset)
        (Ending.relocate offset) := by
  cases operation with
  | perform action count =>
    rw [Operation.relocate, dispatch_perform, dispatch_perform, perform_relocate]
    obtain ⟨after, fault⟩ := machine.tick.perform address action count
    cases fault <;> rfl
  | jumpIfZero target =>
    simp only [Operation.relocate, dispatch, Progress.map, Configuration.relocate]
    split <;> rfl
  | jumpIfNonzero target =>
    simp only [Operation.relocate, dispatch, Progress.map, Configuration.relocate]
    split <;> rfl

/-- An operation stops a run by a fault only. -/
theorem exists_fault_of_dispatch {operation : Operation} {address : Nat} {machine : Machine σ}
    {ending : Ending σ} (stops : machine.dispatch operation address = .stopped ending) :
    ∃ fault, ending.fault = some fault := by
  cases operation with
  | perform action count =>
    rw [dispatch_perform] at stops
    generalize machine.tick.perform address action count = performed at stops
    obtain ⟨after, fault⟩ := performed
    cases fault <;> cases stops
    exact ⟨_, rfl⟩
  | jumpIfZero target | jumpIfNonzero target => cases stops

end Machine

end

namespace Program

variable {whole part : Program} {base address : Nat}

/-- No jump leads farther than just behind the last operation. -/
def Contained (program : Program) : Prop :=
  ∀ address target, (program.fetch? address).bind Operation.jumpTarget? = some target →
    target ≤ program.size

/-- The operations of `part` stand in `whole` from `base` on, their jumps led that much further. -/
def Embeds (whole part : Program) (base : Nat) : Prop :=
  ∀ address, address < part.size →
    whole.fetch? (base + address) = (part.fetch? address).map (Operation.relocate base)

theorem Linked.contained (linked : part.Linked) : part.Contained := by
  intro address target jumps
  obtain ⟨operation, found, leads⟩ := Option.bind_eq_some_iff.mp jumps
  obtain ⟨partner, partners | partners, rfl⟩ := linked.exists_partner_of_jumpTarget? found leads
  · exact partners.stop_lt_size
  · exact Nat.lt_trans partners.start_lt_stop partners.stop_lt_size

section

variable {σ : Type} [Console σ] {machine : Machine σ}

/-- Where it has an operation, a contained program goes on at one of its addresses or just behind
them. -/
theorem Contained.address_le (contained : part.Contained) {next : Configuration σ}
    (goes : part.step ⟨address, machine⟩ = .running next) : next.address ≤ part.size := by
  cases found : part.fetch? address with
  | none =>
    rw [step_of_fetch?_eq_none found] at goes
    cases goes
  | some operation =>
    have inside : address + 1 ≤ part.size := lt_size_of_fetch? found
    rw [step_of_fetch? found] at goes
    cases operation with
    | perform action count =>
      rw [Machine.dispatch_perform] at goes
      generalize machine.tick.perform address action count = ending at goes
      obtain ⟨after, fault⟩ := ending
      cases fault <;> cases goes
      exact inside
    | jumpIfZero target =>
      have outside : target ≤ part.size := contained address target (by rw [found]; rfl)
      cases goes
      dsimp only
      split
      · exact outside
      · exact inside
    | jumpIfNonzero target =>
      have outside : target ≤ part.size := contained address target (by rw [found]; rfl)
      cases goes
      dsimp only
      split
      · exact inside
      · exact outside

namespace Embeds

/-- Inside the part the two take corresponding steps. -/
theorem step_eq (embeds : whole.Embeds part base) (inside : address < part.size) :
    whole.step ⟨base + address, machine⟩ =
      (part.step ⟨address, machine⟩).map (Configuration.relocate base) (Ending.relocate base) := by
  have found := embeds address inside
  obtain ⟨operation, fetched⟩ := exists_fetch? inside
  rw [fetched, Option.map_some] at found
  rw [step_of_fetch? found, step_of_fetch? fetched]
  exact machine.dispatch_relocate base operation address

/-- If the part ends, the whole ends with the same fault, or goes on behind the part. -/
theorem stops_iff_of_stops (embeds : whole.Embeds part base) (contained : part.Contained)
    {stopped : Machine σ} {fault : Option ExecutionError} {ending : Ending σ}
    (within : address ≤ part.size) (ends : Stops part.step ⟨address, machine⟩ ⟨stopped, fault⟩) :
    Stops whole.step ⟨base + address, machine⟩ ending ↔
      fault.elim (Stops whole.step ⟨base + part.size, stopped⟩ ending)
        fun error => ending = ⟨stopped, some (error.relocate base)⟩ := by
  obtain ⟨count, ends⟩ := ends
  -- By the steps that the part takes alone: containment keeps the address in it until it halts.
  induction count generalizing address machine with
  | zero => cases ends
  | succ count ih =>
    rw [runSteps_succ] at ends
    rcases Nat.lt_or_eq_of_le within with inside | rfl
    · have taken : whole.step ⟨base + address, machine⟩ = _ := embeds.step_eq inside
      cases first : part.step ⟨address, machine⟩ with
      | running next =>
        rw [first] at ends taken
        rw [Stops.iff_of_running taken]
        exact ih (contained.address_le first) ends
      | stopped result =>
        rw [first] at ends taken
        cases ends
        obtain ⟨operation, fetched⟩ := exists_fetch? inside
        rw [step_of_fetch? fetched] at first
        obtain ⟨error, same⟩ := Machine.exists_fault_of_dispatch first
        dsimp only at same
        subst same
        exact Stops.iff_of_stopped taken
    · rw [step_of_size_le (Nat.le_refl _)] at ends
      cases ends
      exact Iff.rfl

/-- The whole cannot end before the part has ended. -/
theorem exists_stops (embeds : whole.Embeds part base) (contained : part.Contained)
    {ending : Ending σ} (within : address ≤ part.size)
    (ends : Stops whole.step ⟨base + address, machine⟩ ending) :
    ∃ ending', Stops part.step ⟨address, machine⟩ ending' := by
  obtain ⟨count, ends⟩ := ends
  -- By the steps of the whole, which are as many in the part as the part takes itself.
  induction count generalizing address machine with
  | zero => cases ends
  | succ count ih =>
    rw [runSteps_succ] at ends
    cases first : part.step ⟨address, machine⟩ with
    | stopped result => exact ⟨result, (Stops.iff_of_stopped first).mpr rfl⟩
    | running next =>
      have inside : address < part.size := by
        apply Nat.lt_of_not_le
        intro past
        rw [step_of_size_le past] at first
        cases first
      have taken : whole.step ⟨base + address, machine⟩ = _ := embeds.step_eq inside
      rw [taken, first] at ends
      obtain ⟨ending', stops⟩ := ih (contained.address_le first) ends
      exact ⟨ending', (Stops.iff_of_running first).mpr stops⟩

/-- The whole, at the first operation of the part, ends as the part does by a fault, or as it does
from behind the part on what the part has left. -/
theorem stops_iff (embeds : whole.Embeds part base) (contained : part.Contained)
    (machine : Machine σ) (ending : Ending σ) : Stops whole.step ⟨base, machine⟩ ending ↔
      (∃ stopped fault, part.Ends machine ⟨stopped, some fault⟩ ∧
        ending = ⟨stopped, some (fault.relocate base)⟩) ∨
      ∃ middle, part.Ends machine ⟨middle, none⟩ ∧
        Stops whole.step ⟨base + part.size, middle⟩ ending := by
  have within : 0 ≤ part.size := Nat.zero_le _
  constructor
  · intro stops
    obtain ⟨⟨stopped, fault⟩, ends⟩ := embeds.exists_stops contained within stops
    have outcome := (embeds.stops_iff_of_stops contained within ends).mp stops
    cases fault with
    | none => exact .inr ⟨stopped, ends, outcome⟩
    | some error => exact .inl ⟨stopped, error, ends, outcome⟩
  · rintro (⟨stopped, error, ends, rfl⟩ | ⟨middle, ends, stops⟩)
    · exact (embeds.stops_iff_of_stops contained within ends).mpr rfl
    · exact (embeds.stops_iff_of_stops contained within ends).mpr stops

/-- A part with nothing behind it is all that is left to do. -/
theorem stops_iff_of_last (embeds : whole.Embeds part base) (contained : part.Contained)
    (last : whole.size = base + part.size) (machine : Machine σ) (ending : Ending σ) :
    Stops whole.step ⟨base, machine⟩ ending ↔
      ∃ ending', part.Ends machine ending' ∧ ending = ending'.relocate base := by
  have halts : ∀ middle : Machine σ,
      Stops whole.step ⟨base + part.size, middle⟩ ending ↔ ending = ⟨middle, none⟩ := by
    intro middle
    exact Stops.iff_of_stopped (step_of_size_le (Nat.le_of_eq last) middle)
  rw [embeds.stops_iff contained]
  constructor
  · rintro (⟨stopped, error, ends, rfl⟩ | ⟨middle, ends, stops⟩)
    · exact ⟨⟨stopped, some error⟩, ends, rfl⟩
    · exact ⟨⟨middle, none⟩, ends, (halts middle).mp stops⟩
  · rintro ⟨⟨stopped, fault⟩, ends, rfl⟩
    cases fault with
    | none => exact .inr ⟨stopped, ends, (halts stopped).mpr rfl⟩
    | some error => exact .inl ⟨stopped, error, ends, rfl⟩

end Embeds

end

end Program

end TapeMachine
