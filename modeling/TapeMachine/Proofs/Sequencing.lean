import TapeMachine.Proofs.CompiledRun
import TapeMachine.Proofs.Linking

/-! # Sources one after the other

What two sources compile to is run in turn by what their concatenation compiles to. Where the run of
actions that ends the first source goes on in the second, one operation does both parts of it: a
fault may then find the head elsewhere, and names another operation. Everywhere else the program of
the whole consists of the two programs, and it ends exactly as they do.

That nothing else can be observed is proved without a look at the fused run. The two programs put
together spell the whole source, folded or not, so they and the compiled program both do what it
says.
-/

namespace TapeMachine

variable {σ : Type} {first second source : Source} {program next : Program}

@[simp] theorem Ending.observe_relocate (offset : Nat) (ending : Ending σ) :
    (ending.relocate offset).observe = ending.observe := by
  obtain ⟨machine, fault⟩ := ending
  cases fault with
  | none => rfl
  | some error => cases error <;> rfl

/-- Direct reading leaves no choice of what is observed. -/
theorem Ending.Matches.observe_eq {one other : Ending σ} {stop : Direct.Stop σ}
    (matched : one.Matches stop) (matched' : other.Matches stop) :
    one.observe = other.observe := by
  have console := matched.console.trans matched'.console.symm
  have cells := matched.cells.trans matched'.cells.symm
  have kind := matched.fault.trans matched'.fault.symm
  obtain ⟨machine, fault⟩ := one
  obtain ⟨machine', fault'⟩ := other
  cases fault with
  | none =>
    obtain rfl : fault' = none := Option.map_eq_none_iff.mp kind.symm
    have tape := (matched.tape rfl).trans (matched'.tape rfl).symm
    simp only [observe, Observation.mk.injEq, Except.ok.injEq]
    exact ⟨console, cells, congrArg Tape.head tape⟩
  | some error =>
    obtain ⟨error', rfl, same⟩ := Option.map_eq_some_iff.mp kind.symm
    simp only [observe, Observation.mk.injEq, Except.error.injEq]
    exact ⟨console, cells, same.symm⟩

namespace Program

/-- The run of one program, and if it succeeds that of another on what it leaves. -/
inductive EndsInTurn [Console σ] (program next : Program) (machine : Machine σ) :
    Ending σ → Prop where
  | fails {stopped : Machine σ} {fault : ExecutionError}
    (ends : program.Ends machine ⟨stopped, some fault⟩) :
    EndsInTurn program next machine ⟨stopped, some fault⟩
  | succeeds {middle : Machine σ} {ending : Ending σ} (ends : program.Ends machine ⟨middle, none⟩)
    (follows : next.Ends middle ending) : EndsInTurn program next machine ending

section

variable [Console σ] {machine : Machine σ}

/-- A program with another behind it ends as the first does by a fault, or as the second does on
what the first has left. -/
theorem ends_followedBy_iff (linked : program.Linked) (linked' : next.Linked)
    {ending : Ending σ} : (program.followedBy next).Ends machine ending ↔
      (∃ stopped fault, program.Ends machine ⟨stopped, some fault⟩ ∧
        ending = ⟨stopped, some fault⟩) ∨
      ∃ middle last, program.Ends machine ⟨middle, none⟩ ∧ next.Ends middle last ∧
        ending = last.relocate program.size := by
  have left :=
    (embeds_followedBy_left program next).stops_iff linked.contained machine ending
  have right := fun middle => (embeds_followedBy_right program next).stops_iff_of_last
    linked'.contained (size_followedBy program next) middle ending
  rw [Nat.zero_add] at left
  simp only [ExecutionError.relocate_zero, right, ← exists_and_left] at left
  exact left

theorem exists_ends_followedBy_iff (linked : program.Linked) (linked' : next.Linked)
    {seen : Observation σ} :
    (∃ ending, (program.followedBy next).Ends machine ending ∧ ending.observe = seen) ↔
      ∃ ending, EndsInTurn program next machine ending ∧ ending.observe = seen := by
  constructor
  · rintro ⟨ending, joined, rfl⟩
    obtain ⟨stopped, fault, ends, rfl⟩ | ⟨middle, last, ends, follows, rfl⟩ :=
      (ends_followedBy_iff linked linked').mp joined
    · exact ⟨_, .fails ends, rfl⟩
    · exact ⟨last, .succeeds ends follows, (last.observe_relocate program.size).symm⟩
  · rintro ⟨ending, ends, rfl⟩
    cases ends with
    | @fails stopped fault ends =>
      exact ⟨_, (ends_followedBy_iff linked linked').mpr (.inl ⟨stopped, fault, ends, rfl⟩), rfl⟩
    | @succeeds middle _ ends follows =>
      exact ⟨_, (ends_followedBy_iff linked linked').mpr
        (.inr ⟨middle, ending, ends, follows, rfl⟩), ending.observe_relocate program.size⟩

end

namespace Spells

theorem followedBy (spells : program.Spells first) (spells' : next.Spells second) :
    (program.followedBy next).Spells (first ++ second) where
  linked := spells.linked.followedBy spells'.linked
  counted := counted_followedBy spells.counted spells'.counted
  symbols := by
    rw [symbols_followedBy, spells.symbols, spells'.symbols, Source.symbols_append]

theorem exists_compile (spells : program.Spells source) :
    ∃ compiled, compile source = .ok compiled := by
  have nested : Nested program.symbols := spells.linked.nested.flatMap_symbols
  rw [spells.symbols] at nested
  exact (exists_compile_iff source).mpr (Source.balanced_of_nested nested)

variable [Console σ] {machine : Machine σ}

theorem exists_observe_eq (spells : program.Spells source) (spells' : next.Spells source)
    {ending : Ending σ} (ends : program.Ends machine ending) :
    ∃ ending', next.Ends machine ending' ∧ ending'.observe = ending.observe := by
  obtain ⟨count, ends⟩ := ends
  obtain ⟨more, stop, reads, matched⟩ := spells.simulates.exists_stopped
    (Configuration.Follows.start spells.symbols machine) ends
  obtain ⟨ending', ends', matched'⟩ := spells'.simulates.exists_of_stopped
    (Configuration.Follows.start spells'.symbols machine) reads
  exact ⟨ending', ⟨more, ends'⟩, matched'.observe_eq matched⟩

/-- Programs that spell one source cannot be told apart. -/
theorem exists_ends_iff (spells : program.Spells source) (spells' : next.Spells source)
    {seen : Observation σ} : (∃ ending, program.Ends machine ending ∧ ending.observe = seen) ↔
      ∃ ending, next.Ends machine ending ∧ ending.observe = seen := by
  constructor
  · rintro ⟨ending, ends, rfl⟩
    exact spells.exists_observe_eq spells' ends
  · rintro ⟨ending, ends, rfl⟩
    exact spells'.exists_observe_eq spells ends

end Spells

end Program

open Program

theorem spells_of_compile (compiled : compile source = .ok program) : program.Spells source :=
  (wellFormed_of_compile compiled).spells (symbols_of_compile compiled)

/-- The run of actions that ends one source goes on in another. -/
def Source.Fuses (first second : Source) : Prop :=
  ∃ action, first.symbols.getLast? = some (.act action) ∧
    second.symbols.head? = some (.act action)

/-- Where no run goes on from one source into the next, neither does one from program to program. -/
theorem compile_append_of_not_fuses (compiled : compile first = .ok program)
    (compiled' : compile second = .ok next) (apart : ¬ first.Fuses second) :
    compile (first ++ second) = .ok (program.followedBy next) := by
  have spells := (spells_of_compile compiled).followedBy (spells_of_compile compiled')
  refine compile_of_wellFormed ?_ spells.symbols.symm
  apply (wellFormed_of_compile compiled).followedBy (wellFormed_of_compile compiled')
  intro action last head
  rw [symbols_of_compile compiled] at last
  rw [symbols_of_compile compiled'] at head
  exact apart ⟨action, last, head⟩

/-- Two sources that compile do so together, and what is observed of their program is what is
observed of the two programs run in turn. Unless a run goes on from one source into the next, the
program of the whole is the two programs with the jumps of the second led behind the first, and it
ends exactly as they do in turn, only that a fault in the second names an operation that much
further. -/
theorem compile_append (compiled : compile first = .ok program)
    (compiled' : compile second = .ok next) :
    ∃ whole, compile (first ++ second) = .ok whole ∧
      (∀ (σ : Type) [Console σ] (machine : Machine σ) (seen : Observation σ),
        (∃ ending, whole.Ends machine ending ∧ ending.observe = seen) ↔
          ∃ ending, EndsInTurn program next machine ending ∧ ending.observe = seen) ∧
      (¬ first.Fuses second → whole = program.followedBy next ∧
        ∀ (σ : Type) [Console σ] (machine : Machine σ) (ending : Ending σ),
          whole.Ends machine ending ↔
            (∃ stopped fault, program.Ends machine ⟨stopped, some fault⟩ ∧
              ending = ⟨stopped, some fault⟩) ∨
            ∃ middle last, program.Ends machine ⟨middle, none⟩ ∧ next.Ends middle last ∧
              ending = last.relocate program.size) := by
  have spells := spells_of_compile compiled
  have spells' := spells_of_compile compiled'
  have joined := spells.followedBy spells'
  obtain ⟨whole, success⟩ := joined.exists_compile
  refine ⟨whole, success, ?_, ?_⟩
  -- The fused program and the two put together spell the same source.
  · intro σ _ machine seen
    rw [(spells_of_compile success).exists_ends_iff joined]
    exact exists_ends_followedBy_iff spells.linked spells'.linked
  · intro apart
    rw [compile_append_of_not_fuses compiled compiled' apart] at success
    cases success
    exact ⟨rfl, fun σ _ machine ending => ends_followedBy_iff spells.linked spells'.linked⟩

/-- Reads a line into each of two cells. -/
def readPair : Source :=
  [',', '>', ','].map Char.toUInt8

/-- What `readPair` compiles to. -/
def readPairCode : Program :=
  ⟨#[.perform .input 1, .perform .moveRight 1, .perform .input 1]⟩

/-- Adds the current cell to the one on its left. -/
def addLeft : Source :=
  ['[', '-', '<', '+', '>', ']'].map Char.toUInt8

/-- What `addLeft` compiles to. -/
def addLeftCode : Program :=
  ⟨#[.jumpIfZero 6, .perform .decrement 1, .perform .moveLeft 1, .perform .increment 1,
    .perform .moveRight 1, .jumpIfNonzero 1]⟩

theorem compile_append_readPair_addLeft :
    compile readPair = .ok readPairCode ∧ compile addLeft = .ok addLeftCode ∧
      ¬ readPair.Fuses addLeft ∧ compile (readPair ++ addLeft) =
        .ok ⟨#[.perform .input 1, .perform .moveRight 1, .perform .input 1, .jumpIfZero 9,
          .perform .decrement 1, .perform .moveLeft 1, .perform .increment 1,
          .perform .moveRight 1, .jumpIfNonzero 4]⟩ := by
  have compiled : compile readPair = .ok readPairCode := rfl
  have compiled' : compile addLeft = .ok addLeftCode := rfl
  have apart : ¬ readPair.Fuses addLeft := by
    rintro ⟨action, -, head⟩
    cases head
  obtain ⟨whole, success, -, separate⟩ := compile_append compiled compiled'
  obtain ⟨rfl, -⟩ := separate apart
  refine ⟨compiled, compiled', apart, ?_⟩
  rw [success]
  simp [followedBy, readPairCode, addLeftCode, Program.size, Operation.relocate]

end TapeMachine
