import TapeMachine.Console.Script
import TapeMachine.Proofs.CompiledRun
import TapeMachine.Proofs.Relocation

/-! # Where a run of a compiled program can stand

Both brackets of a loop lead to the same two addresses: behind the loop over a zero cell, behind its
opening bracket over any other. There is no other jump to either of them, and to arrive from the
bracket just before is to have made the same test. So behind every bracket something is known of the
current cell, however the run has come there.

Loops are apart or one inside the other, so no jump leads into a loop from outside of it: a run
enters by the opening bracket or not at all. Where the cell is known to be zero there, what is inside
the loop is never done.
-/

namespace TapeMachine

namespace Program

variable {program : Program} {start stop first last : Nat}

/-- A loop that opens inside another closes inside it. -/
theorem Partners.stop_lt_of_inside (outer : program.Partners start stop)
    (inner : program.Partners first last) (behind : start < first) (before : first < stop) :
    last < stop := by
  obtain ⟨front, body, back, whole, nested, rfl, rfl⟩ := partners_iff.mp outer
  obtain ⟨front', body', back', whole', nested', rfl, rfl⟩ := partners_iff.mp inner
  have same := whole.symm.trans whole'
  obtain ⟨middle, rfl, later⟩ | ⟨early, rfl, -⟩ := append_cons_cases same
  · obtain ⟨rest, rfl, tail⟩ | ⟨early, rfl, -⟩ := append_cons_cases later.symm
    -- The body nests by itself, so it has a partner for the bracket, and there is only one.
    · obtain ⟨within, rest, rfl, inside⟩ := nested.exists_loopEnd
      have partners : program.Partners (front ++ .loopStart :: middle).length
          ((front ++ .loopStart :: middle).length + 1 + within.length) := by
        refine partners_iff.mpr ⟨front ++ .loopStart :: middle, within, rest ++ .loopEnd :: back,
          ?_, inside, rfl, rfl⟩
        simpa using whole
      rw [inner.stop_unique partners]
      simp only [List.length_append, List.length_cons]
      omega
    · simp only [List.length_append, List.length_cons] at before
      omega
  · rw [List.length_append] at behind
    omega

/-- Loops are the same, apart, or one inside the other. -/
theorem Partners.cases (one : program.Partners start stop) (other : program.Partners first last) :
    (first = start ∧ last = stop) ∨ last < start ∨ stop < first ∨
      (first < start ∧ stop < last) ∨ (start < first ∧ last < stop) := by
  rcases Nat.lt_trichotomy start first with behind | rfl | before
  · rcases Nat.lt_trichotomy first stop with inside | rfl | past
    · exact .inr (.inr (.inr (.inr ⟨behind, one.stop_lt_of_inside other behind inside⟩)))
    · exact absurd one other.not_partners
    · exact .inr (.inr (.inl past))
  · exact .inl ⟨rfl, other.stop_unique one⟩
  · rcases Nat.lt_trichotomy start last with inside | rfl | past
    · exact .inr (.inr (.inr (.inl ⟨before, other.stop_lt_of_inside one before inside⟩)))
    · exact absurd other one.not_partners
    · exact .inr (.inl past)

section

variable {σ : Type} [Console σ] {machine : Machine σ} {configuration next : Configuration σ}
  {address : Nat}

/-- From either bracket of a loop a run goes on behind the loop or behind its opening bracket. -/
theorem Linked.step_of_bracket (linked : program.Linked) (partners : program.Partners first last)
    (bracket : address = first ∨ address = last) (machine : Machine σ) :
    program.step ⟨address, machine⟩ =
      .running ⟨if machine.tape.load = 0 then last + 1 else first + 1, machine.tick⟩ := by
  obtain ⟨opens, closes⟩ := linked.jumps first last partners
  rcases bracket with rfl | rfl
  · rw [step_of_fetch? opens]
    rfl
  · rw [step_of_fetch? closes]
    rfl

/-- A step goes on behind an action, or from a bracket to what the current cell decides. -/
theorem Linked.step_cases (linked : program.Linked)
    (goes : program.step ⟨address, machine⟩ = .running next) :
    (∃ action count, program.fetch? address = some (.perform action count) ∧
      next.address = address + 1) ∨
    ∃ first last, program.Partners first last ∧ (address = first ∨ address = last) ∧
      next = ⟨if machine.tape.load = 0 then last + 1 else first + 1, machine.tick⟩ := by
  cases found : program.fetch? address with
  | none =>
    rw [step_of_fetch?_eq_none found] at goes
    cases goes
  | some operation =>
    cases operation with
    | perform action count =>
      rw [step_of_fetch? found, Machine.dispatch_perform] at goes
      generalize machine.tick.perform address action count = ending at goes
      obtain ⟨after, fault⟩ := ending
      cases fault <;> cases goes
      exact .inl ⟨action, count, rfl, rfl⟩
    | jumpIfZero target =>
      obtain ⟨last, partners, -⟩ := linked.exists_partner_of_jumpIfZero found
      rw [linked.step_of_bracket partners (.inl rfl)] at goes
      cases goes
      exact .inr ⟨address, last, partners, .inl rfl, rfl⟩
    | jumpIfNonzero target =>
      obtain ⟨first, partners, -⟩ := linked.exists_partner_of_jumpIfNonzero found
      rw [linked.step_of_bracket partners (.inr rfl)] at goes
      cases goes
      exact .inr ⟨first, address, partners, .inr rfl, rfl⟩

end

end Program

/-- What is known of a run by where it stands: it has not gone past the end of the program, and
behind a bracket the current cell is as that bracket lets a run go on. -/
structure Configuration.Guarded {σ : Type} (program : Program) (configuration : Configuration σ) :
    Prop where
  address_le : configuration.address ≤ program.size
  zero : ∀ before target, configuration.address = before + 1 →
    program.fetch? before = some (.jumpIfNonzero target) → configuration.machine.tape.load = 0
  nonzero : ∀ before target, configuration.address = before + 1 →
    program.fetch? before = some (.jumpIfZero target) → configuration.machine.tape.load ≠ 0

namespace Program

variable {program : Program} {start stop : Nat}

section

variable {σ : Type} [Console σ] {machine : Machine σ} {configuration next : Configuration σ}
  {count : Nat}

/-- One step is enough to know, wherever it starts. -/
theorem Linked.guarded_of_step (linked : program.Linked)
    (goes : program.step configuration = .running next) : next.Guarded program := by
  have bound := linked.contained.address_le goes
  obtain ⟨action, count, found, behind⟩ | ⟨first, last, partners, -, rfl⟩ := linked.step_cases goes
  · refine ⟨bound, ?_, ?_⟩
    · intro before target here jumps
      obtain rfl : before = configuration.address := by omega
      rw [found] at jumps
      cases jumps
    · intro before target here jumps
      obtain rfl : before = configuration.address := by omega
      rw [found] at jumps
      cases jumps
  · obtain ⟨opens, closes⟩ := linked.jumps first last partners
    by_cases zero : configuration.machine.tape.load = 0
    · refine ⟨bound, fun _ _ _ _ => zero, ?_⟩
      intro before target here jumps
      obtain rfl : last = before := by simpa [zero] using here
      rw [closes] at jumps
      cases jumps
    · refine ⟨bound, ?_, fun _ _ _ _ => zero⟩
      intro before target here jumps
      obtain rfl : first = before := by simpa [zero] using here
      rw [opens] at jumps
      cases jumps

/-- Every configuration of a run is guarded. -/
theorem Linked.guarded_of_runFor (linked : program.Linked)
    (runs : program.runFor count machine = .running configuration) :
    configuration.Guarded program := by
  have begins : Configuration.Guarded program ⟨0, machine⟩ :=
    ⟨Nat.zero_le _, nofun, nofun⟩
  exact holds_of_runSteps (fun _ _ _ goes => linked.guarded_of_step goes) begins runs

/-- The run stands at the opening bracket of a loop or outside of the loop. -/
def Outside (start stop : Nat) (configuration : Configuration σ) : Prop :=
  configuration.address ≤ start ∨ stop < configuration.address

/-- A loop can be entered by its opening bracket only, over a cell that is not zero. -/
theorem Linked.outside_of_step (linked : program.Linked) (partners : program.Partners start stop)
    (outside : Outside start stop configuration)
    (zero : configuration.address = start → configuration.machine.tape.load = 0)
    (goes : program.step configuration = .running next) : Outside start stop next := by
  obtain ⟨address, machine⟩ := configuration
  rw [Outside] at outside ⊢
  dsimp only at outside zero
  have width := partners.start_lt_stop
  obtain ⟨action, count, found, behind⟩ | ⟨first, last, other, bracket, rfl⟩ :=
    linked.step_cases goes
  · have apart : address ≠ start := by
      rintro rfl
      have opens := partners.opens
      rw [found] at opens
      cases opens
    omega
  · have bounds := other.start_lt_stop
    dsimp only
    obtain ⟨rfl, rfl⟩ | related := partners.cases other
    -- At this very loop the cell decides for the way around it.
    · have here : address = first := by omega
      rw [if_pos (zero here)]
      exact .inr (Nat.lt_succ_self last)
    · split <;> omega

/-- If the cell is zero whenever the run stands at the opening bracket, the run never gets into the
loop. -/
theorem Linked.outside_of_runFor (linked : program.Linked) (partners : program.Partners start stop)
    (first : start = 0 → machine.tape.load = 0)
    (later : ∀ before after : Configuration σ, program.step before = .running after →
      after.address = start → after.machine.tape.load = 0)
    (runs : program.runFor count machine = .running configuration) :
    Outside start stop configuration := by
  let holds (state : Configuration σ) : Prop :=
    Outside start stop state ∧ (state.address = start → state.machine.tape.load = 0)
  have begins : holds ⟨0, machine⟩ := ⟨.inl (Nat.zero_le start), fun here => first here.symm⟩
  have keeps : ∀ state next, holds state → program.step state = .running next → holds next :=
    fun state next held goes =>
      ⟨linked.outside_of_step partners held.1 held.2 goes, later state next goes⟩
  exact (holds_of_runSteps keeps begins runs).1

/-- A loop behind a closing bracket is never entered. -/
theorem Linked.outside_of_jumpIfNonzero (linked : program.Linked) {before target : Nat}
    (found : program.fetch? before = some (.jumpIfNonzero target))
    (partners : program.Partners (before + 1) stop)
    (runs : program.runFor count machine = .running configuration) :
    Outside (before + 1) stop configuration := by
  apply linked.outside_of_runFor partners nofun _ runs
  intro _ after goes here
  exact (linked.guarded_of_step goes).zero before target here found

/-- Over a zero cell a loop at the beginning is never entered, since no run gets back there. -/
theorem Linked.outside_of_start (linked : program.Linked) (zero : machine.tape.load = 0)
    (partners : program.Partners 0 stop)
    (runs : program.runFor count machine = .running configuration) :
    Outside 0 stop configuration := by
  apply linked.outside_of_runFor partners (fun _ => zero) _ runs
  intro _ after goes here
  obtain ⟨action, count, -, behind⟩ | ⟨first, last, -, -, rfl⟩ := linked.step_cases goes
  · omega
  · dsimp only at here
    split at here <;> omega

/-- A run succeeds at the end of the program only. -/
theorem Linked.exists_running_size (linked : program.Linked) {halted : Machine σ}
    (stops : program.runFor count machine = .stopped ⟨halted, none⟩) :
    ∃ moment < count, program.runFor moment machine = .running ⟨program.size, halted⟩ := by
  obtain ⟨moment, early, ⟨address, reached⟩, runs, last⟩ := exists_running_of_stopped stops
  have within := (linked.guarded_of_runFor runs).address_le
  cases found : program.fetch? address with
  | none =>
    rw [step_of_fetch?_eq_none found] at last
    cases last
    obtain rfl := Nat.le_antisymm within (fetch?_eq_none_iff.mp found)
    exact ⟨moment, early, runs⟩
  | some operation =>
    rw [step_of_fetch? found] at last
    obtain ⟨fault, faulty⟩ := Machine.exists_fault_of_dispatch last
    cases faulty

end

/-- A last symbol that closes a loop is the last operation. -/
theorem Spells.exists_fetch?_of_getLast? {source : Source} (spells : program.Spells source)
    (last : source.symbols.getLast? = some .loopEnd) :
    ∃ address target, program.size = address + 1 ∧
      program.fetch? address = some (.jumpIfNonzero target) := by
  obtain ⟨before, spelled⟩ := List.getLast?_eq_some_iff.mp last
  rw [← spells.symbols] at spelled
  obtain ⟨address, left⟩ := exists_symbolsFrom_eq spelled nofun
  obtain ⟨operation, found, kind⟩ := exists_fetch?_of_symbolsFrom spells.counted left
  cases operation <;> cases kind
  rename_i target
  rw [symbolsFrom_of_fetch? found] at left
  have behind : program.symbolsFrom (address + 1) = [] := (List.cons.inj left).2
  refine ⟨address, target, ?_, found⟩
  exact Nat.le_antisymm (size_le_of_symbolsFrom_eq_nil spells.counted behind)
    (lt_size_of_fetch? found)

/-- Where a loop follows another in the source, comments aside, it does so in the program. -/
theorem Spells.exists_partners_of_behind {source front comments back : Source}
    (spells : program.Spells source)
    (split : source =
      front ++ Symbol.loopEnd.toByte :: (comments ++ Symbol.loopStart.toByte :: back))
    (silent : comments.symbols = []) :
    ∃ before target stop, program.fetch? before = some (.jumpIfNonzero target) ∧
      program.Partners (before + 1) stop ∧
        program.symbolsFrom (before + 1) = .loopStart :: back.symbols := by
  have spelled : program.symbols = front.symbols ++ .loopEnd :: .loopStart :: back.symbols := by
    rw [spells.symbols, split, Source.symbols_append, Source.symbols_toByte_cons,
      Source.symbols_append, silent, Source.symbols_toByte_cons, List.nil_append]
  obtain ⟨before, left⟩ := exists_symbolsFrom_eq spelled nofun
  obtain ⟨closing, found, closes⟩ := exists_fetch?_of_symbolsFrom spells.counted left
  cases closing <;> cases closes
  rename_i target
  rw [symbolsFrom_of_fetch? found] at left
  have behind : program.symbolsFrom (before + 1) = .loopStart :: back.symbols :=
    (List.cons.inj left).2
  obtain ⟨opening, found', opens⟩ := exists_fetch?_of_symbolsFrom spells.counted behind
  cases opening <;> cases opens
  obtain ⟨stop, partners, -⟩ := spells.linked.exists_partner_of_jumpIfZero found'
  exact ⟨before, target, stop, found, partners, behind⟩

/-- A first symbol that opens a loop is the first operation. -/
theorem Spells.exists_partners_of_head? {source : Source} (spells : program.Spells source)
    (first : source.symbols.head? = some .loopStart) : ∃ stop, program.Partners 0 stop := by
  obtain ⟨rest, spelled⟩ := List.head?_eq_some_iff.mp first
  rw [← spells.symbols, ← symbolsFrom_zero] at spelled
  obtain ⟨opening, found, opens⟩ := exists_fetch?_of_symbolsFrom spells.counted spelled
  cases opening <;> cases opens
  obtain ⟨stop, partners, -⟩ := spells.linked.exists_partner_of_jumpIfZero found
  exact ⟨stop, partners⟩

end Program

open Program

/-- Where the program of a source can stand when it runs on a machine. -/
structure Controlled {σ : Type} [Console σ] (source : Source) (program : Program)
    (machine : Machine σ) : Prop where
  guarded : ∀ count configuration, program.runFor count machine = .running configuration →
    configuration.Guarded program
  /-- The run succeeds at the first address past the program and nowhere else. -/
  halts : ∀ count halted, program.runFor count machine = .stopped ⟨halted, none⟩ →
    ∃ moment < count, program.runFor moment machine = .running ⟨program.size, halted⟩
  /-- A program that ends with a loop ends on a zero cell. -/
  last : source.symbols.getLast? = some .loopEnd →
    ∀ halted, program.Ends machine ⟨halted, none⟩ → halted.tape.load = 0
  /-- A loop that opens behind a closing bracket, comments aside, is never entered. -/
  behind : ∀ front comments back : Source, source =
      front ++ Symbol.loopEnd.toByte :: (comments ++ Symbol.loopStart.toByte :: back) →
    comments.symbols = [] → ∃ start stop, program.Partners start stop ∧
      program.symbolsFrom start = .loopStart :: back.symbols ∧
        ∀ count configuration, program.runFor count machine = .running configuration →
          Outside start stop configuration
  /-- On a blank tape a loop at the very beginning is never entered. -/
  first : source.symbols.head? = some .loopStart → machine.tape = .blank →
    ∃ stop, program.Partners 0 stop ∧
      ∀ count configuration, program.runFor count machine = .running configuration →
        Outside 0 stop configuration

/-- However a run of a compiled program comes to an address, it is known what the bracket before
that address says of the current cell, and some loops are never entered for that reason. -/
theorem compile_controlled {σ : Type} [Console σ] {source : Source} {program : Program}
    (compiled : compile source = .ok program) (machine : Machine σ) :
    Controlled source program machine := by
  have formed := wellFormed_of_compile compiled
  have spells : program.Spells source := formed.spells (symbols_of_compile compiled)
  have linked := formed.linked
  refine ⟨fun _ _ => linked.guarded_of_runFor, fun _ _ => linked.exists_running_size, ?_, ?_, ?_⟩
  · rintro closes halted ⟨count, stops⟩
    obtain ⟨before, target, size, found⟩ := spells.exists_fetch?_of_getLast? closes
    obtain ⟨moment, -, runs⟩ := linked.exists_running_size stops
    exact (linked.guarded_of_runFor runs).zero before target size found
  · intro front comments back split silent
    obtain ⟨before, target, stop, found, partners, left⟩ :=
      spells.exists_partners_of_behind split silent
    exact ⟨before + 1, stop, partners, left,
      fun _ _ => linked.outside_of_jumpIfNonzero found partners⟩
  · intro opens fresh
    have zero : machine.tape.load = 0 := by rw [fresh]; rfl
    obtain ⟨stop, partners⟩ := spells.exists_partners_of_head? opens
    exact ⟨stop, partners, fun _ _ => linked.outside_of_start zero partners⟩

/-- Moves what is read to the next cell; the loops at the beginning and behind the first one that is
entered never run. -/
def moveInput : Source :=
  ['[', '.', ']', ',', '[', '-', '>', '+', '<', ']', ' ', '[', '>', ']'].map Char.toUInt8

/-- What `moveInput` compiles to. -/
def moveInputCode : Program :=
  ⟨#[.jumpIfZero 3, .perform .output 1, .jumpIfNonzero 1, .perform .input 1, .jumpIfZero 10,
    .perform .decrement 1, .perform .moveRight 1, .perform .increment 1, .perform .moveLeft 1,
    .jumpIfNonzero 5, .jumpIfZero 13, .perform .moveRight 1, .jumpIfNonzero 11]⟩

theorem compile_controlled_moveInput :
    compile moveInput = .ok moveInputCode ∧
      Controlled moveInput moveInputCode (Machine.fresh (Script.ofLines [[2]])) :=
  ⟨rfl, compile_controlled rfl _⟩

end TapeMachine
