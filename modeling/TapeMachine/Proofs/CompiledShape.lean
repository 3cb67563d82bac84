import TapeMachine.Proofs.Folding

/-! # The shape of compiled programs

Every program that the compiler makes is well-formed: its brackets nest, its runs are as long as
they can be, and each jump leads to the address behind its partner. No jump is left without a
target, none leads outside the program or its end, and no two lead to one address.
-/

namespace TapeMachine

namespace Program

variable {program : Program}

theorem getElem?_outline_eq_perform_iff {address count : Nat} {action : Action} :
    program.outline[address]? = some (.perform action count) ↔
      program.fetch? address = some (.perform action count) := by
  have here : program.outline[address]? = (program.fetch? address).map Operation.untargeted := by
    simp [outline, fetch?]
  rw [here]
  constructor
  · intro found
    obtain ⟨operation, fetched, same⟩ := Option.map_eq_some_iff.mp found
    cases operation <;> cases same
    exact fetched
  · intro fetched
    rw [fetched]
    rfl

theorem WellFormed.folded_operations (formed : program.WellFormed) :
    Folded program.operations.toList := by
  apply Folded.of_getElem?
  · intro address action count found
    exact formed.counted address action count (by simpa [fetch?] using found)
  · intro address action first second found next
    exact formed.folded address action first second (by simpa [fetch?] using found)
      (by simpa [fetch?] using next)

end Program

open Program

variable {source : Source} {program : Program}

/-- The compiler makes well-formed programs only. -/
theorem wellFormed_of_compile (compiled : compile source = .ok program) : program.WellFormed := by
  have coherent := coherent_of_compile compiled
  have folded : Folded program.outline := by
    rw [outline_of_compile compiled]
    exact Token.folded_fold source.located
  refine ⟨?_, coherent.jumps, ?_, ?_⟩
  · rw [kinds_all]
    simpa using coherent.unclosed.nested
  · intro address action count found
    exact folded.counted (getElem?_outline_eq_perform_iff.mpr found)
  · intro address action first second found next
    exact folded.ends (getElem?_outline_eq_perform_iff.mpr found)
      (getElem?_outline_eq_perform_iff.mpr next)

/-- A compiled program is well-formed, each of its jumps leads behind the partner and so to an
address from one to the end of the program, and no two of its jumps lead to one address. -/
theorem compile_shape (compiled : compile source = .ok program) :
    program.WellFormed ∧
      (∀ address target, (program.fetch? address).bind Operation.jumpTarget? = some target →
        1 ≤ target ∧ target ≤ program.size ∧
          ∃ partner, (program.Partners address partner ∨ program.Partners partner address) ∧
            target = partner + 1) ∧
      ∀ first second target, (program.fetch? first).bind Operation.jumpTarget? = some target →
        (program.fetch? second).bind Operation.jumpTarget? = some target → first = second := by
  have formed := wellFormed_of_compile compiled
  refine ⟨formed, ?_, fun first second target => formed.address_unique⟩
  intro address target jumps
  obtain ⟨operation, found, leads⟩ := Option.bind_eq_some_iff.mp jumps
  obtain ⟨partner, partners, rfl⟩ := formed.exists_partner found leads
  refine ⟨by omega, ?_, partner, partners, rfl⟩
  rcases partners with partners | partners
  · exact partners.stop_lt_size
  · have bound := partners.stop_lt_size
    have before := partners.start_lt_stop
    omega

/-- A loop inside a loop, with a comment inside a run. -/
def nestedLoops : Source :=
  ['+', '[', '>', ' ', '>', '[', '-', ']', '<', ']', '.'].map Char.toUInt8

/-- What `nestedLoops` compiles to. -/
def nestedLoopsCode : Program :=
  ⟨#[.perform .increment 1, .jumpIfZero 8, .perform .moveRight 2, .jumpIfZero 6,
    .perform .decrement 1, .jumpIfNonzero 4, .perform .moveLeft 1, .jumpIfNonzero 2,
    .perform .output 1]⟩

theorem compile_shape_nestedLoops :
    compile nestedLoops = .ok nestedLoopsCode ∧ nestedLoopsCode.WellFormed ∧
      (∀ address target, (nestedLoopsCode.fetch? address).bind Operation.jumpTarget? = some target →
        1 ≤ target ∧ target ≤ nestedLoopsCode.size ∧
          ∃ partner, (nestedLoopsCode.Partners address partner ∨
            nestedLoopsCode.Partners partner address) ∧ target = partner + 1) ∧
      ∀ first second target,
        (nestedLoopsCode.fetch? first).bind Operation.jumpTarget? = some target →
          (nestedLoopsCode.fetch? second).bind Operation.jumpTarget? = some target →
            first = second := by
  have compiled : compile nestedLoops = .ok nestedLoopsCode := rfl
  exact ⟨compiled, compile_shape compiled⟩

end TapeMachine
