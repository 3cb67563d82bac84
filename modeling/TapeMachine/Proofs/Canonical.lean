import TapeMachine.Proofs.CompiledShape
import TapeMachine.Proofs.Diagnosis

/-! # Programs as canonical forms of sources

A program spells out the symbols of the source it was compiled from, and a well-formed program is
what any text of its symbols compiles to. So well-formed programs and nested sequences of symbols
correspond one to one, and a source has no more in it for the compiler than its symbols.
-/

namespace TapeMachine

open Program

variable {source : Source} {program : Program}

theorem Token.symbols_operation (token : Token) : token.operation.symbols = token.symbols := by
  cases token <;> rfl

theorem Nested.replicate_append (action : Action) (count : Nat) {rest : List Symbol}
    (nested : Nested rest) : Nested (List.replicate count (.act action) ++ rest) := by
  induction count with
  | zero => exact nested
  | succ count ih => exact .act action ih

/-- Nesting does not depend on how often an action is done. -/
theorem Nested.flatMap_symbols {operations : List Operation}
    (nested : Nested (operations.map Operation.symbol)) :
    Nested (operations.flatMap Operation.symbols) := by
  generalize kinds : operations.map Operation.symbol = symbols at nested
  induction nested generalizing operations with
  | nil =>
    obtain rfl := List.map_eq_nil_iff.mp kinds
    exact .nil
  | act action _ ih =>
    obtain ⟨operation, rest, rfl, kind, behind⟩ := List.map_eq_cons_iff.mp kinds
    cases operation <;> cases kind
    exact (ih behind).replicate_append action _
  | loop _ _ ihInner ihRest =>
    obtain ⟨opening, following, rfl, opens, behind⟩ := List.map_eq_cons_iff.mp kinds
    obtain ⟨inner, outer, rfl, within, beyond⟩ := List.map_eq_append_iff.mp behind
    obtain ⟨closing, rest, rfl, closes, after⟩ := List.map_eq_cons_iff.mp beyond
    cases opening <;> cases opens
    cases closing <;> cases closes
    simpa [Operation.symbols] using Nested.loop (ihInner within) (ihRest after)

/-- Compiling loses and invents nothing. -/
theorem symbols_of_compile (compiled : compile source = .ok program) :
    program.symbols = source.symbols := by
  calc
    program.symbols = program.outline.flatMap Operation.symbols := program.flatMap_outline.symm
    _ = (Token.ofSource source).flatMap Token.symbols := by
      simp [outline_of_compile compiled, List.flatMap_map, Token.symbols_operation]
    _ = source.symbols := by
      rw [Token.ofSource, Token.symbols_fold, Source.located, Source.map_symbol_locatedFrom]

/-- Counting says of a source what nesting says of its symbols. -/
theorem Source.nested_of_balanced (balanced : source.Balanced) : Nested source.symbols := by
  obtain ⟨program, compiled⟩ := (exists_compile_iff source).mpr balanced
  rw [← symbols_of_compile compiled]
  exact (wellFormed_of_compile compiled).nested_shape.flatMap_symbols

/-- A well-formed program is what every text of its symbols compiles to. -/
theorem compile_of_wellFormed (formed : program.WellFormed)
    (spelled : source.symbols = program.symbols) : compile source = .ok program := by
  have nested : Nested source.symbols := by
    rw [spelled]
    exact formed.nested_shape.flatMap_symbols
  obtain ⟨compiled, success⟩ := (exists_compile_iff source).mpr (Source.balanced_of_nested nested)
  have read : source.located.map Located.symbol =
      program.operations.toList.flatMap Operation.symbols := by
    rw [Source.located, Source.map_symbol_locatedFrom, spelled]
    rfl
  have same : compiled.outline = program.outline := by
    rw [outline_of_compile success]
    exact Token.map_operation_fold formed.folded_operations read
  rw [success, (wellFormed_of_compile success).eq_of_outline_eq formed same]

/-- The compiler reads symbols, and the program it makes of them is their canonical form: the
program spells out the symbols that scanning the source yields; a well-formed program written out,
with other bytes anywhere between, compiles to itself; and so two programs are equal exactly if their
sources have the same symbols. -/
theorem compile_canonical :
    (∀ source program, compile source = .ok program →
      program.symbols = ((Scanner.ofSource source).collect #[]).1.toList.map Located.symbol) ∧
    (∀ program : Program, program.WellFormed → ∀ text : Source,
      text.filter (fun byte => (Symbol.ofByte? byte).isSome) = program.symbols.map Symbol.toByte →
        compile text = .ok program) ∧
    ∀ first second program other, compile first = .ok program → compile second = .ok other →
      (program = other ↔
        ((Scanner.ofSource first).collect #[]).1.toList.map Located.symbol =
          ((Scanner.ofSource second).collect #[]).1.toList.map Located.symbol) := by
  have scanned : ∀ source : Source,
      ((Scanner.ofSource source).collect #[]).1.toList.map Located.symbol = source.symbols := by
    intro source
    rw [Scanner.toList_collect_ofSource, Source.located, Source.map_symbol_locatedFrom]
  refine ⟨?_, ?_, ?_⟩
  · intro source program compiled
    rw [scanned, symbols_of_compile compiled]
  · intro program formed text written
    apply compile_of_wellFormed formed
    rw [Source.filter_isSome_ofByte?] at written
    exact (List.map_inj_right fun _ _ => Symbol.eq_of_toByte_eq).mp written
  · intro first second program other compiled compiled'
    rw [scanned, scanned]
    constructor
    · rintro rfl
      rw [← symbols_of_compile compiled, ← symbols_of_compile compiled']
    · intro same
      rw [← symbols_of_compile compiled] at same
      have again := compile_of_wellFormed (wellFormed_of_compile compiled) same.symm
      rw [compiled'] at again
      cases again
      rfl

end TapeMachine
