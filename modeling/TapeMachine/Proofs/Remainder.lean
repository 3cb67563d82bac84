import TapeMachine.Proofs.Canonical

/-! # What a program has still to do

A run at an address has the symbols from there to the end of the program before it. At a bracket
they name the whole loop: what stands between the two brackets nests.
-/

namespace TapeMachine

theorem Operation.symbols_of_loopStart {operation : Operation}
    (kind : operation.symbol = .loopStart) : operation.symbols = [.loopStart] := by
  cases operation <;> cases kind
  rfl

theorem Operation.symbols_of_loopEnd {operation : Operation} (kind : operation.symbol = .loopEnd) :
    operation.symbols = [.loopEnd] := by
  cases operation <;> cases kind
  rfl

namespace Program

variable {program : Program} {address start stop : Nat}

/-- The symbols that the operations from `address` on stand for. -/
def symbolsFrom (program : Program) (address : Nat) : List Symbol :=
  (program.operations.toList.drop address).flatMap Operation.symbols

@[simp] theorem symbolsFrom_zero (program : Program) : program.symbolsFrom 0 = program.symbols :=
  rfl

theorem symbolsFrom_of_fetch? {operation : Operation}
    (found : program.fetch? address = some operation) :
    program.symbolsFrom address = operation.symbols ++ program.symbolsFrom (address + 1) := by
  have listed : program.operations.toList[address]? = some operation := by
    simpa [fetch?] using found
  obtain ⟨bound, rfl⟩ := List.getElem?_eq_some_iff.mp listed
  rw [symbolsFrom, List.drop_eq_getElem_cons bound, List.flatMap_cons]
  rfl

theorem symbolsFrom_of_fetch?_eq_none (ended : program.fetch? address = none) :
    program.symbolsFrom address = [] := by
  have past : program.operations.toList.length ≤ address := fetch?_eq_none_iff.mp ended
  rw [symbolsFrom, List.drop_of_length_le past]
  rfl

theorem exists_symbols_eq (program : Program) (address : Nat) :
    ∃ before, program.symbols = before ++ program.symbolsFrom address := by
  refine ⟨(program.operations.toList.take address).flatMap Operation.symbols, ?_⟩
  rw [symbolsFrom, ← List.flatMap_append, List.take_append_drop]
  rfl

/-- A bracket among the symbols is one of the operations. -/
theorem exists_symbolsFrom_eq {bracket : Symbol} {before rest : List Symbol}
    (spelled : program.symbols = before ++ bracket :: rest)
    (kind : ∀ action, bracket ≠ .act action) :
    ∃ address, program.symbolsFrom address = bracket :: rest := by
  rw [symbols] at spelled
  simp only [symbolsFrom]
  generalize program.operations.toList = operations at spelled ⊢
  induction operations generalizing before with
  | nil => simp at spelled
  | cons operation behind ih =>
    rw [List.flatMap_cons] at spelled
    obtain ⟨late, within, rfl⟩ | ⟨early, -, later⟩ := append_cons_cases spelled.symm
    · have member : bracket ∈ operation.symbols := by simp [within]
      refine ⟨0, ?_⟩
      cases operation with
      | perform action count => exact absurd (List.eq_of_mem_replicate member) (kind action)
      | jumpIfZero target | jumpIfNonzero target =>
        obtain ⟨rfl, same⟩ := List.append_eq_singleton_iff.mp within.symm |>.resolve_right (by simp)
        cases same
        rfl
    · obtain ⟨address, found⟩ := ih later
      exact ⟨address + 1, found⟩

/-- What is next to do is of the kind of the next symbol, if no action is done zero times. -/
theorem exists_fetch?_of_symbolsFrom {symbol : Symbol} {rest : List Symbol}
    (counted : ∀ address action count,
      program.fetch? address = some (.perform action count) → 0 < count)
    (spelled : program.symbolsFrom address = symbol :: rest) :
    ∃ operation, program.fetch? address = some operation ∧ operation.symbol = symbol := by
  cases found : program.fetch? address with
  | none =>
    rw [symbolsFrom_of_fetch?_eq_none found] at spelled
    cases spelled
  | some operation =>
    refine ⟨operation, rfl, ?_⟩
    rw [symbolsFrom_of_fetch? found] at spelled
    cases operation with
    | perform action count =>
      obtain ⟨count, rfl⟩ := Nat.exists_eq_add_of_lt (counted address action count found)
      exact (List.cons.inj spelled).1
    | jumpIfZero target | jumpIfNonzero target => exact (List.cons.inj spelled).1

/-- Where nothing is left to do the program has ended. -/
theorem size_le_of_symbolsFrom_eq_nil
    (counted : ∀ address action count,
      program.fetch? address = some (.perform action count) → 0 < count)
    (spelled : program.symbolsFrom address = []) : program.size ≤ address := by
  apply fetch?_eq_none_iff.mp
  cases found : program.fetch? address with
  | none => rfl
  | some operation =>
    rw [symbolsFrom_of_fetch? found] at spelled
    have silent := (List.append_eq_nil_iff.mp spelled).1
    cases operation with
    | perform action count =>
      have positive := counted address action count found
      obtain rfl : count = 0 := by simpa [Operation.symbols] using silent
      cases positive
    | jumpIfZero target | jumpIfNonzero target => cases silent

namespace Partners

theorem symbolsFrom_start (partners : program.Partners start stop) :
    program.symbolsFrom start = .loopStart :: program.symbolsFrom (start + 1) := by
  obtain ⟨operation, found, kind⟩ := Option.map_eq_some_iff.mp partners.opens
  rw [symbolsFrom_of_fetch? found, operation.symbols_of_loopStart kind]
  rfl

theorem symbolsFrom_stop (partners : program.Partners start stop) :
    program.symbolsFrom stop = .loopEnd :: program.symbolsFrom (stop + 1) := by
  obtain ⟨operation, found, kind⟩ := Option.map_eq_some_iff.mp partners.closes
  rw [symbolsFrom_of_fetch? found, operation.symbols_of_loopEnd kind]
  rfl

/-- Behind an opening bracket there are nested symbols up to its partner. -/
theorem exists_body (partners : program.Partners start stop) :
    ∃ body, Nested body ∧
      program.symbolsFrom (start + 1) = body ++ .loopEnd :: program.symbolsFrom (stop + 1) := by
  have before := partners.start_lt_stop
  have bound : stop < program.operations.toList.length := partners.stop_lt_size
  have split : program.operations.toList.drop (start + 1) =
      (program.operations.toList.take stop).drop (start + 1) ++
        program.operations.toList.drop stop := by
    rw [← List.drop_append_of_le_length (by rw [List.length_take]; omega), List.take_append_drop]
  refine ⟨_, Nested.flatMap_symbols partners.nested, ?_⟩
  rw [← partners.symbolsFrom_stop, symbolsFrom, split, List.flatMap_append]
  rfl

end Partners

end Program

end TapeMachine
