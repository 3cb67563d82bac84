import TapeMachine.Proofs.Relocation
import TapeMachine.Proofs.Remainder

/-! # Putting programs together

A program can be put behind another or inside a loop. Its jumps are led further by the operations
that come before it, so partners stay partners. What is put together from well-formed programs is
well-formed again, but for a run that ends one program and goes on in the next: there the compiler
would fold.
-/

namespace TapeMachine

namespace Program

/-- One program and behind it another. -/
def followedBy (program next : Program) : Program :=
  ⟨program.operations ++ next.operations.map (Operation.relocate program.size)⟩

/-- A loop around a program. -/
def loop (body : Program) : Program :=
  ⟨#[.jumpIfZero (body.size + 2)] ++ body.operations.map (Operation.relocate 1) ++
    #[.jumpIfNonzero 1]⟩

variable {whole part program next body : Program} {base address start stop : Nat}

theorem Partners.of_placed {front back : List Symbol}
    (placed : whole.shape = front ++ (part.shape ++ back)) (partners : part.Partners start stop) :
    whole.Partners (front.length + start) (front.length + stop) := by
  obtain ⟨before, inside, after, shape, nested, rfl, rfl⟩ := partners_iff.mp partners
  refine partners_iff.mpr ⟨front ++ before, inside, after ++ back, ?_, nested, by simp, by omega⟩
  rw [placed, shape]
  simp

/-- The loops of an embedded program keep both their targets. -/
theorem Embeds.jumps (embeds : whole.Embeds part base) (linked : part.Linked)
    {front back : List Symbol} (placed : whole.shape = front ++ (part.shape ++ back))
    (length : front.length = base) (inside : start < part.size)
    (partners : whole.Partners (base + start) stop) :
    whole.fetch? (base + start) = some (.jumpIfZero (stop + 1)) ∧
      whole.fetch? stop = some (.jumpIfNonzero (base + start + 1)) := by
  have opens := partners.opens
  rw [embeds start inside] at opens ⊢
  obtain ⟨moved, placement, kind⟩ := Option.map_eq_some_iff.mp opens
  obtain ⟨operation, found, rfl⟩ := Option.map_eq_some_iff.mp placement
  rw [Operation.symbol_relocate] at kind
  cases operation <;> cases kind
  obtain ⟨close, inner, rfl⟩ := linked.exists_partner_of_jumpIfZero found
  have closes := (linked.jumps start close inner).2
  -- The partner in the part is the partner in the whole, since an opening bracket has only one.
  have outer := inner.of_placed placed
  rw [length] at outer
  obtain rfl := outer.stop_unique partners
  rw [embeds close inner.stop_lt_size, found, closes]
  exact ⟨rfl, rfl⟩

@[simp] theorem size_followedBy (program next : Program) :
    (program.followedBy next).size = program.size + next.size := by
  simp [followedBy, size]

@[simp] theorem shape_followedBy (program next : Program) :
    (program.followedBy next).shape = program.shape ++ next.shape := by
  simp [followedBy, shape, Function.comp_def]

@[simp] theorem symbols_followedBy (program next : Program) :
    (program.followedBy next).symbols = program.symbols ++ next.symbols := by
  simp [followedBy, symbols, List.flatMap_map]

theorem embeds_followedBy_left (program next : Program) :
    (program.followedBy next).Embeds program 0 := by
  intro address inside
  have same : Operation.relocate 0 = id := funext Operation.relocate_zero
  rw [Nat.zero_add, same, Option.map_id_fun, id, fetch?, followedBy,
    Array.getElem?_append_left inside, fetch?]

theorem embeds_followedBy_right (program next : Program) :
    (program.followedBy next).Embeds next program.size := by
  intro address _
  rw [fetch?, followedBy, size, Array.getElem?_append_right (Nat.le_add_right ..),
    Nat.add_sub_cancel_left, Array.getElem?_map, fetch?]

/-- An address stands in the first program, or that much behind its end in the second. -/
theorem fetch?_followedBy {operation : Operation}
    (found : (program.followedBy next).fetch? address = some operation) :
    (address < program.size ∧ program.fetch? address = some operation) ∨
      ∃ later operation', address = program.size + later ∧
        next.fetch? later = some operation' ∧ operation = operation'.relocate program.size := by
  have bound := lt_size_of_fetch? found
  rw [size_followedBy] at bound
  rcases Nat.lt_or_ge address program.size with inside | past
  · have same := embeds_followedBy_left program next address inside
    rw [Nat.zero_add, found] at same
    refine .inl ⟨inside, ?_⟩
    simpa using same.symm
  · obtain ⟨later, rfl⟩ := Nat.exists_eq_add_of_le past
    rw [embeds_followedBy_right program next later (by omega)] at found
    obtain ⟨operation', fetched, rfl⟩ := Option.map_eq_some_iff.mp found
    exact .inr ⟨later, operation', rfl, fetched, rfl⟩

theorem Linked.followedBy (linked : program.Linked) (linked' : next.Linked) :
    (program.followedBy next).Linked where
  nested := by
    rw [shape_followedBy]
    exact linked.nested.append linked'.nested
  jumps := by
    intro start stop partners
    have bound := partners.stop_lt_size
    have before := partners.start_lt_stop
    rw [size_followedBy] at bound
    rcases Nat.lt_or_ge start program.size with inside | past
    · have placed : (program.followedBy next).shape = [] ++ (program.shape ++ next.shape) := by simp
      rw [← Nat.zero_add start] at partners ⊢
      exact (embeds_followedBy_left program next).jumps linked placed rfl inside partners
    · obtain ⟨start, rfl⟩ := Nat.exists_eq_add_of_le past
      have placed : (program.followedBy next).shape = program.shape ++ (next.shape ++ []) := by simp
      exact (embeds_followedBy_right program next).jumps linked' placed (length_shape _) (by omega)
        partners

/-- Counts of actions are those of the two programs. -/
theorem counted_followedBy
    (counted : ∀ address action count,
      program.fetch? address = some (.perform action count) → 0 < count)
    (counted' : ∀ address action count,
      next.fetch? address = some (.perform action count) → 0 < count)
    (address : Nat) (action : Action) (count : Nat)
    (found : (program.followedBy next).fetch? address = some (.perform action count)) :
    0 < count := by
  obtain ⟨-, found⟩ | ⟨later, operation, -, found, same⟩ := fetch?_followedBy found
  · exact counted address action count found
  · cases operation <;> cases same
    exact counted' later action count found

namespace WellFormed

theorem getLast?_symbols (formed : program.WellFormed) {action : Action} {count : Nat}
    (found : program.fetch? address = some (.perform action count))
    (last : address + 1 = program.size) : program.symbols.getLast? = some (.act action) := by
  obtain ⟨before, spelled⟩ := program.exists_symbols_eq address
  have behind : program.symbolsFrom (address + 1) = [] :=
    symbolsFrom_of_fetch?_eq_none (fetch?_eq_none_iff.mpr (Nat.le_of_eq last.symm))
  obtain ⟨count, rfl⟩ := Nat.exists_eq_add_of_lt (formed.counted address action count found)
  rw [spelled, symbolsFrom_of_fetch? found, behind, Operation.symbols, List.replicate_succ']
  simp

theorem head?_symbols (formed : program.WellFormed) {action : Action} {count : Nat}
    (found : program.fetch? 0 = some (.perform action count)) :
    program.symbols.head? = some (.act action) := by
  obtain ⟨count, rfl⟩ := Nat.exists_eq_add_of_lt (formed.counted 0 action count found)
  rw [← symbolsFrom_zero, symbolsFrom_of_fetch? found, Operation.symbols, List.replicate_succ]
  rfl

/-- Unless a run goes on from one program into the next, nothing is left to fold. -/
theorem followedBy (formed : program.WellFormed) (formed' : next.WellFormed)
    (apart : ∀ action, program.symbols.getLast? = some (.act action) →
      next.symbols.head? ≠ some (.act action)) : (program.followedBy next).WellFormed := by
  have linked := formed.linked.followedBy formed'.linked
  refine ⟨?_, linked.jumps, counted_followedBy formed.counted formed'.counted, ?_⟩
  · rw [kinds_all]
    exact linked.nested
  · intro address action first second found found'
    obtain ⟨inside, found⟩ | ⟨later, operation, rfl, found, same⟩ := fetch?_followedBy found
    · obtain ⟨-, found'⟩ | ⟨later, operation, behind, found', same⟩ := fetch?_followedBy found'
      · exact formed.folded address action first second found found'
      · cases operation <;> cases same
        -- The two neighbours are the last operation of the one and the first of the other.
        obtain ⟨last, rfl⟩ : address + 1 = program.size ∧ later = 0 := by omega
        exact apart action (formed.getLast?_symbols found last) (formed'.head?_symbols found')
    · rw [Nat.add_assoc] at found'
      obtain ⟨inside, -⟩ | ⟨later', operation', behind, found', same'⟩ := fetch?_followedBy found'
      · omega
      · obtain rfl := Nat.add_left_cancel behind
        cases operation <;> cases same
        cases operation' <;> cases same'
        exact formed'.folded later action first second found found'

end WellFormed

@[simp] theorem size_loop (body : Program) : body.loop.size = body.size + 2 := by
  simp [loop, size]
  omega

@[simp] theorem shape_loop (body : Program) :
    body.loop.shape = .loopStart :: (body.shape ++ [.loopEnd]) := by
  have opens : (Operation.jumpIfZero (body.size + 2)).symbol = .loopStart := rfl
  have closes : (Operation.jumpIfNonzero 1).symbol = .loopEnd := rfl
  simp [loop, shape, Function.comp_def, opens, closes]

@[simp] theorem symbols_loop (body : Program) :
    body.loop.symbols = .loopStart :: (body.symbols ++ [.loopEnd]) := by
  have opens : (Operation.jumpIfZero (body.size + 2)).symbols = [.loopStart] := rfl
  have closes : (Operation.jumpIfNonzero 1).symbols = [.loopEnd] := rfl
  simp [loop, symbols, List.flatMap_map, opens, closes]

theorem fetch?_loop_start (body : Program) :
    body.loop.fetch? 0 = some (.jumpIfZero (body.size + 2)) := by
  rw [fetch?, loop, Array.append_assoc, Array.getElem?_append_left (Nat.zero_lt_one)]
  rfl

theorem fetch?_loop_stop (body : Program) :
    body.loop.fetch? (1 + body.size) = some (.jumpIfNonzero 1) := by
  have length : (#[Operation.jumpIfZero (body.size + 2)] ++
      body.operations.map (Operation.relocate 1)).size = 1 + body.size := by
    simp [size]
  rw [fetch?, loop, ← length, Array.getElem?_append_right (Nat.le_refl _), Nat.sub_self]
  rfl

theorem embeds_loop (body : Program) : body.loop.Embeds body 1 := by
  intro address inside
  have inside : address < body.operations.size := inside
  have bound : 1 + address <
      (#[Operation.jumpIfZero (body.size + 2)] ++
        body.operations.map (Operation.relocate 1)).size := by
    simp
    omega
  rw [fetch?, loop, Array.getElem?_append_left bound, Array.getElem?_append_right (by simp)]
  simp [fetch?]

/-- An action of the loop is one of its body. -/
theorem fetch?_loop_perform {action : Action} {count : Nat}
    (found : body.loop.fetch? address = some (.perform action count)) :
    ∃ inner, address = 1 + inner ∧ body.fetch? inner = some (.perform action count) := by
  have bound := lt_size_of_fetch? found
  rw [size_loop] at bound
  cases address with
  | zero =>
    rw [fetch?_loop_start] at found
    cases found
  | succ inner =>
    rw [Nat.add_comm inner] at found ⊢
    rcases Nat.lt_or_ge inner body.size with inside | past
    · rw [embeds_loop body inner inside] at found
      obtain ⟨operation, fetched, same⟩ := Option.map_eq_some_iff.mp found
      cases operation <;> cases same
      exact ⟨inner, rfl, fetched⟩
    · obtain rfl : inner = body.size := by omega
      rw [fetch?_loop_stop] at found
      cases found

theorem Linked.loop (linked : body.Linked) : body.loop.Linked where
  nested := by
    rw [shape_loop]
    exact .loop linked.nested .nil
  jumps := by
    intro start stop partners
    have bound := partners.stop_lt_size
    have before := partners.start_lt_stop
    rw [size_loop] at bound
    cases start with
    | zero =>
      have outer : body.loop.Partners 0 (body.size + 1) := partners_iff.mpr
        ⟨[], body.shape, [], by simp, linked.nested, rfl, by rw [length_shape]; omega⟩
      obtain rfl := partners.stop_unique outer
      rw [fetch?_loop_start, Nat.add_comm body.size 1, fetch?_loop_stop]
      exact ⟨by rw [Nat.add_comm 1], rfl⟩
    | succ start =>
      have placed : body.loop.shape = [.loopStart] ++ (body.shape ++ [.loopEnd]) := by simp
      rw [Nat.add_comm start] at partners ⊢
      exact (embeds_loop body).jumps linked placed rfl (by omega) partners

/-- Brackets end every run, so a loop around a well-formed program is well-formed. -/
theorem WellFormed.loop (formed : body.WellFormed) : body.loop.WellFormed where
  nested := by
    rw [kinds_all]
    exact formed.linked.loop.nested
  jumps := formed.linked.loop.jumps
  counted := by
    intro address action count found
    obtain ⟨inner, rfl, fetched⟩ := fetch?_loop_perform found
    exact formed.counted inner action count fetched
  folded := by
    intro address action first second found found'
    obtain ⟨inner, rfl, fetched⟩ := fetch?_loop_perform found
    obtain ⟨inner', behind, fetched'⟩ := fetch?_loop_perform found'
    obtain rfl : inner' = inner + 1 := by omega
    exact formed.folded inner action first second fetched fetched'

end Program

end TapeMachine
