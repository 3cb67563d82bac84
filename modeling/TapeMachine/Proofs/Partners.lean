import TapeMachine.Proofs.Nesting

/-! # Partners in a program

Where the brackets of a program nest, each has exactly one partner, found by nesting alone. A
well-formed program therefore has no freedom in its jump targets: each is one more than the address
of the partner, no two jumps share one, and `WellFormed.eq_of_outline_eq` says that the counts and
kinds of its operations determine the whole program.
-/

namespace TapeMachine

/-- The operation with its jump target left out. -/
def Operation.untargeted : Operation → Operation
  | .perform action count => .perform action count
  | .jumpIfZero _ => .jumpIfZero 0
  | .jumpIfNonzero _ => .jumpIfNonzero 0

@[simp] theorem Operation.symbol_untargeted (operation : Operation) :
    operation.untargeted.symbol = operation.symbol := by
  cases operation <;> rfl

@[simp] theorem Operation.symbols_untargeted (operation : Operation) :
    operation.untargeted.symbols = operation.symbols := by
  cases operation <;> rfl

theorem Operation.jumpTarget?_eq_none_iff {first second : Operation}
    (same : first.untargeted = second.untargeted) :
    first.jumpTarget? = none ↔ second.jumpTarget? = none := by
  cases first <;> cases second <;> simp_all [untargeted, jumpTarget?]

theorem Operation.eq_of_untargeted_eq {first second : Operation}
    (same : first.untargeted = second.untargeted)
    (leads : first.jumpTarget? = second.jumpTarget?) : first = second := by
  cases first <;> cases second <;> simp_all [untargeted, jumpTarget?]

namespace Program

variable {program other : Program} {address start stop : Nat}

/-- The kinds of all operations in order. -/
def shape (program : Program) : List Symbol :=
  program.operations.toList.map Operation.symbol

/-- The operations in order, without their jump targets. -/
def outline (program : Program) : List Operation :=
  program.operations.toList.map Operation.untargeted

theorem shape_eq_of_outline_eq (same : program.outline = other.outline) :
    program.shape = other.shape := by
  have kinds := congrArg (List.map Operation.symbol) same
  simpa [outline, shape, Function.comp_def] using kinds

@[simp] theorem length_outline (program : Program) : program.outline.length = program.size := by
  simp [outline, size]

/-- A program spells out the same symbols with and without its targets. -/
theorem flatMap_outline (program : Program) :
    program.outline.flatMap Operation.symbols = program.symbols := by
  simp [Program.symbols, outline, List.flatMap_map]

theorem kinds_eq (program : Program) (first last : Nat) :
    program.kinds first last = (program.shape.take last).drop first := by
  simp [kinds, shape, List.map_take, List.map_drop]

@[simp] theorem length_shape (program : Program) : program.shape.length = program.size := by
  simp [shape, size]

theorem kinds_all (program : Program) : program.kinds 0 program.size = program.shape := by
  rw [kinds_eq, ← length_shape, List.take_length, List.drop_zero]

theorem getElem?_shape (program : Program) (address : Nat) :
    program.shape[address]? = (program.fetch? address).map Operation.symbol := by
  simp [shape, fetch?]

/-- Partners enclose nested operations, and this says it all. -/
theorem partners_iff : program.Partners start stop ↔
    ∃ front body back, program.shape = front ++ .loopStart :: (body ++ .loopEnd :: back) ∧
      Nested body ∧ front.length = start ∧ stop = start + 1 + body.length := by
  constructor
  · rintro ⟨opens, closes, before, nested⟩
    rw [← getElem?_shape] at opens closes
    rw [kinds_eq] at nested
    have bound := (List.getElem?_eq_some_iff.mp closes).1
    have inner : (program.shape.take stop)[start]? = some .loopStart := by
      rw [List.getElem?_take_of_lt before, opens]
    refine ⟨program.shape.take start, (program.shape.take stop).drop (start + 1),
      program.shape.drop (stop + 1), ?_, nested, ?_, ?_⟩
    · have split := eq_take_append_cons_drop inner
      rw [List.take_take, Nat.min_eq_left (by omega)] at split
      rw [← List.cons_append, ← List.append_assoc, ← split]
      exact eq_take_append_cons_drop closes
    · rw [List.length_take]
      omega
    · simp only [List.length_drop, List.length_take]
      omega
  · rintro ⟨front, body, back, whole, nested, rfl, rfl⟩
    have closes : front.length + 1 + body.length = (front ++ Symbol.loopStart :: body).length := by
      simp
      omega
    have regroup : program.shape = (front ++ .loopStart :: body) ++ .loopEnd :: back := by
      simpa using whole
    refine ⟨?_, ?_, by omega, ?_⟩
    · simp [← getElem?_shape, whole]
    · rw [← getElem?_shape, regroup, closes]
      simp
    · rw [kinds_eq, regroup, closes, List.take_left, List.append_cons,
        List.drop_left' (by simp)]
      exact nested

theorem Partners.of_shape_eq (partners : program.Partners start stop)
    (same : program.shape = other.shape) : other.Partners start stop := by
  rw [partners_iff] at partners ⊢
  rwa [← same]

/-- A loop closes at one address only. -/
theorem Partners.stop_unique {first second : Nat} (one : program.Partners start first)
    (two : program.Partners start second) : first = second := by
  obtain ⟨front, body, back, whole, nested, rfl, rfl⟩ := partners_iff.mp one
  obtain ⟨front', body', back', whole', nested', same, rfl⟩ := partners_iff.mp two
  rw [whole'] at whole
  obtain ⟨-, rest⟩ := List.append_inj whole same
  obtain ⟨late, rfl, -⟩ | ⟨early, rfl, split⟩ := append_cons_cases (List.cons.inj rest).2
  · exact absurd nested' (Nested.not_nested_of_loopEnd nested)
  · obtain ⟨rfl, -⟩ | ⟨between, rfl, -⟩ := List.cons_eq_append_iff.mp split
    · simp
    · exact absurd nested (Nested.not_nested_of_loopEnd nested')

/-- A loop opens at one address only. -/
theorem Partners.start_unique {first second : Nat} (one : program.Partners first stop)
    (two : program.Partners second stop) : first = second := by
  obtain ⟨front, body, back, whole, nested, rfl, rfl⟩ := partners_iff.mp one
  obtain ⟨front', body', back', whole', nested', rfl, same⟩ := partners_iff.mp two
  rw [← List.cons_append, ← List.append_assoc] at whole whole'
  rw [whole'] at whole
  obtain ⟨rest, -⟩ := List.append_inj whole (by simp; omega)
  obtain ⟨late, -, rfl⟩ | ⟨early, rfl, split⟩ := append_cons_cases rest
  · exact absurd nested (Nested.not_nested_of_loopStart nested')
  · obtain ⟨rfl, -⟩ | ⟨between, -, rfl⟩ := List.cons_eq_append_iff.mp split
    · simp
    · exact absurd nested' (Nested.not_nested_of_loopStart nested)

/-- No bracket both opens and closes a loop. -/
theorem Partners.not_partners {first second : Nat} (opens : program.Partners address first) :
    ¬ program.Partners second address := by
  intro closes
  have conflict := opens.opens.symm.trans closes.closes
  cases conflict

/-- A bracket has one partner only, on whichever side it stands. -/
theorem partner_unique {first second : Nat}
    (one : program.Partners address first ∨ program.Partners first address)
    (two : program.Partners address second ∨ program.Partners second address) :
    first = second := by
  rcases one with one | one <;> rcases two with two | two
  · exact one.stop_unique two
  · exact absurd two one.not_partners
  · exact absurd one two.not_partners
  · exact one.start_unique two

/-- Where brackets nest, every opening one has a partner. -/
theorem exists_stop (nested : Nested program.shape) {target : Nat}
    (found : program.fetch? start = some (.jumpIfZero target)) :
    ∃ stop, program.Partners start stop := by
  have opens : program.shape[start]? = some .loopStart := by
    rw [getElem?_shape, found]
    rfl
  have whole := eq_take_append_cons_drop opens
  rw [whole] at nested
  obtain ⟨body, rest, behind, inner⟩ := nested.exists_loopEnd
  refine ⟨start + 1 + body.length,
    partners_iff.mpr ⟨program.shape.take start, body, rest, ?_, inner, ?_, rfl⟩⟩
  · rw [← behind]
    exact whole
  · have bound := (List.getElem?_eq_some_iff.mp opens).1
    rw [List.length_take]
    omega

/-- Where brackets nest, every closing one has a partner. -/
theorem exists_start (nested : Nested program.shape) {target : Nat}
    (found : program.fetch? stop = some (.jumpIfNonzero target)) :
    ∃ start, program.Partners start stop := by
  have closes : program.shape[stop]? = some .loopEnd := by
    rw [getElem?_shape, found]
    rfl
  have whole := eq_take_append_cons_drop closes
  rw [whole] at nested
  obtain ⟨front, body, before, inner⟩ := nested.exists_loopStart
  refine ⟨front.length,
    partners_iff.mpr ⟨front, body, program.shape.drop (stop + 1), ?_, inner, rfl, ?_⟩⟩
  · rw [← List.cons_append, ← List.append_assoc, ← before]
    exact whole
  · have bound := (List.getElem?_eq_some_iff.mp closes).1
    have length := congrArg List.length before
    rw [List.length_take, List.length_append, List.length_cons] at length
    omega

theorem lt_size_of_fetch? {operation : Operation}
    (found : program.fetch? address = some operation) : address < program.size := by
  apply Nat.lt_of_not_le
  intro past
  rw [fetch?_eq_none_iff.mpr past] at found
  cases found

theorem exists_fetch? (inside : address < program.size) :
    ∃ operation, program.fetch? address = some operation := by
  apply Option.ne_none_iff_exists'.mp
  intro past
  exact Nat.not_le_of_lt inside (fetch?_eq_none_iff.mp past)

theorem Partners.stop_lt_size (partners : program.Partners start stop) : stop < program.size := by
  obtain ⟨operation, found, -⟩ := Option.map_eq_some_iff.mp partners.closes
  exact lt_size_of_fetch? found

/-- The brackets nest, and both jumps of each loop lead behind the partner. -/
structure Linked (program : Program) : Prop where
  nested : Nested program.shape
  jumps : ∀ start stop, program.Partners start stop →
    program.fetch? start = some (.jumpIfZero (stop + 1)) ∧
      program.fetch? stop = some (.jumpIfNonzero (start + 1))

namespace Linked

/-- The opening jump leads behind the bracket that closes its loop. -/
theorem exists_partner_of_jumpIfZero (linked : program.Linked) {target : Nat}
    (found : program.fetch? address = some (.jumpIfZero target)) :
    ∃ stop, program.Partners address stop ∧ target = stop + 1 := by
  obtain ⟨stop, partners⟩ := exists_stop linked.nested found
  have leads := (linked.jumps address stop partners).1
  rw [found] at leads
  cases leads
  exact ⟨stop, partners, rfl⟩

/-- The closing jump leads behind the bracket that opens its loop. -/
theorem exists_partner_of_jumpIfNonzero (linked : program.Linked) {target : Nat}
    (found : program.fetch? address = some (.jumpIfNonzero target)) :
    ∃ start, program.Partners start address ∧ target = start + 1 := by
  obtain ⟨start, partners⟩ := exists_start linked.nested found
  have leads := (linked.jumps start address partners).2
  rw [found] at leads
  cases leads
  exact ⟨start, partners, rfl⟩

/-- Every jump leads to the address behind its partner. -/
theorem exists_partner_of_jumpTarget? (linked : program.Linked) {operation : Operation}
    {target : Nat} (found : program.fetch? address = some operation)
    (leads : operation.jumpTarget? = some target) :
    ∃ partner, (program.Partners address partner ∨ program.Partners partner address) ∧
      target = partner + 1 := by
  cases operation with
  | perform action count => cases leads
  | jumpIfZero exit =>
    cases leads
    obtain ⟨stop, partners, same⟩ := linked.exists_partner_of_jumpIfZero found
    exact ⟨stop, .inl partners, same⟩
  | jumpIfNonzero entry =>
    cases leads
    obtain ⟨start, partners, same⟩ := linked.exists_partner_of_jumpIfNonzero found
    exact ⟨start, .inr partners, same⟩

end Linked

namespace WellFormed

theorem nested_shape (formed : program.WellFormed) : Nested program.shape := by
  rw [← kinds_all]
  exact formed.nested

theorem linked (formed : program.WellFormed) : program.Linked where
  nested := formed.nested_shape
  jumps := formed.jumps

/-- Every jump leads to the address behind its partner. -/
theorem exists_partner (formed : program.WellFormed) {operation : Operation} {target : Nat}
    (found : program.fetch? address = some operation)
    (leads : operation.jumpTarget? = some target) :
    ∃ partner, (program.Partners address partner ∨ program.Partners partner address) ∧
      target = partner + 1 :=
  formed.linked.exists_partner_of_jumpTarget? found leads

/-- Two jumps to one address are the same jump. -/
theorem address_unique (formed : program.WellFormed) {first second target : Nat}
    (one : (program.fetch? first).bind Operation.jumpTarget? = some target)
    (two : (program.fetch? second).bind Operation.jumpTarget? = some target) :
    first = second := by
  obtain ⟨operation, found, leads⟩ := Option.bind_eq_some_iff.mp one
  obtain ⟨operation', found', leads'⟩ := Option.bind_eq_some_iff.mp two
  obtain ⟨partner, partners, rfl⟩ := formed.exists_partner found leads
  obtain ⟨partner', partners', same⟩ := formed.exists_partner found' leads'
  cases same
  exact partner_unique partners.symm partners'.symm

private theorem jumpTarget?_eq (formed : program.WellFormed) (formed' : other.WellFormed)
    (same : program.shape = other.shape) {operation operation' : Operation}
    (found : program.fetch? address = some operation)
    (found' : other.fetch? address = some operation')
    (alike : operation.untargeted = operation'.untargeted) :
    operation.jumpTarget? = operation'.jumpTarget? := by
  cases leads : operation.jumpTarget? with
  | none => exact ((Operation.jumpTarget?_eq_none_iff alike).mp leads).symm
  | some target =>
    cases leads' : operation'.jumpTarget? with
    | none =>
      rw [(Operation.jumpTarget?_eq_none_iff alike).mpr leads'] at leads
      cases leads
    | some target' =>
      obtain ⟨partner, partners, rfl⟩ := formed.exists_partner found leads
      obtain ⟨partner', partners', rfl⟩ := formed'.exists_partner found' leads'
      have partners := partners.imp (·.of_shape_eq same) (·.of_shape_eq same)
      rw [partner_unique partners partners']

/-- Kinds and counts of the operations determine the jump targets. -/
theorem eq_of_outline_eq (formed : program.WellFormed) (formed' : other.WellFormed)
    (same : program.outline = other.outline) : program = other := by
  have agree : ∀ address, program.fetch? address = other.fetch? address := by
    intro address
    have here : (program.fetch? address).map Operation.untargeted =
        (other.fetch? address).map Operation.untargeted := by
      simpa [outline, fetch?] using congrArg (·[address]?) same
    cases found : program.fetch? address with
    | none =>
      rw [found] at here
      exact (Option.map_eq_none_iff.mp here.symm).symm
    | some operation =>
      rw [found] at here
      obtain ⟨operation', found', alike⟩ := Option.map_eq_some_iff.mp here.symm
      have leads :=
        jumpTarget?_eq formed formed' (shape_eq_of_outline_eq same) found found' alike.symm
      rw [found', Operation.eq_of_untargeted_eq alike.symm leads]
  cases program
  cases other
  exact congrArg Program.mk (Array.ext_getElem? agree)

end WellFormed

end Program

end TapeMachine
