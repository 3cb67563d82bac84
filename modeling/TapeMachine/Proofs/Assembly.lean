import TapeMachine.Compile
import TapeMachine.Proofs.Partners

/-! # What holds while a program is assembled

`Assembly.Coherent` is the invariant of the assembly: the stack holds the addresses of the brackets
that are still open, innermost first; each of them is a jump whose target is missing; and every loop
that has been closed has both its targets. Adding a token preserves it, so it holds of every
assembly that can be reached from the empty one.
-/

namespace TapeMachine

/-- What is emitted for a token before jump targets are known. -/
def Token.operation : Token → Operation
  | .run action count _ => .perform action count
  | .loopStart _ => .jumpIfZero 0
  | .loopEnd _ => .jumpIfNonzero 0

namespace Program

variable {program : Program} {operation : Operation} {address start stop target : Nat}

@[simp] theorem shape_push (program : Program) (operation : Operation) :
    (program.push operation).shape = program.shape ++ [operation.symbol] := by
  simp [shape, push]

@[simp] theorem outline_push (program : Program) (operation : Operation) :
    (program.push operation).outline = program.outline ++ [operation.untargeted] := by
  simp [outline, push]

/-- Directing a jump changes nothing but its target. -/
@[simp] theorem outline_patch (program : Program) (address target : Nat) :
    (program.patch address target).outline = program.outline := by
  apply List.ext_getElem?
  intro other
  have here : (program.patch address target).fetch? other = _ := fetch?_patch program address target
  simp only [fetch?] at here
  simp only [outline, List.getElem?_map, Array.getElem?_toList, here]
  split
  · rw [Option.map_map]
    congr 1
    funext operation
    cases operation <;> rfl
  · rfl

@[simp] theorem shape_patch (program : Program) (address target : Nat) :
    (program.patch address target).shape = program.shape :=
  shape_eq_of_outline_eq (outline_patch program address target)

theorem fetch?_push_of_lt (inside : address < program.size) (operation : Operation) :
    (program.push operation).fetch? address = program.fetch? address := by
  rw [fetch?_push, if_neg (Nat.ne_of_lt inside)]

/-- A loop closed before the last operation does not depend on it. -/
theorem Partners.of_push (partners : (program.push operation).Partners start stop)
    (inside : stop < program.size) : program.Partners start stop := by
  obtain ⟨opens, closes, before, nested⟩ := partners
  rw [fetch?_push_of_lt (by omega)] at opens
  rw [fetch?_push_of_lt inside] at closes
  refine ⟨opens, closes, before, ?_⟩
  rw [kinds_eq, shape_push, List.take_append_of_le_length (by rw [length_shape]; omega)] at nested
  rwa [kinds_eq]

end Program

namespace Assembly

open Program

variable {assembly next : Assembly} {token : Token} {tokens : List Token}

/-- The invariant of the assembly. -/
structure Coherent (assembly : Assembly) : Prop where
  /-- The stack holds the brackets that are open. -/
  unclosed : Unclosed some assembly.program.shape (assembly.openLoops.map OpenLoop.address)
  /-- The jump of an open loop has no target yet. -/
  pending : ∀ start ∈ assembly.openLoops,
    assembly.program.fetch? start.address = some (.jumpIfZero 0)
  /-- Both jumps of a closed loop lead behind the partner. -/
  jumps : ∀ start stop, assembly.program.Partners start stop →
    assembly.program.fetch? start = some (.jumpIfZero (stop + 1)) ∧
      assembly.program.fetch? stop = some (.jumpIfNonzero (start + 1))

theorem coherent_empty : empty.Coherent where
  unclosed := .closed .nil
  pending := by simp [empty]
  jumps := by
    intro start stop partners
    have bound := partners.stop_lt_size
    simp [empty] at bound

namespace Coherent

/-- What stays true of the loops so far when an operation that closes none is emitted. -/
private theorem jumps_push (coherent : assembly.Coherent) {operation : Operation}
    (opens : operation.symbol ≠ .loopEnd) (start stop : Nat)
    (partners : (assembly.program.push operation).Partners start stop) :
    (assembly.program.push operation).fetch? start = some (.jumpIfZero (stop + 1)) ∧
      (assembly.program.push operation).fetch? stop = some (.jumpIfNonzero (start + 1)) := by
  have bound := partners.stop_lt_size
  have before := partners.start_lt_stop
  rw [size_push] at bound
  rcases Nat.lt_or_eq_of_le (Nat.lt_succ_iff.mp bound) with inside | last
  · rw [fetch?_push_of_lt (by omega), fetch?_push_of_lt inside]
    exact coherent.jumps start stop (partners.of_push inside)
  · have closes := partners.closes
    rw [fetch?_push, if_pos last, Option.map_some, Option.some.injEq] at closes
    exact absurd closes opens

private theorem pending_push (coherent : assembly.Coherent) (operation : Operation) :
    ∀ start ∈ assembly.openLoops,
      (assembly.program.push operation).fetch? start.address = some (.jumpIfZero 0) := by
  intro start member
  have found := coherent.pending start member
  rw [fetch?_push_of_lt (lt_size_of_fetch? found), found]

private theorem add_run (coherent : assembly.Coherent) (action : Action) (count : Nat) :
    Coherent ⟨assembly.program.push (.perform action count), assembly.openLoops⟩ where
  unclosed := by
    rw [shape_push]
    exact coherent.unclosed.append (.act action .nil)
  pending := coherent.pending_push _
  jumps := coherent.jumps_push (by simp [Operation.symbol])

private theorem add_loopStart (coherent : assembly.Coherent) (offset : Nat) :
    Coherent ⟨assembly.program.push (.jumpIfZero 0),
      ⟨assembly.program.size, offset⟩ :: assembly.openLoops⟩ where
  unclosed := by
    rw [shape_push, List.map_cons, ← length_shape]
    exact coherent.unclosed.append_loopStart rfl
  pending := by
    intro start member
    rcases List.mem_cons.mp member with rfl | member
    · simp [fetch?_push]
    · exact coherent.pending_push _ start member
  jumps := coherent.jumps_push (by simp [Operation.symbol])

/-- The bracket that the stack has on top is the partner of a closing one emitted next. -/
private theorem partners_top (coherent : assembly.Coherent) {start : OpenLoop}
    {openLoops : List OpenLoop} (top : assembly.openLoops = start :: openLoops) (target : Nat) :
    (assembly.program.push (.jumpIfNonzero target)).Partners start.address
      assembly.program.size := by
  have unclosed := coherent.unclosed
  rw [top, List.map_cons] at unclosed
  obtain ⟨outer, opener, inner, whole, position, opens, nested, -⟩ := unclosed.exists_split
  rw [List.filterMap_some] at nested
  cases opens
  refine partners_iff.mpr ⟨outer, inner, [], ?_, nested, position, ?_⟩
  · rw [shape_push, whole, List.append_assoc, List.cons_append]
    rfl
  · rw [← length_shape, whole, List.length_append, List.length_cons]
    omega

private theorem add_loopEnd (coherent : assembly.Coherent) {start : OpenLoop}
    {openLoops : List OpenLoop} (top : assembly.openLoops = start :: openLoops) :
    Coherent ⟨(assembly.program.push (.jumpIfNonzero (start.address + 1))).patch start.address
      (assembly.program.size + 1), openLoops⟩ where
  unclosed := by
    have unclosed := coherent.unclosed
    rw [top, List.map_cons] at unclosed
    rw [shape_patch, shape_push]
    exact unclosed.append_loopEnd rfl
  pending := by
    intro earlier member
    have unclosed := coherent.unclosed
    rw [top, List.map_cons] at unclosed
    have before := unclosed.lt_of_mem earlier.address (List.mem_map_of_mem member)
    rw [fetch?_patch, if_neg (by omega)]
    exact coherent.pending_push _ earlier (by rw [top]; exact List.mem_cons_of_mem _ member)
  jumps := by
    intro opening closing partners
    have found := coherent.pending start (by rw [top]; exact List.mem_cons_self ..)
    have placed := lt_size_of_fetch? found
    have partners := partners.of_shape_eq (shape_patch ..)
    have bound := partners.stop_lt_size
    have before := partners.start_lt_stop
    rw [size_push] at bound
    rcases Nat.lt_or_eq_of_le (Nat.lt_succ_iff.mp bound) with inside | rfl
    · obtain ⟨opens, closes⟩ := coherent.jumps opening closing (partners.of_push inside)
      have apart : opening ≠ start.address := by
        rintro rfl
        rw [found] at opens
        cases opens
      have apart' : closing ≠ start.address := by
        rintro rfl
        rw [found] at closes
        cases closes
      rw [fetch?_patch, fetch?_patch, if_neg apart, if_neg apart',
        fetch?_push_of_lt (by omega), fetch?_push_of_lt inside]
      exact ⟨opens, closes⟩
    · obtain rfl := partners.start_unique (coherent.partners_top top _)
      rw [fetch?_patch, fetch?_patch, if_pos rfl, if_neg (by omega), fetch?_push_of_lt placed,
        found, fetch?_push, if_pos rfl]
      exact ⟨rfl, rfl⟩

/-- Adding a token preserves the invariant and emits one operation. -/
theorem add (coherent : assembly.Coherent) (added : assembly.add token = .ok next) :
    next.Coherent ∧ next.program.outline = assembly.program.outline ++ [token.operation] := by
  obtain ⟨program, openLoops⟩ := assembly
  cases token with
  | run action count offset =>
    cases added
    exact ⟨coherent.add_run action count, outline_push ..⟩
  | loopStart offset =>
    cases added
    exact ⟨coherent.add_loopStart offset, outline_push ..⟩
  | loopEnd offset =>
    cases openLoops with
    | nil => cases added
    | cons start openLoops =>
      simp only [Assembly.add, size_push, Except.ok.injEq] at added
      subst added
      refine ⟨coherent.add_loopEnd rfl, ?_⟩
      rw [outline_patch, outline_push]
      rfl

/-- Whatever has been assembled is coherent and has one operation for each token. -/
theorem addAll (coherent : assembly.Coherent) (added : assembly.addAll tokens = .ok next) :
    next.Coherent ∧
      next.program.outline = assembly.program.outline ++ tokens.map Token.operation := by
  induction tokens generalizing assembly with
  | nil =>
    cases added
    exact ⟨coherent, by simp⟩
  | cons token rest ih =>
    rw [Assembly.addAll] at added
    split at added
    · rename_i middle step
      obtain ⟨coherent, emitted⟩ := coherent.add step
      obtain ⟨coherent, outline⟩ := ih coherent added
      refine ⟨coherent, ?_⟩
      rw [outline, emitted, List.append_assoc]
      rfl
    · cases added

end Coherent

end Assembly

section

variable {source : Source} {program : Program}

/-- A source compiles if its tokens can be assembled and leave no loop open. -/
theorem compile_eq_ok_iff : compile source = .ok program ↔
    Assembly.empty.addAll (Token.ofSource source) = .ok ⟨program, []⟩ := by
  unfold compile
  cases Assembly.empty.addAll (Token.ofSource source) with
  | error error => simp
  | ok assembly =>
    obtain ⟨assembled, openLoops⟩ := assembly
    cases openLoops <;> simp [Assembly.finish]

theorem coherent_of_compile (compiled : compile source = .ok program) :
    Assembly.Coherent ⟨program, []⟩ :=
  (Assembly.coherent_empty.addAll (compile_eq_ok_iff.mp compiled)).1

/-- A program has one operation for each token of its source. -/
theorem outline_of_compile (compiled : compile source = .ok program) :
    program.outline = (Token.ofSource source).map Token.operation :=
  (Assembly.coherent_empty.addAll (compile_eq_ok_iff.mp compiled)).2

end

end TapeMachine
