import TapeMachine.Proofs.Canonical
import TapeMachine.Proofs.Lookahead
import TapeMachine.Proofs.Outcome

/-! # The loops that are open while a program is compiled

At every step of the compiler with one symbol of lookahead, four things fit together: the part of the
source that has been dealt with, the operations emitted for it, the stack of open loops and the
scanner. The stack holds exactly the brackets of that part that nothing closes, with their offsets in
the source and the addresses of their jumps; these jumps have no target yet, and all others have the
one they keep.

So a jump is directed once, when its loop is closed, and it is always there to be directed.
-/

namespace TapeMachine

open Program

namespace Source

variable {source : Source} {stack : List Nat} {offset : Nat}

/-- The bracket at `offset` opens a loop that nothing closes. -/
structure Unmatched (source : Source) (offset : Nat) : Prop where
  opens : source[offset]? = some Symbol.loopStart.toByte
  unclosed : ∀ stop, ¬ source.Matches offset stop

/-- The brackets that are left open are those that nothing closes. -/
theorem mem_iff_unmatched (unclosed : Unclosed Symbol.ofByte? source stack) :
    offset ∈ stack ↔ source.Unmatched offset := by
  constructor
  · intro member
    obtain ⟨opener, found, opens⟩ := unclosed.exists_opener member
    obtain rfl := Symbol.ofByte?_eq_some_iff.mp opens
    refine ⟨found, ?_⟩
    rintro stop ⟨-, closes, before, balanced⟩
    have split : source.drop (offset + 1) = (source.take stop).drop (offset + 1) ++
        Symbol.loopEnd.toByte :: source.drop (stop + 1) := by
      have bound := (List.getElem?_eq_some_iff.mp closes).1
      conv => lhs; rw [eq_take_append_cons_drop closes]
      rw [List.drop_append_of_le_length]
      rw [List.length_take]
      omega
    exact unclosed.not_nested_of_mem member split (Symbol.ofByte?_toByte .loopEnd)
      (nested_of_balanced balanced)
  · rintro ⟨opens, never⟩
    apply Decidable.byContradiction
    intro done
    obtain ⟨body, closer, rest, split, closes, nested⟩ :=
      unclosed.exists_closer opens (Symbol.ofByte?_toByte .loopStart) done
    obtain rfl := Symbol.ofByte?_eq_some_iff.mp closes
    have bound := (List.getElem?_eq_some_iff.mp opens).1
    have length : (source.take offset).length = offset := by
      rw [List.length_take]
      omega
    have pair := matches_of_balanced (balanced_of_nested nested) (source.take offset) rest
    rw [← split, ← eq_take_append_cons_drop opens, length] at pair
    exact never _ pair

end Source

namespace Assembly

variable {assembly : Assembly} {address target : Nat}

/-- The jump of an opening bracket has no target while its loop is open, and leads behind the loop
when it is closed. -/
theorem Coherent.resolved (coherent : assembly.Coherent)
    (found : assembly.program.fetch? address = some (.jumpIfZero target)) :
    (∃ start ∈ assembly.openLoops, start.address = address) ∨
      ∃ stop, assembly.program.Partners address stop ∧ target = stop + 1 := by
  by_cases waits : address ∈ assembly.openLoops.map OpenLoop.address
  · exact .inl (List.mem_map.mp waits)
  · have opens : assembly.program.shape[address]? = some .loopStart := by
      rw [getElem?_shape, found]
      rfl
    obtain ⟨body, closer, rest, split, closes, nested⟩ :=
      coherent.unclosed.exists_closer opens rfl waits
    cases closes
    rw [List.filterMap_some] at nested
    have bound := lt_size_of_fetch? found
    have partners : assembly.program.Partners address (address + 1 + body.length) := by
      refine partners_iff.mpr ⟨assembly.program.shape.take address, body, rest, ?_, nested, ?_, rfl⟩
      · rw [← split]
        exact eq_take_append_cons_drop opens
      · rw [List.length_take, length_shape]
        omega
    have leads := (coherent.jumps _ _ partners).1
    rw [found] at leads
    cases leads
    exact .inr ⟨_, partners, rfl⟩

/-- The program in front of an open loop spells out the source in front of its bracket. -/
def Placed (consumed : Source) (assembly : Assembly) : Prop :=
  ∀ start ∈ assembly.openLoops,
    (assembly.program.outline.take start.address).flatMap Operation.symbols =
      Source.symbols (consumed.take start.offset)

section

variable {consumed behind : Source} {symbol : Symbol} {token : Token} {next : Assembly}

/-- The brackets that are open behind a token. -/
theorem unclosed_of_add (unclosed : Unclosed Symbol.ofByte? consumed assembly.offsets)
    (takes : token.Takes consumed.length symbol behind) (added : assembly.add token = .ok next) :
    Unclosed Symbol.ofByte? (consumed ++ symbol.toByte :: behind) next.offsets := by
  have read := Symbol.ofByte?_toByte symbol
  have spelled : (symbol.toByte :: behind).filterMap Symbol.ofByte? = token.symbols :=
    takes.symbols_eq
  obtain ⟨program, openLoops⟩ := assembly
  cases takes with
  | run action count copies =>
    cases added
    apply unclosed.append
    rw [spelled, Token.symbols, ← List.append_nil (List.replicate ..)]
    exact Nested.nil.replicate_append action _
  | loopStart comments =>
    cases added
    rw [List.append_cons]
    apply (unclosed.append_loopStart read).append
    rw [show behind.filterMap Symbol.ofByte? = [] from comments]
    exact .nil
  | loopEnd comments =>
    cases openLoops with
    | nil => cases added
    | cons start openLoops =>
      cases added
      rw [List.append_cons]
      apply (unclosed.append_loopEnd read).append
      rw [show behind.filterMap Symbol.ofByte? = [] from comments]
      exact .nil

/-- Open loops stay where they are, and one that is opened stands at the end. -/
theorem placed_of_add (coherent : assembly.Coherent)
    (spelled : assembly.program.symbols = consumed.symbols)
    (unclosed : Unclosed Symbol.ofByte? consumed assembly.offsets)
    (placed : assembly.Placed consumed) (takes : token.Takes consumed.length symbol behind)
    (added : assembly.add token = .ok next) :
    next.Placed (consumed ++ symbol.toByte :: behind) := by
  have outline := (coherent.add added).2
  have earlier : ∀ start ∈ assembly.openLoops,
      (next.program.outline.take start.address).flatMap Operation.symbols =
        Source.symbols ((consumed ++ symbol.toByte :: behind).take start.offset) := by
    intro start member
    have address := lt_size_of_fetch? (coherent.pending start member)
    have offset := unclosed.lt_length start.offset (List.mem_map_of_mem member)
    rw [outline, List.take_append_of_le_length (by rw [length_outline]; omega),
      List.take_append_of_le_length (by omega)]
    exact placed start member
  obtain ⟨program, openLoops⟩ := assembly
  cases takes with
  | run action count copies =>
    cases added
    exact earlier
  | loopStart comments =>
    cases added
    intro start member
    rcases List.mem_cons.mp member with rfl | member
    · rw [outline, List.take_left' (length_outline program), List.take_left, flatMap_outline]
      exact spelled
    · exact earlier start member
  | loopEnd comments =>
    cases openLoops with
    | nil => cases added
    | cons start openLoops =>
      cases added
      exact fun start member => earlier start (List.mem_cons_of_mem _ member)

end

end Assembly

namespace Compiler

variable {source consumed : Source} {compiler next : Compiler}

/-- How a compiler stands to its source when it has dealt with the part `consumed`. -/
structure Follows (source consumed : Source) (compiler : Compiler) : Prop where
  ahead : Ahead consumed compiler.lookahead compiler.scanner source
  coherent : compiler.assembly.Coherent
  spelled : compiler.assembly.program.symbols = consumed.symbols
  unclosed : Unclosed Symbol.ofByte? consumed compiler.assembly.offsets
  placed : compiler.assembly.Placed consumed

/-- A step deals with the bytes of one token. -/
theorem Follows.of_step (follows : Follows source consumed compiler)
    (goes : compiler.step = .running next) : ∃ more, Follows source (consumed ++ more) next := by
  obtain ⟨ahead, coherent, spelled, unclosed, placed⟩ := follows
  obtain ⟨assembly, lookahead, scanner⟩ := compiler
  cases ahead with
  | ended position offset => cases goes
  | symbol symbol rest =>
    obtain ⟨token, behind, lookahead, scanner, read, takes, -, ahead⟩ :=
      Scanner.ahead_token symbol consumed rest
    rw [step_of_token read] at goes
    cases added : assembly.add token with
    | error error =>
      rw [added] at goes
      cases goes
    | ok after =>
      rw [added] at goes
      cases goes
      refine ⟨symbol.toByte :: behind, ahead, (coherent.add added).1, ?_,
        Assembly.unclosed_of_add unclosed takes added,
        Assembly.placed_of_add coherent spelled unclosed placed takes added⟩
      rw [← flatMap_outline, (coherent.add added).2, List.flatMap_append, flatMap_outline, spelled,
        Source.symbols_append, takes.symbols_eq, List.flatMap_singleton, Token.symbols_operation]

theorem exists_follows_start (source : Source) : ∃ consumed, Follows source consumed (start source) := by
  obtain ⟨comments, silent, ahead⟩ := ahead_start source
  refine ⟨comments, ahead, Assembly.coherent_empty, silent.symm, .closed ?_, nofun⟩
  rw [show comments.filterMap Symbol.ofByte? = [] from silent]
  exact .nil

/-- Every compiler that is reached follows its source. -/
theorem exists_follows {count : Nat}
    (reached : runSteps step count (start source) = .running compiler) :
    ∃ consumed, Follows source consumed compiler := by
  let holds (state : Compiler) : Prop := ∃ consumed, Follows source consumed state
  have keeps : ∀ before after, holds before → step before = .running after → holds after := by
    rintro before after ⟨consumed, follows⟩ goes
    obtain ⟨more, follows⟩ := follows.of_step goes
    exact ⟨_, follows⟩
  exact holds_of_runSteps keeps (exists_follows_start source) reached

/-- The part of the source in front of the lookahead. -/
def dealtWith (source : Source) (compiler : Compiler) : Source :=
  match compiler.lookahead with
  | some _ => source.take compiler.scanner.offset
  | none => source

/-- The source, the program, the open loops and the scanner fit together. -/
structure Consistent (source : Source) (compiler : Compiler) : Prop where
  /-- The lookahead stands at the offset of the scanner, which has read just that far. -/
  ahead : ∀ symbol, compiler.lookahead = some symbol →
    source[compiler.scanner.offset]? = some symbol.toByte ∧
      compiler.scanner.rest = source.drop (compiler.scanner.offset + 1)
  ended : compiler.lookahead = none → compiler.scanner.rest = []
  /-- The program spells out what has been dealt with. -/
  spelled : compiler.assembly.program.symbols = (compiler.dealtWith source).symbols
  /-- The open loops are those of the brackets that nothing has closed yet. -/
  unmatched : ∀ offset, offset ∈ compiler.assembly.offsets ↔
    (compiler.dealtWith source).Unmatched offset
  /-- The loops opened later stand behind those opened earlier, in the program and in the source. -/
  ascending : compiler.assembly.openLoops.Pairwise fun later earlier =>
    earlier.address < later.address ∧ earlier.offset < later.offset
  /-- The source has the bracket of an open loop where the program has its jump. -/
  placed : ∀ start ∈ compiler.assembly.openLoops,
    source[start.offset]? = some Symbol.loopStart.toByte ∧
      (compiler.assembly.program.operations.toList.take start.address).flatMap Operation.symbols =
        Source.symbols (source.take start.offset)
  /-- The jump of an open loop has no target yet. -/
  pending : ∀ start ∈ compiler.assembly.openLoops,
    start.address < compiler.assembly.program.size ∧
      compiler.assembly.program.fetch? start.address = some (.jumpIfZero 0)
  /-- The jump of any other loop leads behind the bracket that closes it. -/
  resolved : ∀ address target, compiler.assembly.program.fetch? address = some (.jumpIfZero target) →
    (∀ start ∈ compiler.assembly.openLoops, start.address ≠ address) →
      ∃ stop, compiler.assembly.program.Partners address stop ∧ target = stop + 1

theorem dealtWith_eq (ahead : Ahead consumed compiler.lookahead compiler.scanner source) :
    compiler.dealtWith source = consumed := by
  obtain ⟨assembly, lookahead, scanner⟩ := compiler
  cases ahead with
  | symbol symbol rest => exact List.take_left
  | ended position offset => rfl

/-- The bracket of an open loop stands in the part of the source that has been dealt with. -/
theorem Follows.getElem?_of_mem (follows : Follows source consumed compiler) {start : OpenLoop}
    (member : start ∈ compiler.assembly.openLoops) :
    consumed[start.offset]? = some Symbol.loopStart.toByte := by
  obtain ⟨opener, found, opens⟩ := follows.unclosed.exists_opener (List.mem_map_of_mem member)
  rw [found, Symbol.ofByte?_eq_some_iff.mp opens]

theorem Follows.consistent (follows : Follows source consumed compiler) :
    compiler.Consistent source where
  ahead symbol comes := by
    have ahead := follows.ahead
    rw [comes] at ahead
    exact ahead.found_and_rest
  ended used := by
    have ahead := follows.ahead
    rw [used] at ahead
    exact ahead.rest_eq_nil
  spelled := by rw [dealtWith_eq follows.ahead, follows.spelled]
  unmatched offset := by
    rw [dealtWith_eq follows.ahead]
    exact Source.mem_iff_unmatched follows.unclosed
  ascending := (List.pairwise_map.mp follows.coherent.unclosed.pairwise).and
    (List.pairwise_map.mp follows.unclosed.pairwise)
  placed start member := by
    have found := follows.getElem?_of_mem member
    have bound := (List.getElem?_eq_some_iff.mp found).1
    have spelled := follows.placed start member
    rw [outline, ← List.map_take, List.flatMap_map] at spelled
    simp only [Operation.symbols_untargeted] at spelled
    rw [follows.ahead.source_eq, List.getElem?_append_left bound,
      List.take_append_of_le_length (Nat.le_of_lt bound)]
    exact ⟨found, spelled⟩
  pending start member := by
    have found := follows.coherent.pending start member
    exact ⟨lt_size_of_fetch? found, found⟩
  resolved address target found apart := by
    rcases follows.coherent.resolved found with ⟨start, member, same⟩ | closed
    · exact absurd same (apart start member)
    · exact closed

/-- A call of `patch` is made for the loop on top of the stack, when a closing bracket comes. -/
theorem exists_of_patch? {patch : Patch} (calls : compiler.patch? = some patch) :
    ∃ program start openLoops scanner,
      compiler = ⟨⟨program, start :: openLoops⟩, some .loopEnd, scanner⟩ ∧
        patch = ⟨program.push (.jumpIfNonzero (start.address + 1)), start.address,
          program.size + 1⟩ := by
  unfold patch? at calls
  split at calls
  · cases calls
    exact ⟨_, _, _, _, rfl, by rw [size_push]⟩
  · cases calls

/-- The jump that is directed belongs to the stack, so it has no target yet. -/
theorem Follows.fetch?_patch (follows : Follows source consumed compiler) {patch : Patch}
    (calls : compiler.patch? = some patch) :
    compiler.assembly.program.fetch? patch.address = some (.jumpIfZero 0) ∧
      patch.program.fetch? patch.address = some (.jumpIfZero 0) := by
  obtain ⟨program, start, openLoops, scanner, rfl, rfl⟩ := exists_of_patch? calls
  have found := follows.coherent.pending start (List.mem_cons_self ..)
  exact ⟨found, (fetch?_push_of_lt (lt_size_of_fetch? found) _).trans found⟩

theorem exists_step_of_patch? {patch : Patch} (calls : compiler.patch? = some patch) :
    ∃ next, compiler.step = .running next ∧
      next.assembly.program = patch.program.patch patch.address patch.target := by
  obtain ⟨program, start, openLoops, scanner, rfl, rfl⟩ := exists_of_patch? calls
  refine ⟨⟨⟨_, openLoops⟩, scanner.next.1, scanner.next.2⟩, ?_, rfl⟩
  rw [← size_push program (.jumpIfNonzero (start.address + 1))]
  rfl

/-- A step that makes no call of `patch` emits an operation and leaves all others as they are. -/
theorem exists_push_of_step (plain : compiler.patch? = none) (goes : compiler.step = .running next) :
    ∃ operation, next.assembly.program = compiler.assembly.program.push operation := by
  obtain ⟨⟨program, openLoops⟩, lookahead, scanner⟩ := compiler
  cases lookahead with
  | none => cases goes
  | some symbol =>
    cases symbol with
    | act action =>
      cases goes
      exact ⟨_, rfl⟩
    | loopStart =>
      cases goes
      exact ⟨_, rfl⟩
    | loopEnd =>
      cases openLoops with
      | nil => cases goes
      | cons start openLoops => cases plain

/-- A jump that has its target keeps it. -/
theorem Follows.fetch?_of_step (follows : Follows source consumed compiler) {address target : Nat}
    (directed : 0 < target)
    (found : compiler.assembly.program.fetch? address = some (.jumpIfZero target))
    (goes : compiler.step = .running next) :
    next.assembly.program.fetch? address = some (.jumpIfZero target) := by
  have inside := lt_size_of_fetch? found
  cases calls : compiler.patch? with
  | none =>
    obtain ⟨operation, pushed⟩ := exists_push_of_step calls goes
    rw [pushed, fetch?_push_of_lt inside, found]
  | some patch =>
    obtain ⟨after, stepped, patched⟩ := exists_step_of_patch? calls
    rw [goes] at stepped
    cases stepped
    have waits := (follows.fetch?_patch calls).1
    have apart : address ≠ patch.address := by
      rintro rfl
      rw [found] at waits
      cases waits
      exact Nat.lt_irrefl 0 directed
    obtain ⟨program, start, openLoops, scanner, rfl, rfl⟩ := exists_of_patch? calls
    rw [patched, Program.fetch?_patch, if_neg apart, fetch?_push_of_lt inside, found]

/-- A jump that has got its target keeps it for the rest of the compilation, and no call of `patch` is
made for it again. -/
theorem Follows.fetch?_of_runSteps (follows : Follows source consumed compiler)
    {address target count : Nat} {later : Compiler} (directed : 0 < target)
    (found : compiler.assembly.program.fetch? address = some (.jumpIfZero target))
    (runs : runSteps step count compiler = .running later) :
    later.assembly.program.fetch? address = some (.jumpIfZero target) ∧
      ∀ again, later.patch? = some again → again.address ≠ address := by
  let holds (state : Compiler) : Prop := (∃ consumed, Follows source consumed state) ∧
    state.assembly.program.fetch? address = some (.jumpIfZero target)
  have keeps : ∀ before after, holds before → step before = .running after → holds after := by
    rintro before after ⟨⟨consumed, follows⟩, found⟩ goes
    obtain ⟨more, next⟩ := follows.of_step goes
    exact ⟨⟨_, next⟩, follows.fetch?_of_step directed found goes⟩
  obtain ⟨⟨consumed, follows⟩, found⟩ := holds_of_runSteps keeps ⟨⟨consumed, follows⟩, found⟩ runs
  refine ⟨found, ?_⟩
  rintro again calls rfl
  have waits := (follows.fetch?_patch calls).1
  rw [found] at waits
  cases waits
  exact Nat.lt_irrefl 0 directed

/-- Compiling with one symbol of lookahead gives what `compile` gives, and at every step on the way
the source, the program, the open loops and the scanner fit together. A step either emits one
operation or closes a loop with a call of `patch`. Such a call always finds an opening jump without a
target, gives it one, and is the only call ever made for that jump. -/
theorem runs_consistently {count : Nat}
    (reached : runSteps step count (start source) = .running compiler) :
    (∃ total, runSteps step total (start source) = .stopped (compile source)) ∧
      compiler.Consistent source ∧
      (compiler.patch? = none → ∀ next, compiler.step = .running next →
        ∃ operation, next.assembly.program = compiler.assembly.program.push operation) ∧
      ∀ patch, compiler.patch? = some patch →
        patch.program.fetch? patch.address = some (.jumpIfZero 0) ∧
          ∃ next, compiler.step = .running next ∧
            next.assembly.program = patch.program.patch patch.address patch.target ∧
            ∀ more later, runSteps step more next = .running later →
              later.assembly.program.fetch? patch.address = some (.jumpIfZero patch.target) ∧
                ∀ again, later.patch? = some again → again.address ≠ patch.address := by
  obtain ⟨consumed, follows⟩ := exists_follows reached
  refine ⟨exists_stopped_start source, follows.consistent, ?_, ?_⟩
  · intro plain next goes
    exact exists_push_of_step plain goes
  · intro patch calls
    have waits := (follows.fetch?_patch calls).2
    obtain ⟨next, stepped, patched⟩ := exists_step_of_patch? calls
    obtain ⟨more, follows⟩ := follows.of_step stepped
    have directed : 0 < patch.target := by
      obtain ⟨program, start, openLoops, scanner, -, rfl⟩ := exists_of_patch? calls
      exact Nat.succ_pos _
    have found : next.assembly.program.fetch? patch.address = some (.jumpIfZero patch.target) := by
      rw [patched, Program.fetch?_patch, if_pos rfl, waits]
      rfl
    refine ⟨waits, next, stepped, patched, ?_⟩
    intro more later runs
    exact follows.fetch?_of_runSteps directed found runs

/-- The compiler in front of the first closing bracket of `nestedLoops`. -/
def beforeFirstEnd : Compiler where
  assembly := ⟨⟨#[.perform .increment 1, .jumpIfZero 0, .perform .moveRight 2, .jumpIfZero 0,
    .perform .decrement 1]⟩, [⟨3, 5⟩, ⟨1, 1⟩]⟩
  lookahead := some .loopEnd
  scanner := ⟨['<', ']', '.'].map Char.toUInt8, 8, 7⟩

theorem runs_consistently_nestedLoops :
    runSteps step 5 (start nestedLoops) = .running beforeFirstEnd ∧
      beforeFirstEnd.Consistent nestedLoops ∧
      ∃ patch, beforeFirstEnd.patch? = some patch ∧
        patch.program.fetch? patch.address = some (.jumpIfZero 0) := by
  have reached : runSteps step 5 (start nestedLoops) = .running beforeFirstEnd := by
    with_unfolding_all rfl
  obtain ⟨-, consistent, -, calls⟩ := runs_consistently reached
  exact ⟨reached, consistent, _, rfl, (calls _ rfl).1⟩

end Compiler

end TapeMachine
