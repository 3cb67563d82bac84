import TapeMachine.Proofs.Canonical
import TapeMachine.Proofs.ListedLines

/-! # Which lines of a listing are marked

In a well-formed program the addresses that jumps lead to are the addresses behind brackets: each
jump leads behind its partner, and each bracket is the partner of one. So a line is marked exactly if
a bracket stands before it, and there are as many marks as brackets in the source.
-/

namespace TapeMachine

namespace Operation

/-- Whether the operation is a bracket. -/
def isJump (operation : Operation) : Bool :=
  operation.jumpTarget?.isSome

/-- A program spells out as many brackets as it has. -/
theorem count_flatMap_symbols (operations : List Operation) :
    (operations.flatMap symbols).count .loopStart + (operations.flatMap symbols).count .loopEnd =
      operations.countP isJump := by
  induction operations with
  | nil => rfl
  | cons operation rest ih =>
    rw [List.flatMap_cons, List.count_append, List.count_append, List.countP_cons, ← ih]
    cases operation with
    | perform action count =>
      simp [symbols, isJump, jumpTarget?, List.count_replicate]
    | jumpIfZero target | jumpIfNonzero target =>
      simp [symbols, isJump, jumpTarget?]
      omega

end Operation

namespace Program

variable {program : Program} {address before : Nat}

/-- The marked lines are those of the addresses that some operation jumps to. -/
theorem countP_rows (program : Program) :
    program.rows.countP lineMarked =
      (List.range (program.size + 1)).countP fun address => decide (program.JumpsTo address) := by
  have operations : (program.operations.toList.zipIdx.map program.operationRow).countP lineMarked =
      (List.range program.size).countP fun address => decide (program.JumpsTo address) := by
    have addresses : program.operations.toList.zipIdx.map Prod.snd = List.range program.size := by
      rw [List.zipIdx_map_snd, ← List.range_eq_range']
      rfl
    rw [← addresses, List.countP_map, List.countP_map]
    congr 1
    funext entry
    exact lineMarked_row ..
  have halts : program.haltRows.countP lineMarked =
      [program.size].countP fun address => decide (program.JumpsTo address) := by
    unfold haltRows
    by_cases past : program.JumpsTo program.size
    · simp [past, lineMarked_row]
    · simp [past]
  rw [rows, List.countP_append, operations, halts, ← List.countP_append, ← List.range_succ]

namespace WellFormed

theorem not_jumpsTo_zero (formed : program.WellFormed) : ¬ program.JumpsTo 0 := by
  rintro ⟨start, operation, found, leads⟩
  obtain ⟨partner, -, wrong⟩ := formed.exists_partner found leads
  cases wrong

/-- A bracket stands before every address that is jumped to, and behind every bracket is one. -/
theorem jumpsTo_succ_iff (formed : program.WellFormed) {operation : Operation}
    (found : program.fetch? before = some operation) :
    program.JumpsTo (before + 1) ↔ operation.isJump = true := by
  constructor
  · rintro ⟨start, jump, fetched, leads⟩
    obtain ⟨partner, partners, same⟩ := formed.exists_partner fetched leads
    obtain rfl := Nat.succ.inj same
    rcases partners with opened | closed
    · have closes := opened.closes
      rw [found] at closes
      cases operation <;> cases closes
      rfl
    · have opens := closed.opens
      rw [found] at opens
      cases operation <;> cases opens
      rfl
  · intro jump
    obtain ⟨target, leads⟩ := Option.isSome_iff_exists.mp jump
    obtain ⟨partner, opened | closed, rfl⟩ := formed.exists_partner found leads
    · exact ⟨partner, _, (formed.jumps before partner opened).2, rfl⟩
    · exact ⟨partner, _, (formed.jumps partner before closed).1, rfl⟩

/-- Just past the last operation is jumped to exactly if this operation closes a loop. -/
theorem jumpsTo_size_iff (formed : program.WellFormed) :
    program.JumpsTo program.size ↔
      ∃ target, program.operations.back? = some (.jumpIfNonzero target) := by
  have last : program.operations.back? = program.fetch? (program.size - 1) :=
    Array.back?_eq_getElem?
  constructor
  · rintro ⟨start, jump, fetched, leads⟩
    have inside := lt_size_of_fetch? fetched
    obtain ⟨partner, opened | closed, same⟩ := formed.exists_partner fetched leads
    · refine ⟨start + 1, ?_⟩
      rw [last, same, Nat.add_sub_cancel]
      exact (formed.jumps start partner opened).2
    · -- A closing bracket leads back, so not past the end.
      have before := closed.start_lt_stop
      omega
  · rintro ⟨target, closes⟩
    rw [last] at closes
    have inside := lt_size_of_fetch? closes
    have behind := (formed.jumpsTo_succ_iff closes).mpr rfl
    rwa [Nat.sub_add_cancel (by omega)] at behind

/-- There are as many marked lines as brackets. -/
theorem countP_rows_eq (formed : program.WellFormed) :
    program.rows.countP lineMarked = program.operations.toList.countP Operation.isJump := by
  have behind : ∀ entry ∈ program.operations.toList.zipIdx,
      (decide (program.JumpsTo (entry.2 + 1)) = true ↔ entry.1.isJump = true) := by
    rintro ⟨operation, address⟩ member
    have found : program.fetch? address = some operation := by
      simpa [fetch?] using List.mem_zipIdx_iff_getElem?.mp member
    rw [decide_eq_true_iff]
    exact formed.jumpsTo_succ_iff found
  calc
    program.rows.countP lineMarked =
        (List.range (program.size + 1)).countP fun address => decide (program.JumpsTo address) :=
      program.countP_rows
    _ = (List.range program.size).countP fun before => decide (program.JumpsTo (before + 1)) := by
      rw [List.range_succ_eq_map, List.countP_cons_of_neg (by simp [formed.not_jumpsTo_zero]),
        List.countP_map]
      rfl
    _ = program.operations.toList.zipIdx.countP
        fun entry => decide (program.JumpsTo (entry.2 + 1)) := by
      rw [List.range_eq_range', show program.size = program.operations.toList.length from rfl,
        ← List.zipIdx_map_snd, List.countP_map]
      rfl
    _ = program.operations.toList.zipIdx.countP fun entry => entry.1.isJump :=
      List.countP_congr behind
    _ = program.operations.toList.countP Operation.isJump := by
      conv => rhs; rw [← List.zipIdx_map_fst 0 program.operations.toList, List.countP_map]
      rfl

end WellFormed

theorem getElem?_rows {operation : Operation} (found : program.fetch? address = some operation) :
    program.rows[address]? = some (program.operationRow (operation, address)) := by
  have here := getElem?_operationRows found
  rw [rows, List.getElem?_append_left (List.getElem?_eq_some_iff.mp here).1, here]

/-- A line is marked exactly if some operation jumps to its address. -/
theorem lineMarked_of_getElem?_rows {line : List Char}
    (listed : program.rows[address]? = some line) :
    lineMarked line = true ↔ program.JumpsTo address := by
  by_cases inside : address < program.size
  · obtain ⟨operation, found⟩ := exists_fetch? inside
    rw [getElem?_rows found] at listed
    cases listed
    rw [operationRow, lineMarked_row, decide_eq_true_iff]
  · have length : (program.operations.toList.zipIdx.map program.operationRow).length =
        program.size := by
      simp [size]
    rw [rows, List.getElem?_append_right (by omega), length] at listed
    unfold haltRows at listed
    split at listed
    case isTrue past =>
      obtain ⟨bound, rfl⟩ := List.getElem?_eq_some_iff.mp listed
      obtain rfl : address = program.size := by
        rw [List.length_singleton] at bound
        omega
      simpa [lineMarked_row] using past
    case isFalse => cases listed

/-- The line for the halt is the last if there is one, and no other says it. -/
theorem getLast?_rows_iff :
    (∃ line, program.rows.getLast? = some line ∧ lineContent line = "halt".toList) ↔
      program.JumpsTo program.size := by
  unfold rows haltRows
  split
  case isTrue past =>
    refine iff_of_true ⟨_, List.getLast?_concat .., ?_⟩ past
    exact lineContent_row ..
  case isFalse inside =>
    rw [List.append_nil]
    apply iff_of_false _ inside
    rintro ⟨line, last, halts⟩
    obtain ⟨entry, -, rfl⟩ := List.mem_map.mp (List.mem_of_getLast? last)
    rw [operationRow, lineContent_row] at halts
    exact entry.1.text_ne_halt halts

end Program

open Program

variable {source : Source} {program : Program}

/-- A program has the bracket bytes of its source as its brackets. -/
theorem countP_isJump_of_compile (compiled : compile source = .ok program) :
    program.operations.toList.countP Operation.isJump = source.openings + source.closings := by
  rw [← Operation.count_flatMap_symbols, Source.openings, Source.closings,
    ← Source.count_symbols, ← Source.count_symbols, ← symbols_of_compile compiled]
  rfl

/-- In the listing of a compiled program address zero has no mark, and the line of any other address
has one exactly if the operation before it is a bracket. The last line is one for the halt exactly if
the last operation closes a loop. There are as many marked lines as brackets in the program, which
are the bracket bytes of its source. -/
theorem compile_marks (compiled : compile source = .ok program) :
    (∀ line, (Text.lines program.listing)[0]? = some line → lineMarked line = false) ∧
      (∀ address, 1 ≤ address → address < program.size → ∃ line operation,
        (Text.lines program.listing)[address]? = some line ∧
          program.fetch? (address - 1) = some operation ∧
            (lineMarked line = true ↔ operation.isJump = true)) ∧
      ((∃ line, (Text.lines program.listing).getLast? = some line ∧
          lineContent line = "halt".toList) ↔
        ∃ target, program.operations.back? = some (.jumpIfNonzero target)) ∧
      (Text.lines program.listing).countP lineMarked =
        program.operations.toList.countP Operation.isJump ∧
      program.operations.toList.countP Operation.isJump = source.openings + source.closings := by
  have formed := wellFormed_of_compile compiled
  rw [lines_listing]
  refine ⟨?_, ?_, ?_, formed.countP_rows_eq, countP_isJump_of_compile compiled⟩
  · intro line first
    apply Bool.eq_false_iff.mpr
    intro marked
    exact formed.not_jumpsTo_zero ((lineMarked_of_getElem?_rows first).mp marked)
  · intro address positive inside
    obtain ⟨before, rfl⟩ := Nat.exists_eq_add_of_le' positive
    obtain ⟨operation, found⟩ := exists_fetch? (Nat.lt_of_succ_lt inside)
    obtain ⟨next, here⟩ := exists_fetch? inside
    have listed := getElem?_rows here
    refine ⟨_, operation, listed, found, ?_⟩
    rw [lineMarked_of_getElem?_rows listed, formed.jumpsTo_succ_iff found]
  · rw [getLast?_rows_iff, formed.jumpsTo_size_iff]

theorem compile_marks_nestedLoops :
    compile nestedLoops = .ok nestedLoopsCode ∧
      (Text.lines nestedLoopsCode.listing).countP lineMarked = 4 ∧
      nestedLoops.openings + nestedLoops.closings = 4 ∧
      ¬ ∃ line, (Text.lines nestedLoopsCode.listing).getLast? = some line ∧
        lineContent line = "halt".toList := by
  have compiled : compile nestedLoops = .ok nestedLoopsCode := rfl
  obtain ⟨-, -, halts, marks, brackets⟩ := compile_marks compiled
  have four : nestedLoopsCode.operations.toList.countP Operation.isJump = 4 := rfl
  refine ⟨compiled, marks.trans four, brackets.symm.trans four, ?_⟩
  rw [halts]
  rintro ⟨target, last⟩
  cases last

end TapeMachine
