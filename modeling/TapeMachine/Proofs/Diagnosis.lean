import TapeMachine.Proofs.Balance
import TapeMachine.Proofs.Folding

/-! # Which sources compile, and what is reported of the others

Whether a source compiles depends on its bracket bytes alone. `compile_diagnosis` says it by
counting: a source compiles if no initial part has more closing than opening brackets and the totals
agree. In a source that has such a part, the first closing bracket that makes one is reported,
whatever follows it; in a source that has none but opens more loops than it closes, the rightmost
opening bracket that nothing closes.

The stack of the assembly, seen through the offsets it keeps, is the stack of brackets that the
bytes read so far leave open. That is the invariant here; the program assembled meanwhile plays no
part.
-/

namespace TapeMachine

namespace Assembly

variable {assembly other : Assembly}

/-- The offsets of the brackets still open, innermost first. -/
def offsets (assembly : Assembly) : List Nat :=
  assembly.openLoops.map OpenLoop.offset

/-- Which token has no place, and which loops are left open, depends on the offsets alone. -/
theorem map_offsets_addAll (tokens : List Token) (same : assembly.offsets = other.offsets) :
    (assembly.addAll tokens).map offsets = (other.addAll tokens).map offsets := by
  induction tokens generalizing assembly other with
  | nil => exact congrArg Except.ok same
  | cons token rest ih =>
    obtain ⟨program, openLoops⟩ := assembly
    obtain ⟨program', openLoops'⟩ := other
    cases token with
    | run action count offset => exact ih same
    | loopStart offset => exact ih (congrArg (offset :: ·) same)
    | loopEnd offset =>
      cases openLoops with
      | nil =>
        cases openLoops' with
        | nil => rfl
        | cons start openLoops' => cases same
      | cons start openLoops =>
        cases openLoops' with
        | nil => cases same
        | cons start' openLoops' => exact ih (List.cons.inj same).2

/-- Folding does not touch the brackets. -/
theorem map_offsets_addAll_cons (assembly : Assembly) (action : Action) (offset : Nat)
    (tokens : List Token) :
    (assembly.addAll (Token.cons ⟨.act action, offset⟩ tokens)).map offsets =
      (assembly.addAll tokens).map offsets := by
  obtain ⟨count, first, rest, rfl, extended⟩ | ⟨-, started⟩ := Token.cons_act action offset tokens
  · rw [extended]
    exact map_offsets_addAll rest rfl
  · rw [started]
    exact map_offsets_addAll tokens rfl

/-- What the bytes of a source say about its brackets: which are left open, or which one is the
first without a partner. -/
def Explains (source : Source) : Except CompileError (List Nat) → Prop
  | .ok offsets => Unclosed Symbol.ofByte? source offsets
  | .error error => ∃ front back, source = front ++ Symbol.loopEnd.toByte :: back ∧
      Nested front.symbols ∧ error = .unmatchedEnd front.length

/-- The stack of the assembly follows the brackets of the source, byte by byte. -/
theorem explains_addAll {front : Source}
    (unclosed : Unclosed Symbol.ofByte? front assembly.offsets) (back : Source) :
    Explains (front ++ back)
      ((assembly.addAll (Token.fold (back.locatedFrom front.length))).map offsets) := by
  induction back generalizing front assembly with
  | nil =>
    rw [List.append_nil]
    exact unclosed
  | cons byte back ih =>
    rw [List.append_cons, Source.locatedFrom_cons]
    have length : front.length + 1 = (front ++ [byte]).length := by simp
    rw [length]
    cases read : Symbol.ofByte? byte with
    | none =>
      have plain : Nested ([byte].filterMap Symbol.ofByte?) := by simpa [read] using Nested.nil
      exact ih (unclosed.append plain)
    | some symbol =>
      obtain ⟨program, openLoops⟩ := assembly
      cases symbol with
      | act action =>
        have plain : Nested ([byte].filterMap Symbol.ofByte?) := by
          simpa [read] using Nested.act action .nil
        have behind := ih (unclosed.append plain)
        rw [← map_offsets_addAll_cons _ action front.length] at behind
        exact behind
      | loopStart =>
        have opened : Unclosed Symbol.ofByte? (front ++ [byte])
            (offsets ⟨program.push (.jumpIfZero 0), ⟨program.size, front.length⟩ :: openLoops⟩) :=
          unclosed.append_loopStart read
        exact ih opened
      | loopEnd =>
        cases openLoops with
        | nil =>
          refine ⟨front, back, ?_, unclosed.nested, rfl⟩
          rw [← List.append_cons, Symbol.ofByte?_eq_some_iff.mp read]
        | cons start openLoops =>
          have closed : Unclosed Symbol.ofByte? (front ++ [byte]) (openLoops.map OpenLoop.offset) :=
            unclosed.append_loopEnd read
          exact ih closed

end Assembly

/-- A source compiles and its brackets nest, or a closing bracket follows a part that nests, or
behind some opening bracket everything nests. -/
theorem compile_cases (source : Source) :
    ((∃ program, compile source = .ok program) ∧ Nested source.symbols) ∨
    (∃ front back : Source, source = front ++ Symbol.loopEnd.toByte :: back ∧
      Nested front.symbols ∧ compile source = .error (.unmatchedEnd front.length)) ∨
    ∃ (front back : Source) (stack : List Nat), source = front ++ Symbol.loopStart.toByte :: back ∧
      Unclosed Symbol.ofByte? front stack ∧ Nested back.symbols ∧
      compile source = .error (.unmatchedStart front.length) := by
  have initial : Unclosed Symbol.ofByte? [] Assembly.empty.offsets := .closed .nil
  have explained := Assembly.explains_addAll initial source
  change Assembly.Explains source
    ((Assembly.empty.addAll (Token.ofSource source)).map Assembly.offsets) at explained
  unfold compile
  cases assembled : Assembly.empty.addAll (Token.ofSource source) with
  | error error =>
    rw [assembled] at explained
    obtain ⟨front, back, whole, nested, rfl⟩ := explained
    exact .inr (.inl ⟨front, back, whole, nested, rfl⟩)
  | ok assembly =>
    rw [assembled] at explained
    obtain ⟨program, openLoops⟩ := assembly
    cases openLoops with
    | nil => exact .inl ⟨⟨program, rfl⟩, explained.nested⟩
    | cons start openLoops =>
      obtain ⟨front, opener, back, whole, length, opens, nested, unclosed⟩ := explained.exists_split
      rw [Symbol.ofByte?_eq_some_iff.mp opens] at whole
      refine .inr (.inr ⟨front, back, _, whole, unclosed, nested, ?_⟩)
      rw [length]
      rfl

namespace Source

variable {source front back : Source} {stack : List Nat}

/-- The bracket at `start` opens a loop and the one at `stop` closes it. -/
structure Matches (source : Source) (start stop : Nat) : Prop where
  opens : source[start]? = some Symbol.loopStart.toByte
  closes : source[stop]? = some Symbol.loopEnd.toByte
  start_lt_stop : start < stop
  balanced : Balanced ((source.take stop).drop (start + 1))

/-- The closing bracket at `offset` is the first with more closing than opening ones up to it. -/
structure FirstUnopened (source : Source) (offset : Nat) : Prop where
  closes : source[offset]? = some Symbol.loopEnd.toByte
  covered : Covered (source.take offset)
  exceeds : openings (source.take (offset + 1)) < closings (source.take (offset + 1))

/-- The opening bracket at `offset` is the rightmost that nothing closes. -/
structure LastUnclosed (source : Source) (offset : Nat) : Prop where
  opens : source[offset]? = some Symbol.loopStart.toByte
  unmatched : ∀ stop, ¬ source.Matches offset stop
  rightmost : ∀ later, offset < later → source[later]? = some Symbol.loopStart.toByte →
    ∃ stop, source.Matches later stop

theorem firstUnopened_of_nested (nested : Nested front.symbols) (back : Source) :
    FirstUnopened (front ++ Symbol.loopEnd.toByte :: back) front.length where
  closes := by simp
  covered := by
    rw [List.take_left]
    exact (balanced_of_nested nested).covered
  exceeds := by
    have same := (balanced_of_nested nested).closings_eq
    rw [take_length_succ, closings_append_loopEnd, openings_append_loopEnd]
    omega

theorem FirstUnopened.not_covered {offset : Nat} (first : source.FirstUnopened offset) :
    ¬ source.Covered :=
  fun covered => Nat.not_le_of_lt first.exceeds (covered (offset + 1))

theorem FirstUnopened.le {offset other : Nat} (first : source.FirstUnopened offset)
    (second : source.FirstUnopened other) : offset ≤ other := by
  apply Nat.le_of_not_lt
  intro after
  have bound := first.covered (other + 1)
  rw [List.take_take, Nat.min_eq_left (by omega)] at bound
  exact Nat.not_le_of_lt second.exceeds bound

theorem matches_of_balanced {inner : Source} (balanced : inner.Balanced) (front back : Source) :
    Matches (front ++ Symbol.loopStart.toByte :: (inner ++ Symbol.loopEnd.toByte :: back))
      front.length (front.length + 1 + inner.length) := by
  have regroup : front ++ Symbol.loopStart.toByte :: (inner ++ Symbol.loopEnd.toByte :: back) =
      (front ++ [Symbol.loopStart.toByte]) ++ inner ++ Symbol.loopEnd.toByte :: back := by simp
  have length : front.length + 1 + inner.length =
      ((front ++ [Symbol.loopStart.toByte]) ++ inner).length := by simp; omega
  refine ⟨by simp, ?_, by omega, ?_⟩
  · rw [regroup, length]
    simp
  · rw [regroup, length, List.take_left, List.drop_left' (by simp)]
    exact balanced

/-- Behind the rightmost bracket that nothing closes everything nests. -/
theorem lastUnclosed_of_nested (front : Source) (nested : Nested back.symbols) :
    LastUnclosed (front ++ Symbol.loopStart.toByte :: back) front.length where
  opens := by simp
  unmatched := by
    rintro stop ⟨-, closes, after, balanced⟩
    obtain ⟨extra, rfl⟩ := Nat.exists_eq_add_of_le (Nat.succ_le_of_lt after)
    have past : front.length + 1 = (front ++ [Symbol.loopStart.toByte]).length := by simp
    rw [List.append_cons, Nat.succ_eq_add_one, past] at closes balanced
    rw [List.take_length_add_append, List.drop_left] at balanced
    rw [List.getElem?_append_right (Nat.le_add_right ..), Nat.add_sub_cancel_left] at closes
    have bound := (balanced_of_nested nested).covered (extra + 1)
    rw [List.take_add_one, closes, Option.toList_some, closings_append_loopEnd,
      openings_append_loopEnd] at bound
    have same := balanced.closings_eq
    omega
  rightmost := by
    intro later after opens
    obtain ⟨extra, rfl⟩ := Nat.exists_eq_add_of_le (Nat.succ_le_of_lt after)
    have past : front.length + 1 = (front ++ [Symbol.loopStart.toByte]).length := by simp
    rw [List.append_cons, Nat.succ_eq_add_one, past] at opens ⊢
    rw [List.getElem?_append_right (Nat.le_add_right ..), Nat.add_sub_cancel_left] at opens
    have bound := (List.getElem?_eq_some_iff.mp opens).1
    have split := eq_take_append_cons_drop opens
    rw [split, symbols_append, symbols_toByte_cons] at nested
    obtain ⟨body, rest, behind, within⟩ := nested.exists_loopEnd
    obtain ⟨inner, tail, last, rfl, -⟩ := exists_split behind
    have position : (front ++ [Symbol.loopStart.toByte] ++ back.take extra).length =
        (front ++ [Symbol.loopStart.toByte]).length + extra := by
      rw [List.length_append, List.length_take]
      omega
    have pair := matches_of_balanced (balanced_of_nested within)
      (front ++ [Symbol.loopStart.toByte] ++ back.take extra) tail
    rw [position, ← last, List.append_assoc, ← split] at pair
    exact ⟨_, pair⟩

end Source

/-- A closing bracket without a partner is reported whatever follows it. -/
theorem compile_eq_unmatchedEnd {front : Source} (nested : Nested front.symbols) (back : Source) :
    compile (front ++ Symbol.loopEnd.toByte :: back) = .error (.unmatchedEnd front.length) := by
  have first := Source.firstUnopened_of_nested nested back
  obtain ⟨-, whole⟩ | ⟨front', back', same, nested', reported⟩ |
      ⟨front', back', stack, same, unclosed, nested', -⟩ :=
    compile_cases (front ++ Symbol.loopEnd.toByte :: back)
  · exact absurd (Source.balanced_of_nested whole).covered first.not_covered
  · have first' := Source.firstUnopened_of_nested nested' back'
    rw [← same] at first'
    rw [reported, Nat.le_antisymm (first.le first') (first'.le first)]
  · have open' := unclosed.opened (Symbol.ofByte?_toByte .loopStart) nested'
    rw [← same] at open'
    exact absurd (Source.covered_of_unclosed open') first.not_covered

/-- A source compiles exactly if its bracket bytes balance. -/
theorem exists_compile_iff (source : Source) :
    (∃ program, compile source = .ok program) ↔ source.Balanced := by
  obtain ⟨compiled, nested⟩ | ⟨front, back, rfl, nested, reported⟩ |
      ⟨front, back, stack, rfl, unclosed, nested, reported⟩ := compile_cases source
  · exact ⟨fun _ => Source.balanced_of_nested nested, fun _ => compiled⟩
  · constructor
    · rintro ⟨program, compiled⟩
      rw [reported] at compiled
      cases compiled
    · intro balanced
      exact absurd balanced.covered (Source.firstUnopened_of_nested nested back).not_covered
  · constructor
    · rintro ⟨program, compiled⟩
      rw [reported] at compiled
      cases compiled
    · intro balanced
      have more := Source.openings_of_unclosed
        (unclosed.opened (Symbol.ofByte?_toByte .loopStart) nested)
      rw [balanced.closings_eq, List.length_cons] at more
      omega

/-- A source compiles exactly if its bracket bytes balance. Otherwise, if some initial part has more
closing than opening brackets, the first closing bracket that makes one is reported, whatever
follows it; and if none has, the rightmost opening bracket that nothing closes. The byte at the
reported offset is always the reported bracket. -/
theorem compile_diagnosis (source : Source) :
    ((∃ program, compile source = .ok program) ↔ source.Balanced) ∧
      (¬ source.Covered → ∃ offset, source.FirstUnopened offset ∧
        compile source = .error (.unmatchedEnd offset) ∧
        ∀ rest, compile (source.take (offset + 1) ++ rest) = .error (.unmatchedEnd offset)) ∧
      (source.Covered → source.closings < source.openings → ∃ offset, source.LastUnclosed offset ∧
        compile source = .error (.unmatchedStart offset)) ∧
      ∀ error, compile source = .error error →
        source[error.offset]? = some error.bracket.toByte := by
  refine ⟨exists_compile_iff source, ?_⟩
  obtain ⟨⟨program, compiled⟩, nested⟩ | ⟨front, back, rfl, nested, reported⟩ |
      ⟨front, back, stack, rfl, unclosed, nested, reported⟩ := compile_cases source
  · have balanced := Source.balanced_of_nested nested
    refine ⟨?_, ?_, ?_⟩
    · intro uncovered
      exact absurd balanced.covered uncovered
    · intro _ fewer
      exact absurd balanced.closings_eq (Nat.ne_of_lt fewer)
    · intro error reported
      rw [compiled] at reported
      cases reported
  · have first := Source.firstUnopened_of_nested nested back
    refine ⟨?_, ?_, ?_⟩
    · intro _
      refine ⟨front.length, first, reported, ?_⟩
      intro rest
      rw [take_length_succ, ← List.append_cons]
      exact compile_eq_unmatchedEnd nested rest
    · intro covered
      exact absurd covered first.not_covered
    · intro error failed
      rw [reported] at failed
      cases failed
      exact first.closes
  · have last := Source.lastUnclosed_of_nested front nested
    have whole := unclosed.opened (Symbol.ofByte?_toByte .loopStart) nested
    refine ⟨?_, ?_, ?_⟩
    · intro uncovered
      exact absurd (Source.covered_of_unclosed whole) uncovered
    · intro _ _
      exact ⟨front.length, last, reported⟩
    · intro error failed
      rw [reported] at failed
      cases failed
      exact last.opens

end TapeMachine
