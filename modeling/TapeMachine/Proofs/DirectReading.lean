import TapeMachine.Direct
import TapeMachine.Program.Shape
import TapeMachine.Proofs.Scanning

/-! # Reading a source directly, symbol by symbol

Direct reading goes byte by byte and finds partners by counting. In a source whose brackets nest
neither matters: comments are passed without effect, and a search passes over whatever nests, so it
ends at the bracket that nesting names as the partner.
-/

namespace TapeMachine

/-- The first symbol of a source has only comments before it. -/
theorem Source.exists_comments {source : Source} {symbol : Symbol} {rest : List Symbol}
    (read : source.symbols = symbol :: rest) :
    ∃ comments back : Source, source = comments ++ symbol.toByte :: back ∧
      comments.symbols = [] ∧ back.symbols = rest :=
  exists_split (show source.symbols = [] ++ symbol :: rest from read)

namespace Direct

section

variable {inside back : Source} (depth position : Nat)

theorem loopExit_comments (silent : inside.symbols = []) :
    loopExit depth (inside ++ back) position = loopExit depth back (position + inside.length) := by
  have comments := List.filterMap_eq_nil_iff.mp silent
  clear silent
  induction inside generalizing position with
  | nil => rfl
  | cons byte rest ih =>
    obtain ⟨comment, comments⟩ := List.forall_mem_cons.mp comments
    have skipped := ih (position + 1) comments
    rw [Nat.add_assoc, Nat.add_comm 1] at skipped
    simpa [loopExit, comment] using skipped

theorem loopEntry_comments (silent : inside.symbols = []) :
    loopEntry depth (inside.reverse ++ back) position =
      loopEntry depth back (position - inside.length) := by
  have comments := List.filterMap_eq_nil_iff.mp silent
  clear silent
  induction inside generalizing back position with
  | nil => rfl
  | cons byte rest ih =>
    obtain ⟨comment, comments⟩ := List.forall_mem_cons.mp comments
    have skipped : loopEntry depth (rest.reverse ++ byte :: back) position =
        loopEntry depth (byte :: back) (position - rest.length) := ih position comments
    simpa [loopEntry, comment, Nat.sub_sub] using skipped

/-- The search for a closing bracket passes over what nests. -/
theorem loopExit_append (nested : Nested inside.symbols) :
    loopExit depth (inside ++ back) position = loopExit depth back (position + inside.length) := by
  generalize read : inside.symbols = symbols at nested
  induction nested generalizing inside back depth position with
  | nil => exact loopExit_comments depth position read
  | act action _ ih =>
    obtain ⟨comments, rest, rfl, silent, behind⟩ := Source.exists_comments read
    rw [List.append_assoc, loopExit_comments _ _ silent, List.cons_append]
    simp only [loopExit, Symbol.ofByte?_toByte, ih _ _ behind]
    simp [Nat.add_assoc, Nat.add_comm 1]
  | loop _ _ ihInner ihRest =>
    obtain ⟨comments, within, rfl, silent, behind⟩ := Source.exists_comments read
    obtain ⟨body, rest, rfl, inner, after⟩ := Source.exists_split behind
    rw [List.append_assoc, loopExit_comments _ _ silent, List.cons_append, List.append_assoc]
    simp only [loopExit, Symbol.ofByte?_toByte, ihInner _ _ inner, List.cons_append,
      ihRest _ _ after]
    congr 1
    simp
    omega

/-- The search for an opening bracket passes over what nests. -/
theorem loopEntry_append (nested : Nested inside.symbols) :
    loopEntry depth (inside.reverse ++ back) position =
      loopEntry depth back (position - inside.length) := by
  generalize read : inside.symbols = symbols at nested
  induction nested generalizing inside back depth position with
  | nil => exact loopEntry_comments depth position read
  | act action _ ih =>
    obtain ⟨comments, rest, rfl, silent, behind⟩ := Source.exists_comments read
    rw [List.reverse_append, List.reverse_cons, List.append_assoc, List.append_assoc,
      ih _ _ behind]
    simp only [List.cons_append, List.nil_append, loopEntry, Symbol.ofByte?_toByte,
      loopEntry_comments _ _ silent]
    congr 1
    simp
    omega
  | loop _ _ ihInner ihRest =>
    obtain ⟨comments, within, rfl, silent, behind⟩ := Source.exists_comments read
    obtain ⟨body, rest, rfl, inner, after⟩ := Source.exists_split behind
    rw [List.reverse_append, List.reverse_cons, List.reverse_append, List.reverse_cons]
    simp only [List.append_assoc, List.cons_append, List.nil_append, ihRest _ _ after, loopEntry,
      Symbol.ofByte?_toByte, ihInner _ _ inner, loopEntry_comments _ _ silent]
    congr 1
    simp
    omega

end

section

variable {σ : Type} [Console σ] {front inside back : Source} {tape : Tape} {console : σ}

/-- Reading ends behind the last byte. -/
theorem step_end (source : Source) :
    step source ⟨source.length, tape, console⟩ = .stopped ⟨tape, console, none⟩ := by
  simp [step]

theorem step_act (action : Action) :
    step (front ++ (Symbol.act action).toByte :: back) ⟨front.length, tape, console⟩ =
      perform action ⟨front.length, tape, console⟩ := by
  simp [step]

/-- At an opening bracket over a zero cell reading goes on behind the partner. -/
theorem step_loopStart (nested : Nested inside.symbols) :
    step (front ++ Symbol.loopStart.toByte :: (inside ++ Symbol.loopEnd.toByte :: back))
        ⟨front.length, tape, console⟩ =
      .running ⟨if tape.load = 0 then front.length + 1 + inside.length + 1 else front.length + 1,
        tape, console⟩ := by
  simp [step, loopExit_append 0 (front.length + 1) nested, loopExit]

/-- At a closing bracket over any other cell reading goes on behind the partner. -/
theorem step_loopEnd (nested : Nested inside.symbols) :
    step ((front ++ Symbol.loopStart.toByte :: inside) ++ Symbol.loopEnd.toByte :: back)
        ⟨(front ++ Symbol.loopStart.toByte :: inside).length, tape, console⟩ =
      .running ⟨if tape.load = 0 then front.length + 1 + inside.length + 1 else front.length + 1,
        tape, console⟩ := by
  have entry : loopEntry 0 (front ++ Symbol.loopStart.toByte :: inside).reverse
      (front ++ Symbol.loopStart.toByte :: inside).length = front.length + 1 := by
    rw [List.reverse_append, List.reverse_cons, List.append_assoc, loopEntry_append _ _ nested]
    simp [loopEntry]
    omega
  rw [step]
  simp only [List.getElem?_append_right (Nat.le_refl _), Nat.sub_self, List.getElem?_cons_zero,
    Symbol.ofByte?_toByte, List.take_left, entry]
  simp [Nat.add_assoc, Nat.add_comm 1]

/-- Comments are passed one step each. -/
theorem runSteps_comments (silent : inside.symbols = []) :
    runSteps (step (front ++ (inside ++ back))) inside.length ⟨front.length, tape, console⟩ =
      .running ⟨(front ++ inside).length, tape, console⟩ := by
  have comments := List.filterMap_eq_nil_iff.mp silent
  clear silent
  induction inside generalizing front with
  | nil => simp
  | cons byte rest ih =>
    obtain ⟨comment, comments⟩ := List.forall_mem_cons.mp comments
    have passed : step (front ++ (byte :: rest ++ back)) ⟨front.length, tape, console⟩ =
        .running ⟨(front ++ [byte]).length, tape, console⟩ := by
      simp [step, comment]
    have skipped : runSteps (step ((front ++ [byte]) ++ (rest ++ back))) rest.length
        ⟨(front ++ [byte]).length, tape, console⟩ =
          .running ⟨((front ++ [byte]) ++ rest).length, tape, console⟩ := ih comments
    rw [List.length_cons, runSteps_succ, passed, Progress.bind]
    simpa using skipped

end

end Direct

end TapeMachine
