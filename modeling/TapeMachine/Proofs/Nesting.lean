import TapeMachine.Program.Shape

/-! # Brackets that nest, and loops still open

Nested symbols have as many closing as opening brackets, and no initial part has more closing ones.
Counting is enough to tell partners apart: what follows an opening bracket cannot nest up to two
different closing ones, since the shorter stretch would end before the longer one closes.

`Unclosed` says which brackets a sequence leaves open. It is stated over sequences of anything that
can be read as symbols, so that the same stack describes the bytes of a source by their offsets and
the operations of a program by their addresses.
-/

namespace TapeMachine

/-- An element of a concatenation stands in the first part or in the second. -/
theorem append_cons_cases {α : Type} {front back first second : List α} {element : α}
    (same : front ++ element :: back = first ++ second) :
    (∃ late, first = front ++ element :: late ∧ back = late ++ second) ∨
      ∃ early, front = first ++ early ∧ second = early ++ element :: back := by
  obtain ⟨middle, rfl, split⟩ | ⟨early, rfl, rfl⟩ := List.append_eq_append_iff.mp same
  · obtain ⟨rfl, rfl⟩ | ⟨late, rfl, rfl⟩ := List.cons_eq_append_iff.mp split
    · exact .inr ⟨[], by simp, rfl⟩
    · exact .inl ⟨late, rfl, rfl⟩
  · exact .inr ⟨early, rfl, rfl⟩

theorem eq_take_append_cons_drop {α : Type} {list : List α} {element : α} {position : Nat}
    (found : list[position]? = some element) :
    list = list.take position ++ element :: list.drop (position + 1) := by
  obtain ⟨bound, rfl⟩ := List.getElem?_eq_some_iff.mp found
  rw [← List.drop_eq_getElem_cons bound, List.take_append_drop]

theorem take_length_succ {α : Type} (front back : List α) (element : α) :
    (front ++ element :: back).take (front.length + 1) = front ++ [element] := by
  rw [List.append_cons, List.take_left' (by simp)]

namespace Nested

variable {front back body rest symbols : List Symbol}

theorem count_eq (nested : Nested symbols) :
    symbols.count .loopStart = symbols.count .loopEnd := by
  induction nested with
  | nil => rfl
  | act action _ ih => simpa using ih
  | loop _ _ inner outer =>
    simp only [List.count_cons, List.count_append, beq_iff_eq, reduceCtorEq, if_true, if_false]
    omega

theorem count_take_le (nested : Nested symbols) (length : Nat) :
    (symbols.take length).count .loopEnd ≤ (symbols.take length).count .loopStart := by
  induction nested generalizing length with
  | nil => simp
  | act action _ ih =>
    cases length with
    | zero => simp
    | succ length => simpa using ih length
  | @loop body rest inner _ ihInner ihRest =>
    cases length with
    | zero => simp
    | succ length =>
      have within := ihInner length
      have whole := inner.count_eq
      rw [List.take_succ_cons, List.take_append]
      -- The cut is either inside the body or past the bracket that closes it.
      cases past : length - body.length with
      | zero => simp; omega
      | succ extra =>
        have beyond := ihRest extra
        rw [List.take_of_length_le (by omega : body.length ≤ length), List.take_succ_cons]
        simp
        omega

/-- No initial part of nested symbols has more closing than opening brackets. -/
theorem count_le (nested : Nested (front ++ back)) :
    front.count .loopEnd ≤ front.count .loopStart := by
  simpa using nested.count_take_le front.length

/-- A closing bracket needs an opening one before it. -/
theorem not_nested_of_loopEnd (nested : Nested (front ++ .loopEnd :: back)) : ¬ Nested front := by
  intro before
  rw [List.append_cons] at nested
  have bound := nested.count_le
  have same := before.count_eq
  simp at bound
  omega

/-- An opening bracket needs a closing one behind it. -/
theorem not_nested_of_loopStart (nested : Nested (front ++ .loopStart :: back)) :
    ¬ Nested back := by
  intro behind
  have bound := nested.count_le
  have whole := nested.count_eq
  have same := behind.count_eq
  simp at whole
  omega

/-- Every opening bracket has a partner. -/
theorem exists_loopEnd (nested : Nested (front ++ .loopStart :: back)) :
    ∃ body rest, back = body ++ .loopEnd :: rest ∧ Nested body := by
  generalize whole : front ++ .loopStart :: back = symbols at nested
  induction nested generalizing front back with
  | nil => simp at whole
  | act action _ ih =>
    cases front with
    | nil => simp at whole
    | cons first front => exact ih (List.cons.inj whole).2
  | @loop body rest inner _ ihInner ihRest =>
    cases front with
    | nil => exact ⟨body, rest, (List.cons.inj whole).2, inner⟩
    | cons first front =>
      obtain ⟨late, split, rfl⟩ | ⟨early, -, split⟩ := append_cons_cases (List.cons.inj whole).2
      · obtain ⟨within, behind, rfl, nested⟩ := ihInner split.symm
        exact ⟨within, behind ++ .loopEnd :: rest, by simp, nested⟩
      · obtain ⟨-, wrong⟩ | ⟨between, -, later⟩ := List.cons_eq_append_iff.mp split
        · simp at wrong
        · exact ihRest later.symm

/-- Every closing bracket has a partner. -/
theorem exists_loopStart (nested : Nested (front ++ .loopEnd :: back)) :
    ∃ rest body, front = rest ++ .loopStart :: body ∧ Nested body := by
  generalize whole : front ++ .loopEnd :: back = symbols at nested
  induction nested generalizing front back with
  | nil => simp at whole
  | act action _ ih =>
    cases front with
    | nil => simp at whole
    | cons first front =>
      obtain ⟨before, body, rfl, nested⟩ := ih (List.cons.inj whole).2
      exact ⟨first :: before, body, rfl, nested⟩
  | @loop body rest inner _ ihInner ihRest =>
    cases front with
    | nil => simp at whole
    | cons first front =>
      obtain ⟨rfl, inside⟩ := List.cons.inj whole
      obtain ⟨late, split, -⟩ | ⟨early, rfl, split⟩ := append_cons_cases inside
      · obtain ⟨before, within, rfl, nested⟩ := ihInner split.symm
        exact ⟨.loopStart :: before, within, rfl, nested⟩
      · obtain ⟨rfl, -⟩ | ⟨between, rfl, later⟩ := List.cons_eq_append_iff.mp split
        · exact ⟨[], body, by simp, inner⟩
        · obtain ⟨before, within, rfl, nested⟩ := ihRest later.symm
          exact ⟨.loopStart :: (body ++ .loopEnd :: before), within, by simp, nested⟩

end Nested

section

variable {α : Type} {kind : α → Option Symbol}

/-- Every opening bracket of nested symbols is closed in their sequence. -/
theorem Nested.exists_closer {read : List α} {opener : α} {position : Nat}
    (nested : Nested (read.filterMap kind)) (found : read[position]? = some opener)
    (opens : kind opener = some Symbol.loopStart) :
    ∃ body closer rest, read.drop (position + 1) = body ++ closer :: rest ∧
      kind closer = some Symbol.loopEnd ∧ Nested (body.filterMap kind) := by
  rw [eq_take_append_cons_drop found, List.filterMap_append,
    List.filterMap_cons_some opens] at nested
  obtain ⟨body, rest, split, inner⟩ := nested.exists_loopEnd
  obtain ⟨first, second, whole, rfl, behind⟩ := List.filterMap_eq_append_iff.mp split
  obtain ⟨skipped, closer, last, rfl, comments, closes, -⟩ := List.filterMap_eq_cons_iff.mp behind
  refine ⟨first ++ skipped, closer, last, by simp [whole], closes, ?_⟩
  rw [List.filterMap_append, List.filterMap_eq_nil_iff.mpr comments, List.append_nil]
  exact inner

/-- The brackets that a sequence leaves open: the last list holds their positions, innermost
first. -/
inductive Unclosed (kind : α → Option Symbol) : List α → List Nat → Prop where
  | closed {read : List α} (nested : Nested (read.filterMap kind)) : Unclosed kind read []
  | opened {outer inner : List α} {opener : α} {stack : List Nat}
    (unclosed : Unclosed kind outer stack) (opens : kind opener = some Symbol.loopStart)
    (nested : Nested (inner.filterMap kind)) :
    Unclosed kind (outer ++ opener :: inner) (outer.length :: stack)

namespace Unclosed

variable {read more : List α} {element opener closer : α} {stack : List Nat} {position : Nat}

/-- Nothing is open in nested symbols, so they change nothing. -/
theorem append (unclosed : Unclosed kind read stack) (nested : Nested (more.filterMap kind)) :
    Unclosed kind (read ++ more) stack := by
  cases unclosed with
  | closed before => exact .closed (by simpa using before.append nested)
  | opened unclosed opens inner =>
    rw [List.append_assoc, List.cons_append]
    exact unclosed.opened opens (by simpa using inner.append nested)

/-- An opening bracket is open from its position on. -/
theorem append_loopStart (unclosed : Unclosed kind read stack)
    (opens : kind element = some Symbol.loopStart) :
    Unclosed kind (read ++ [element]) (read.length :: stack) :=
  unclosed.opened opens .nil

/-- Behind the innermost open bracket everything nests. -/
theorem exists_split (unclosed : Unclosed kind read (position :: stack)) :
    ∃ outer opener inner, read = outer ++ opener :: inner ∧ outer.length = position ∧
      kind opener = some .loopStart ∧ Nested (inner.filterMap kind) ∧
        Unclosed kind outer stack := by
  cases unclosed with
  | @opened outer inner opener _ unclosed opens nested =>
    exact ⟨outer, opener, inner, rfl, rfl, opens, nested, unclosed⟩

/-- A closing bracket closes the innermost loop. -/
theorem append_loopEnd (unclosed : Unclosed kind read (position :: stack))
    (closes : kind element = some Symbol.loopEnd) : Unclosed kind (read ++ [element]) stack := by
  obtain ⟨outer, opener, inner, rfl, -, opens, nested, unclosed⟩ := unclosed.exists_split
  have loop : Nested ((opener :: (inner ++ [element])).filterMap kind) := by
    simpa [opens, closes] using Nested.loop nested .nil
  simpa using unclosed.append loop

/-- The open brackets stand in what is read, each before those opened later. -/
theorem lt_length (unclosed : Unclosed kind read stack) :
    ∀ position ∈ stack, position < read.length := by
  induction unclosed with
  | closed _ => simp
  | @opened outer inner opener _ _ _ _ ih =>
    intro position member
    rw [List.length_append]
    rcases List.mem_cons.mp member with rfl | member
    · simp
    · have bound := ih position member
      omega

theorem lt_of_mem (unclosed : Unclosed kind read (position :: stack)) :
    ∀ earlier ∈ stack, earlier < position := by
  obtain ⟨outer, _, _, _, rfl, _, _, unclosed⟩ := unclosed.exists_split
  exact unclosed.lt_length

theorem nested (unclosed : Unclosed kind read []) : Nested (read.filterMap kind) := by
  cases unclosed with
  | closed nested => exact nested

/-- As many loops are open as there are opening brackets without a closing one. -/
theorem count_eq (unclosed : Unclosed kind read stack) :
    (read.filterMap kind).count .loopStart =
      (read.filterMap kind).count .loopEnd + stack.length := by
  induction unclosed with
  | closed nested => exact nested.count_eq
  | opened _ opens nested ih =>
    have inner := nested.count_eq
    simp [opens]
    omega

/-- Where loops are merely open, no initial part closes more than it opens. -/
theorem count_le (unclosed : Unclosed kind (read ++ more) stack) :
    (read.filterMap kind).count .loopEnd ≤ (read.filterMap kind).count .loopStart := by
  generalize whole : read ++ more = all at unclosed
  induction unclosed generalizing read more with
  | closed nested =>
    rw [← whole, List.filterMap_append] at nested
    exact nested.count_le
  | @opened outer inner opener _ unclosed opens nested ih =>
    obtain ⟨late, rfl, rfl⟩ | ⟨early, rfl, -⟩ := append_cons_cases whole.symm
    · rw [List.filterMap_append] at nested
      have before := unclosed.count_eq
      have after := nested.count_le
      simp [opens]
      omega
    · exact ih rfl

theorem exists_opener (unclosed : Unclosed kind read stack) (member : position ∈ stack) :
    ∃ opener, read[position]? = some opener ∧ kind opener = some Symbol.loopStart := by
  induction unclosed with
  | closed _ => cases member
  | @opened outer inner opener stack unclosed opens _ ih =>
    rcases List.mem_cons.mp member with rfl | member
    · exact ⟨opener, by simp, opens⟩
    · obtain ⟨earlier, found, kind⟩ := ih member
      have bound := (List.getElem?_eq_some_iff.mp found).1
      exact ⟨earlier, by rw [List.getElem?_append_left bound, found], kind⟩

/-- An opening bracket that is not left open is closed. -/
theorem exists_closer (unclosed : Unclosed kind read stack) (found : read[position]? = some opener)
    (opens : kind opener = some Symbol.loopStart) (done : position ∉ stack) :
    ∃ body closer rest, read.drop (position + 1) = body ++ closer :: rest ∧
      kind closer = some Symbol.loopEnd ∧ Nested (body.filterMap kind) := by
  induction unclosed with
  | closed nested => exact nested.exists_closer found opens
  | @opened outer inner last stack _ _ nested ih =>
    rcases Nat.lt_trichotomy position outer.length with before | here | behind
    · rw [List.getElem?_append_left before] at found
      obtain ⟨body, closer, rest, split, closes, within⟩ :=
        ih found fun member => done (List.mem_cons_of_mem _ member)
      refine ⟨body, closer, rest ++ last :: inner, ?_, closes, within⟩
      rw [List.drop_append_of_le_length before, split, List.append_assoc, List.cons_append]
    · exact absurd (here ▸ List.mem_cons_self ..) done
    · obtain ⟨extra, rfl⟩ := Nat.exists_eq_add_of_lt behind
      have past : outer.length + extra + 1 = (outer ++ [last]).length + extra := by
        rw [List.length_append, List.length_singleton, Nat.add_right_comm]
      rw [List.append_cons, past] at found ⊢
      rw [List.getElem?_append_right (Nat.le_add_right ..), Nat.add_sub_cancel_left] at found
      rw [Nat.add_assoc, List.drop_length_add_append]
      exact nested.exists_closer found opens

/-- Nothing closes a bracket that is left open. -/
theorem not_nested_of_mem (unclosed : Unclosed kind read stack) (member : position ∈ stack)
    {body rest : List α} (split : read.drop (position + 1) = body ++ closer :: rest)
    (closes : kind closer = some Symbol.loopEnd) : ¬ Nested (body.filterMap kind) := by
  induction unclosed generalizing rest with
  | closed _ => cases member
  | @opened outer inner opener stack unclosed opens nested ih =>
    rcases List.mem_cons.mp member with rfl | earlier
    · rw [List.append_cons, List.drop_left' (by simp)] at split
      rw [split, List.filterMap_append, List.filterMap_cons_some closes] at nested
      exact nested.not_nested_of_loopEnd
    · have before := unclosed.lt_length position earlier
      rw [List.drop_append_of_le_length before] at split
      obtain ⟨late, within, -⟩ | ⟨early, rfl, behind⟩ := append_cons_cases split.symm
      · exact ih earlier within
      · obtain ⟨-, same⟩ | ⟨between, rfl, rfl⟩ := List.cons_eq_append_iff.mp behind
        · rw [← (List.cons.inj same).1, closes] at opens
          cases opens
        -- What would close the later bracket first ends too early for the earlier one.
        · rw [List.filterMap_append, List.filterMap_cons_some closes] at nested
          rw [List.filterMap_append, List.filterMap_cons_some opens]
          intro whole
          obtain ⟨first, second, closed, inside⟩ := whole.exists_loopEnd
          rw [closed, List.append_assoc, List.cons_append] at nested
          exact nested.not_nested_of_loopEnd inside

/-- Later brackets stand behind earlier ones. -/
theorem pairwise (unclosed : Unclosed kind read stack) :
    stack.Pairwise fun later earlier => earlier < later := by
  induction unclosed with
  | closed _ => exact .nil
  | opened unclosed _ _ ih => exact List.pairwise_cons.mpr ⟨unclosed.lt_length, ih⟩

end Unclosed

end

end TapeMachine
