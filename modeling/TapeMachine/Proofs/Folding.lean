import TapeMachine.Proofs.Assembly

/-! # Folding runs

Folding is the inverse of spelling out. `Token.fold` makes runs that are as long as they can be, and
a sequence of operations with such runs is what folding makes of the symbols it stands for, jump
targets aside.
-/

namespace TapeMachine

/-- Each run is counted, and none continues the one before it. -/
inductive Folded : List Operation → Prop where
  | nil : Folded []
  | jumpIfZero (target : Nat) {rest : List Operation} (folded : Folded rest) :
    Folded (.jumpIfZero target :: rest)
  | jumpIfNonzero (target : Nat) {rest : List Operation} (folded : Folded rest) :
    Folded (.jumpIfNonzero target :: rest)
  | perform (action : Action) {count : Nat} {rest : List Operation} (counted : 0 < count)
    (ends : ∀ more, rest.head? ≠ some (.perform action more)) (folded : Folded rest) :
    Folded (.perform action count :: rest)

namespace Folded

variable {operations : List Operation}

theorem counted (folded : Folded operations) {address count : Nat} {action : Action}
    (found : operations[address]? = some (.perform action count)) : 0 < count := by
  induction folded generalizing address with
  | nil => cases found
  | jumpIfZero target _ ih | jumpIfNonzero target _ ih =>
    cases address with
    | zero => cases found
    | succ address => exact ih found
  | perform action counted _ _ ih =>
    cases address with
    | zero =>
      cases found
      exact counted
    | succ address => exact ih found

theorem ends (folded : Folded operations) {address first second : Nat} {action : Action}
    (found : operations[address]? = some (.perform action first)) :
    operations[address + 1]? ≠ some (.perform action second) := by
  induction folded generalizing address with
  | nil => cases found
  | jumpIfZero target _ ih | jumpIfNonzero target _ ih =>
    cases address with
    | zero => cases found
    | succ address => exact ih found
  | perform action _ ends _ ih =>
    cases address with
    | zero =>
      cases found
      rw [List.getElem?_cons_succ, ← List.head?_eq_getElem?]
      exact ends second
    | succ address => exact ih found

/-- That runs are counted and end where they should can be seen from any two neighbours. -/
theorem of_getElem?
    (counted : ∀ (address : Nat) action count,
      operations[address]? = some (Operation.perform action count) → 0 < count)
    (ends : ∀ (address : Nat) action first second,
      operations[address]? = some (Operation.perform action first) →
        operations[address + 1]? ≠ some (Operation.perform action second)) : Folded operations := by
  induction operations with
  | nil => exact .nil
  | cons operation rest ih =>
    have folded : Folded rest :=
      ih (fun address => counted (address + 1)) (fun address => ends (address + 1))
    cases operation with
    | jumpIfZero target => exact .jumpIfZero target folded
    | jumpIfNonzero target => exact .jumpIfNonzero target folded
    | perform action count =>
      refine .perform action (counted 0 action count rfl) ?_ folded
      intro more
      rw [List.head?_eq_getElem?]
      exact ends 0 action count more rfl

end Folded

namespace Token

variable {action : Action} {tokens : List Token} {located : List Located}

/-- An action either extends the run it meets or starts one of its own. -/
theorem cons_act (action : Action) (offset : Nat) (tokens : List Token) :
    (∃ count first rest, tokens = .run action count first :: rest ∧
      cons ⟨.act action, offset⟩ tokens = .run action (count + 1) offset :: rest) ∨
    ((∀ more, (tokens.map operation).head? ≠ some (.perform action more)) ∧
      cons ⟨.act action, offset⟩ tokens = .run action 1 offset :: tokens) := by
  cases tokens with
  | nil => exact .inr ⟨by simp, rfl⟩
  | cons first rest =>
    cases first with
    | run other count first =>
      by_cases same : action = other
      · subst same
        exact .inl ⟨count, first, rest, rfl, by simp [cons]⟩
      · exact .inr ⟨by simp [operation, Ne.symm same], by simp [cons, same]⟩
    | loopStart first | loopEnd first => exact .inr ⟨by simp [operation], rfl⟩

theorem folded_cons (located : Located) (folded : Folded (tokens.map operation)) :
    Folded ((cons located tokens).map operation) := by
  obtain ⟨symbol, offset⟩ := located
  cases symbol with
  | loopStart => exact .jumpIfZero 0 folded
  | loopEnd => exact .jumpIfNonzero 0 folded
  | act action =>
    obtain ⟨count, first, rest, rfl, extended⟩ | ⟨apart, started⟩ := cons_act action offset tokens
    · rw [extended]
      cases folded with
      | perform _ counted ends folded => exact .perform action (Nat.succ_pos count) ends folded
    · rw [started]
      exact .perform action Nat.one_pos apart folded

/-- Folding makes runs that are as long as they can be. -/
theorem folded_fold (located : List Located) : Folded ((fold located).map operation) := by
  induction located with
  | nil => exact .nil
  | cons symbol rest ih => exact folded_cons symbol ih

/-- Copies of one action are folded into one run, unless they meet one. -/
theorem foldr_cons_replicate {count : Nat}
    (copies : located.map Located.symbol = List.replicate (count + 1) (.act action))
    (apart : ∀ more, (tokens.map operation).head? ≠ some (.perform action more)) :
    ∃ offset, located.foldr cons tokens = .run action (count + 1) offset :: tokens := by
  induction located generalizing count with
  | nil => cases copies
  | cons first rest ih =>
    obtain ⟨symbol, offset⟩ := first
    rw [List.replicate_succ, List.map_cons] at copies
    obtain ⟨rfl, fewer⟩ := List.cons.inj copies
    refine ⟨offset, ?_⟩
    rw [List.foldr_cons]
    cases count with
    | zero =>
      obtain rfl := List.map_eq_nil_iff.mp fewer
      obtain ⟨_, _, _, rfl, -⟩ | ⟨-, started⟩ := cons_act action offset tokens
      · exact absurd rfl (apart _)
      · exact started
    | succ count =>
      obtain ⟨following, folded⟩ := ih fewer
      rw [folded]
      simp [cons]

/-- Folding undoes spelling out, jump targets aside. -/
theorem map_operation_fold {operations : List Operation} (folded : Folded operations)
    (spelled : located.map Located.symbol = operations.flatMap Operation.symbols) :
    (fold located).map operation = operations.map Operation.untargeted := by
  induction folded generalizing located with
  | nil =>
    obtain rfl := List.map_eq_nil_iff.mp spelled
    rfl
  | @jumpIfZero target rest _ ih | @jumpIfNonzero target rest _ ih =>
    obtain ⟨first, following, rfl, symbol, behind⟩ := List.map_eq_cons_iff.mp spelled
    obtain ⟨_, offset⟩ := first
    cases symbol
    exact congrArg _ (ih behind)
  | @perform action count rest counted ends _ ih =>
    obtain ⟨first, following, rfl, copies, behind⟩ := List.map_eq_append_iff.mp spelled
    obtain ⟨count, rfl⟩ := Nat.exists_eq_add_one_of_ne_zero (Nat.ne_of_gt counted)
    have apart : ∀ more, ((fold following).map operation).head? ≠ some (.perform action more) := by
      intro more meets
      rw [ih behind, List.head?_map] at meets
      obtain ⟨operation, next, same⟩ := Option.map_eq_some_iff.mp meets
      cases operation <;> cases same
      exact ends more next
    obtain ⟨offset, folded⟩ := foldr_cons_replicate copies apart
    rw [fold, List.foldr_append]
    change (first.foldr cons (fold following)).map operation = _
    rw [folded, List.map_cons, ih behind]
    rfl

end Token

end TapeMachine
