import TapeMachine.Source

/-! # Tokens: folded runs and brackets

Equal actions that follow each other in a source, comments aside, are folded into one token with a
count. Brackets are never folded. Each token keeps the offset of its first symbol.

Tokens are formed from the right: a symbol either extends the first token of what follows it or
starts a token of its own. `symbols_fold` says that folding loses and invents nothing.
-/

namespace TapeMachine

/-- A maximal run of one action, or a single bracket. -/
inductive Token where
  | run (action : Action) (count offset : Nat)
  | loopStart (offset : Nat)
  | loopEnd (offset : Nat)
  deriving DecidableEq

namespace Token

/-- The symbols that a token stands for. -/
def symbols : Token → List Symbol
  | .run action count _ => List.replicate count (.act action)
  | .loopStart _ => [.loopStart]
  | .loopEnd _ => [.loopEnd]

/-- Puts a symbol in front of tokens, into the first of them if that is a run of the same action. -/
def cons (located : Located) (tokens : List Token) : List Token :=
  match located.symbol with
  | .loopStart => .loopStart located.offset :: tokens
  | .loopEnd => .loopEnd located.offset :: tokens
  | .act action =>
    match tokens with
    | .run first count offset :: rest =>
      if action = first then .run action (count + 1) located.offset :: rest
      else .run action 1 located.offset :: .run first count offset :: rest
    | tokens => .run action 1 located.offset :: tokens

/-- The tokens of a list of symbols. -/
def fold (located : List Located) : List Token :=
  located.foldr cons []

/-- The tokens of a source. -/
def ofSource (source : Source) : List Token :=
  fold source.located

theorem symbols_cons (located : Located) (tokens : List Token) :
    (cons located tokens).flatMap symbols = located.symbol :: tokens.flatMap symbols := by
  obtain ⟨symbol, offset⟩ := located
  unfold cons
  split
  case h_1 same => cases same; rfl
  case h_2 same => cases same; rfl
  case h_3 action same =>
    dsimp only at same
    subst same
    split
    · split
      · subst_vars
        simp [symbols, List.replicate_succ]
      · simp [symbols]
    · simp [symbols]

/-- The tokens stand for exactly the symbols they were formed from. -/
theorem symbols_fold (located : List Located) :
    (fold located).flatMap symbols = located.map Located.symbol := by
  induction located with
  | nil => rfl
  | cons first rest ih => simpa [fold, symbols_cons] using ih

end Token

end TapeMachine
