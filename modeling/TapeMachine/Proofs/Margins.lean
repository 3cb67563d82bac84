import TapeMachine.Compile
import TapeMachine.Proofs.Scanning

/-! # Margins of a source

Bytes in front of a source and behind it that are no instructions make no difference to its program.
They move the places of brackets: an error is reported as many bytes later as there are in front.

Every stage of compilation carries offsets along without looking at them, so each commutes with
moving them.
-/

namespace TapeMachine

/-- The symbol at an offset that is larger by `distance`. -/
def Located.moved (distance : Nat) (located : Located) : Located :=
  ⟨located.symbol, located.offset + distance⟩

/-- The token at an offset that is larger by `distance`. -/
def Token.moved (distance : Nat) : Token → Token
  | .run action count offset => .run action count (offset + distance)
  | .loopStart offset => .loopStart (offset + distance)
  | .loopEnd offset => .loopEnd (offset + distance)

/-- The loop of a bracket at an offset that is larger by `distance`. -/
def OpenLoop.moved (distance : Nat) (start : OpenLoop) : OpenLoop :=
  ⟨start.address, start.offset + distance⟩

/-- The assembly of tokens at offsets that are larger by `distance`. -/
def Assembly.moved (distance : Nat) (assembly : Assembly) : Assembly :=
  ⟨assembly.program, assembly.openLoops.map (.moved distance)⟩

/-- The error of a bracket at an offset that is larger by `distance`. -/
def CompileError.moved (distance : Nat) : CompileError → CompileError
  | .unmatchedStart offset => .unmatchedStart (offset + distance)
  | .unmatchedEnd offset => .unmatchedEnd (offset + distance)

namespace CompileError

@[simp] theorem bracket_moved (distance : Nat) (error : CompileError) :
    (error.moved distance).bracket = error.bracket := by
  cases error <;> rfl

@[simp] theorem offset_moved (distance : Nat) (error : CompileError) :
    (error.moved distance).offset = error.offset + distance := by
  cases error <;> rfl

theorem mapError_moved_zero (compiled : Except CompileError Program) :
    compiled.mapError (moved 0) = compiled := by
  rcases compiled with (_ | _) | _ <;> rfl

end CompileError

variable {source front back : Source} {distance : Nat}

namespace Source

theorem locatedFrom_add (distance offset : Nat) (source : Source) :
    locatedFrom (offset + distance) source = (locatedFrom offset source).map (.moved distance) := by
  induction source generalizing offset with
  | nil => rfl
  | cons byte rest ih =>
    rw [locatedFrom_cons, locatedFrom_cons, List.map_append, ← ih, Nat.add_right_comm]
    cases Symbol.ofByte? byte <;> rfl

theorem locatedFrom_of_comments (comments : source.symbols = []) (offset : Nat) :
    source.locatedFrom offset = [] := by
  apply List.map_eq_nil_iff.mp
  rw [map_symbol_locatedFrom, comments]

/-- The symbols of a source with margins are its own, behind the front one. -/
theorem located_margins (before : front.symbols = []) (behind : back.symbols = [])
    (source : Source) :
    located (front ++ source ++ back) = source.located.map (.moved front.length) := by
  rw [located, locatedFrom_append, locatedFrom_append, locatedFrom_of_comments before,
    locatedFrom_of_comments behind, List.nil_append, List.append_nil, locatedFrom_add]
  rfl

end Source

namespace Token

theorem cons_moved (distance : Nat) (located : Located) (tokens : List Token) :
    cons (located.moved distance) (tokens.map (moved distance)) =
      (cons located tokens).map (moved distance) := by
  obtain ⟨symbol, offset⟩ := located
  cases symbol with
  | loopStart | loopEnd => rfl
  | act action =>
    cases tokens with
    | nil => rfl
    | cons token rest =>
      cases token with
      | loopStart | loopEnd => rfl
      | run first count offset =>
        simp only [cons, Located.moved, List.map_cons, moved]
        split <;> rfl

/-- Folding does not look at offsets. -/
theorem fold_moved (distance : Nat) (located : List Located) :
    fold (located.map (.moved distance)) = (fold located).map (moved distance) := by
  induction located with
  | nil => rfl
  | cons first rest ih =>
    change cons (first.moved distance) (fold (rest.map (.moved distance))) = _
    rw [ih, cons_moved]
    rfl

end Token

namespace Assembly

variable {assembly : Assembly}

theorem add_moved (distance : Nat) (assembly : Assembly) (token : Token) :
    (assembly.moved distance).add (token.moved distance) =
      ((assembly.add token).map (moved distance)).mapError (.moved distance) := by
  obtain ⟨program, openLoops⟩ := assembly
  cases token with
  | run | loopStart => rfl
  | loopEnd offset => cases openLoops <;> rfl

/-- Assembling does not look at offsets, but reports them. -/
theorem addAll_moved (distance : Nat) (assembly : Assembly) (tokens : List Token) :
    (assembly.moved distance).addAll (tokens.map (.moved distance)) =
      ((assembly.addAll tokens).map (moved distance)).mapError (.moved distance) := by
  induction tokens generalizing assembly with
  | nil => rfl
  | cons token rest ih =>
    rw [List.map_cons, addAll, addAll, add_moved]
    cases assembly.add token with
    | error error => rfl
    | ok next => exact ih next

theorem finish_moved (distance : Nat) (assembly : Assembly) :
    (assembly.moved distance).finish = assembly.finish.mapError (.moved distance) := by
  obtain ⟨program, openLoops⟩ := assembly
  cases openLoops <;> rfl

end Assembly

/-- Margins do not matter to the program; the front one moves the places of errors. -/
theorem compile_margins (before : front.symbols = []) (behind : back.symbols = [])
    (source : Source) :
    compile (front ++ source ++ back) = (compile source).mapError (.moved front.length) := by
  have tokens : Token.ofSource (front ++ source ++ back) =
      (Token.ofSource source).map (.moved front.length) := by
    rw [Token.ofSource, Token.ofSource, Source.located_margins before behind, Token.fold_moved]
  have start : Assembly.empty = Assembly.empty.moved front.length := rfl
  rw [compile, tokens, start, Assembly.addAll_moved, compile]
  cases Assembly.empty.addAll (Token.ofSource source) with
  | error error => rfl
  | ok assembly => exact assembly.finish_moved front.length

end TapeMachine
