import TapeMachine.Compile.Lookahead
import TapeMachine.Proofs.Folding
import TapeMachine.Proofs.Margins

/-! # Reading tokens one at a time

The compiler with one symbol of lookahead finds the tokens that folding makes of all symbols at once.
What ties it to the source is a place: everything before it has been dealt with, the lookahead stands
there, and the scanner goes on just behind. Each token takes the place to the next symbol that does
not belong to it.
-/

namespace TapeMachine

/-- The part `consumed` of a source lies before the lookahead and the scanner goes on behind it; or
it is the whole source and there is no lookahead. -/
inductive Ahead (consumed : Source) : Option Symbol → Scanner → Source → Prop where
  | symbol (symbol : Symbol) (rest : Source) :
    Ahead consumed (some symbol) ⟨rest, consumed.length + 1, consumed.length⟩
      (consumed ++ symbol.toByte :: rest)
  | ended (position offset : Nat) : Ahead consumed none ⟨[], position, offset⟩ consumed

/-- The bytes that a token takes: the one of its first symbol at `offset`, and `behind` up to the
next symbol. -/
inductive Token.Takes (offset : Nat) : Token → Symbol → Source → Prop where
  | loopStart {behind : Source} (comments : behind.symbols = []) :
    Takes offset (.loopStart offset) .loopStart behind
  | loopEnd {behind : Source} (comments : behind.symbols = []) :
    Takes offset (.loopEnd offset) .loopEnd behind
  | run {behind : Source} (action : Action) (count : Nat)
    (copies : behind.symbols = List.replicate count (.act action)) :
    Takes offset (.run action (count + 1) offset) (.act action) behind

namespace Scanner

/-- Scanning goes past comments to the next symbol. -/
theorem ahead_scan (offset : Nat) (front rest : Source) :
    ∃ comments : Source, comments.symbols = [] ∧
      Ahead (front ++ comments) (scan offset rest front.length).1 (scan offset rest front.length).2
        (front ++ rest) := by
  induction rest generalizing front with
  | nil => exact ⟨[], rfl, .ended ..⟩
  | cons byte rest ih =>
    rw [scan]
    split
    case h_1 symbol read =>
      obtain rfl := Symbol.ofByte?_eq_some_iff.mp read
      refine ⟨[], rfl, ?_⟩
      rw [List.append_nil]
      exact .symbol symbol rest
    case h_2 read =>
      obtain ⟨comments, silent, ahead⟩ := ih (front ++ [byte])
      refine ⟨byte :: comments, ?_, ?_⟩
      · rw [Source.symbols, List.filterMap_cons_none read]
        exact silent
      · rw [List.append_cons front byte comments, List.append_cons front byte rest,
          show front.length + 1 = (front ++ [byte]).length by simp]
        exact ahead

theorem ahead_next (scanner : Scanner) {front : Source}
    (placed : scanner.position = front.length) :
    ∃ comments : Source, comments.symbols = [] ∧
      Ahead (front ++ comments) scanner.next.1 scanner.next.2 (front ++ scanner.rest) := by
  rw [next, placed]
  exact ahead_scan scanner.offset front scanner.rest

theorem runLength_of_ended {symbol : Symbol} {count : Nat} {scanner rest : Scanner}
    (ended : scanner.next = (none, rest)) :
    scanner.runLength symbol count = (count, none, rest) := by
  rw [runLength]
  split <;> rename_i outcome <;> rw [ended] at outcome <;> cases outcome
  rfl

theorem runLength_of_same {symbol : Symbol} {count : Nat} {scanner rest : Scanner}
    (same : scanner.next = (some symbol, rest)) :
    scanner.runLength symbol count = rest.runLength symbol (count + 1) := by
  rw [runLength]
  split <;> rename_i outcome <;> rw [same] at outcome <;> cases outcome
  rw [if_pos rfl]

theorem runLength_of_other {symbol other : Symbol} {count : Nat} {scanner rest : Scanner}
    (found : scanner.next = (some other, rest)) (differs : other ≠ symbol) :
    scanner.runLength symbol count = (count, some other, rest) := by
  rw [runLength]
  split <;> rename_i outcome <;> rw [found] at outcome <;> cases outcome
  rw [if_neg differs]

/-- Scanning goes past copies of a symbol to the first that differs. -/
theorem ahead_runLength (symbol : Symbol) (count : Nat) (scanner : Scanner) {front : Source}
    (placed : scanner.position = front.length) :
    ∃ (extra : Nat) (copies : Source) (lookahead : Option Symbol) (rest : Scanner),
      scanner.runLength symbol count = (count + extra, lookahead, rest) ∧
        copies.symbols = List.replicate extra symbol ∧ lookahead ≠ some symbol ∧
        Ahead (front ++ copies) lookahead rest (front ++ scanner.rest) := by
  induction count, scanner using runLength.induct symbol generalizing front with
  | case1 count scanner rest ended =>
    obtain ⟨comments, silent, ahead⟩ := ahead_next scanner placed
    rw [ended] at ahead
    exact ⟨0, comments, none, rest, runLength_of_ended ended, silent, nofun, ahead⟩
  | case2 count scanner rest same ih =>
    obtain ⟨comments, silent, ahead⟩ := ahead_next scanner placed
    rw [same] at ahead
    generalize whole : front ++ scanner.rest = source at ahead
    cases ahead with
    | symbol _ bytes =>
      have past : (front ++ comments).length + 1 =
          (front ++ (comments ++ [symbol.toByte])).length := by
        simp
        omega
      obtain ⟨extra, copies, lookahead, rest, more, spelled, differs, ahead⟩ := ih past
      refine ⟨extra + 1, comments ++ symbol.toByte :: copies, lookahead, rest, ?_, ?_, differs, ?_⟩
      · rw [runLength_of_same same, more, Nat.add_right_comm, Nat.add_assoc]
      · rw [Source.symbols_append, silent, Source.symbols_toByte_cons, spelled]
        rfl
      · simpa using ahead
  | case3 count scanner other rest found differs =>
    obtain ⟨comments, silent, ahead⟩ := ahead_next scanner placed
    rw [found] at ahead
    refine ⟨0, comments, some other, rest, runLength_of_other found differs, silent, ?_, ahead⟩
    intro same
    exact differs (Option.some.inj same)

/-- A token takes the bytes up to the next symbol that does not belong to it. -/
theorem ahead_token (symbol : Symbol) (consumed rest : Source) :
    ∃ (token : Token) (behind : Source) (lookahead : Option Symbol) (scanner : Scanner),
      Scanner.token symbol ⟨rest, consumed.length + 1, consumed.length⟩ =
          (token, lookahead, scanner) ∧
        token.Takes consumed.length symbol behind ∧
        (∀ action, token.operation.symbol = .act action → lookahead ≠ some (.act action)) ∧
        Ahead (consumed ++ symbol.toByte :: behind) lookahead scanner
          (consumed ++ symbol.toByte :: rest) := by
  have past : consumed.length + 1 = (consumed ++ [symbol.toByte]).length := by simp
  cases symbol with
  | act action =>
    obtain ⟨extra, copies, lookahead, scanner, more, spelled, differs, ahead⟩ :=
      ahead_runLength (.act action) 1 ⟨rest, consumed.length + 1, consumed.length⟩ past
    refine ⟨.run action (extra + 1) consumed.length, copies, lookahead, scanner, ?_,
      .run action extra spelled, ?_, ?_⟩
    · rw [token, more, Nat.add_comm 1 extra]
    · intro same here
      cases here
      exact differs
    · simpa using ahead
  | loopStart =>
    obtain ⟨comments, silent, ahead⟩ := ahead_next ⟨rest, consumed.length + 1, consumed.length⟩ past
    rw [← List.append_cons, ← List.append_cons] at ahead
    exact ⟨_, comments, _, _, rfl, .loopStart silent, nofun, ahead⟩
  | loopEnd =>
    obtain ⟨comments, silent, ahead⟩ := ahead_next ⟨rest, consumed.length + 1, consumed.length⟩ past
    rw [← List.append_cons, ← List.append_cons] at ahead
    exact ⟨_, comments, _, _, rfl, .loopEnd silent, nofun, ahead⟩

end Scanner

namespace Token

variable {offset : Nat} {symbol : Symbol} {behind : Source} {token : Token}

theorem Takes.symbols_eq (takes : token.Takes offset symbol behind) :
    Source.symbols (symbol.toByte :: behind) = token.symbols := by
  rw [Source.symbols_toByte_cons]
  cases takes with
  | loopStart comments | loopEnd comments => rw [comments]; rfl
  | run action count copies => rw [copies]; rfl

/-- Folding begins a token with the first symbol, at its offset. -/
theorem exists_cons (symbol : Symbol) (offset : Nat) (tokens : List Token) :
    ∃ token rest, cons ⟨symbol, offset⟩ tokens = token :: rest ∧
      token.operation.symbol = symbol ∧
        ∀ action count first, token = .run action count first → first = offset := by
  cases symbol with
  | loopStart | loopEnd => exact ⟨_, tokens, rfl, rfl, nofun⟩
  | act action =>
    obtain ⟨count, first, rest, rfl, extended⟩ | ⟨-, started⟩ := cons_act action offset tokens
    · refine ⟨_, rest, extended, rfl, ?_⟩
      rintro _ _ _ ⟨⟩
      rfl
    · refine ⟨_, tokens, started, rfl, ?_⟩
      rintro _ _ _ ⟨⟩
      rfl

/-- Another symbol does not continue a run. -/
theorem head?_fold_ne {action : Action} {following : List Located}
    (apart : following.head?.map Located.symbol ≠ some (.act action)) (more : Nat) :
    ((fold following).map operation).head? ≠ some (.perform action more) := by
  cases following with
  | nil => nofun
  | cons first rest =>
    obtain ⟨token, tokens, folded, kind, -⟩ := exists_cons first.symbol first.offset (fold rest)
    intro continues
    rw [fold, List.foldr_cons] at continues
    change ((cons first (fold rest)).map operation).head? = _ at continues
    rw [folded, List.map_cons, List.head?_cons, Option.some.injEq] at continues
    rw [continues] at kind
    exact apart (congrArg some kind.symm)

/-- The bytes that a token takes are folded into it, if what follows does not continue it. -/
theorem Takes.fold_eq (takes : token.Takes offset symbol behind) {following : List Located}
    (apart : ∀ action, token.operation.symbol = .act action →
      following.head?.map Located.symbol ≠ some (.act action)) :
    fold (Source.locatedFrom offset (symbol.toByte :: behind) ++ following) =
      token :: fold following := by
  rw [Source.locatedFrom_cons, Symbol.ofByte?_toByte]
  cases takes with
  | loopStart comments | loopEnd comments =>
    rw [Source.locatedFrom_of_comments comments]
    rfl
  | run action count copies =>
    have symbols : (⟨.act action, offset⟩ :: behind.locatedFrom (offset + 1)).map Located.symbol =
        List.replicate (count + 1) (.act action) := by
      rw [List.map_cons, Source.map_symbol_locatedFrom, copies]
      rfl
    obtain ⟨first, folded⟩ := foldr_cons_replicate symbols (head?_fold_ne (apart action rfl))
    -- This leaves the offset open. It is that of the first copy, which is folded in last.
    obtain ⟨token, tokens, begun, -, kept⟩ := exists_cons (.act action) offset
      ((behind.locatedFrom (offset + 1)).foldr cons (fold following))
    rw [List.foldr_cons, begun] at folded
    obtain ⟨rfl, rfl⟩ := List.cons.inj folded
    rw [kept action (count + 1) first rfl] at begun
    change fold (⟨.act action, offset⟩ :: (behind.locatedFrom (offset + 1) ++ following)) = _
    rw [fold, List.foldr_cons, List.foldr_append]
    exact begun

end Token

namespace Ahead

variable {source consumed : Source} {lookahead : Option Symbol} {scanner : Scanner}

/-- Behind what has been dealt with come the lookahead and what the scanner has not looked at. -/
theorem source_eq (ahead : Ahead consumed lookahead scanner source) :
    source = consumed ++ (lookahead.toList.map Symbol.toByte ++ scanner.rest) := by
  cases ahead with
  | symbol symbol rest => rfl
  | ended position offset => exact (List.append_nil _).symm

theorem found_and_rest {symbol : Symbol} (ahead : Ahead consumed (some symbol) scanner source) :
    source[scanner.offset]? = some symbol.toByte ∧
      scanner.rest = source.drop (scanner.offset + 1) := by
  cases ahead with
  | symbol symbol rest =>
    refine ⟨by simp, ?_⟩
    rw [List.append_cons, List.drop_left' (by simp)]

theorem rest_eq_nil (ahead : Ahead consumed none scanner source) : scanner.rest = [] := by
  cases ahead with
  | ended position offset => rfl

/-- The symbol that comes next is the lookahead. -/
theorem head?_located (ahead : Ahead consumed lookahead scanner source) (offset : Nat) :
    (Source.locatedFrom offset (source.drop consumed.length)).head?.map Located.symbol =
      lookahead := by
  cases ahead with
  | symbol symbol rest =>
    rw [List.drop_left, Source.locatedFrom_cons, Symbol.ofByte?_toByte]
    rfl
  | ended position offset =>
    rw [List.drop_length]
    rfl

end Ahead

namespace Compiler

variable {source consumed : Source} {lookahead : Option Symbol} {scanner : Scanner}

/-- The tokens of a source from its byte number `offset` on. -/
def tokensFrom (source : Source) (offset : Nat) : List Token :=
  Token.fold (Source.locatedFrom offset (source.drop offset))

theorem tokensFrom_eq_cons {symbol : Symbol} {behind : Source} {token : Token}
    (takes : token.Takes consumed.length symbol behind)
    (apart : ∀ action, token.operation.symbol = .act action → lookahead ≠ some (.act action))
    (ahead : Ahead (consumed ++ symbol.toByte :: behind) lookahead scanner source) :
    tokensFrom source consumed.length =
      token :: tokensFrom source (consumed ++ symbol.toByte :: behind).length := by
  have split : source.drop consumed.length = (symbol.toByte :: behind) ++
      source.drop (consumed ++ symbol.toByte :: behind).length := by
    conv => lhs; rw [ahead.source_eq, List.append_assoc, List.drop_left]
    conv => rhs; rw [ahead.source_eq, List.drop_left]
  have place : consumed.length + (symbol.toByte :: behind).length =
      (consumed ++ symbol.toByte :: behind).length :=
    List.length_append.symm
  rw [tokensFrom, split, Source.locatedFrom_append, place]
  apply takes.fold_eq
  intro action same
  rw [ahead.head?_located]
  exact apart action same

theorem step_of_token {assembly : Assembly} {symbol : Symbol} {token : Token} {rest : Scanner}
    (read : scanner.token symbol = (token, lookahead, rest)) :
    step ⟨assembly, some symbol, scanner⟩ =
      match assembly.add token with
      | .ok assembly => .running ⟨assembly, lookahead, rest⟩
      | .error error => .stopped (.error error) := by
  cases added : assembly.add token <;> simp only [step, read, added]

/-- Stepping goes on to the end of the source and gives what its remaining tokens give. -/
theorem exists_stopped (assembly : Assembly) (ahead : Ahead consumed lookahead scanner source) :
    ∃ count, runSteps step count ⟨assembly, lookahead, scanner⟩ =
      .stopped (match assembly.addAll (tokensFrom source consumed.length) with
        | .ok assembly => assembly.finish
        | .error error => .error error) := by
  -- The induction is on how much of the source is left.
  generalize left : source.length - consumed.length = size
  induction size using Nat.strongRecOn generalizing consumed lookahead scanner assembly with
  | ind size ih =>
    cases ahead with
    | ended position offset =>
      refine ⟨1, ?_⟩
      rw [tokensFrom, List.drop_length]
      rfl
    | symbol symbol rest =>
      obtain ⟨token, behind, lookahead, scanner, read, takes, apart, ahead⟩ :=
        Scanner.ahead_token symbol consumed rest
      rw [tokensFrom_eq_cons takes apart ahead, Assembly.addAll]
      cases added : assembly.add token with
      | error error =>
        refine ⟨1, ?_⟩
        rw [runSteps, step_of_token read, added]
      | ok next =>
        have within := congrArg List.length ahead.source_eq
        simp only [List.length_append, List.length_cons] at within left
        obtain ⟨count, ended⟩ := ih _ (by simp; omega) next ahead rfl
        refine ⟨count + 1, ?_⟩
        rw [runSteps, step_of_token read, added]
        exact ended

theorem ahead_start (source : Source) : ∃ comments : Source, comments.symbols = [] ∧
    Ahead comments (start source).lookahead (start source).scanner source :=
  @Scanner.ahead_next (Scanner.ofSource source) [] rfl

/-- Compiling with one symbol of lookahead comes to an end for every source, and it gives what
compiling from the list of tokens gives. -/
theorem exists_stopped_start (source : Source) :
    ∃ count, runSteps step count (start source) = .stopped (compile source) := by
  obtain ⟨comments, silent, ahead⟩ := ahead_start source
  obtain ⟨count, ended⟩ := exists_stopped .empty ahead
  refine ⟨count, ?_⟩
  have tokens : tokensFrom source comments.length = Token.ofSource source := by
    conv => rhs; rw [Token.ofSource, Source.located, ahead.source_eq, Source.locatedFrom_append,
      Source.locatedFrom_of_comments silent, List.nil_append, Nat.zero_add]
    conv => lhs; rw [tokensFrom, ahead.source_eq, List.drop_left]
  rw [tokens] at ended
  exact ended

end Compiler

end TapeMachine
