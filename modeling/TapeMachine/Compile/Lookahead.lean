import TapeMachine.Compile
import TapeMachine.Execution
import TapeMachine.Source.Scanner

/-! # Compiling with one symbol of lookahead

A source can be compiled while it is scanned, without a list of its tokens. A run ends only where
another symbol is found, so the compiler always holds the symbol that comes next, and the scanner has
already gone past it. Each step deals with one token and fetches the symbol behind it.
-/

namespace TapeMachine

namespace Scanner

/-- Passes over copies of `symbol`: how many there are together with `count` passed before, the first
symbol that differs, and the scanner behind it. -/
def runLength (symbol : Symbol) (count : Nat) (scanner : Scanner) : Nat × Option Symbol × Scanner :=
  match _ : scanner.next with
  | (none, rest) => (count, none, rest)
  | (some next, rest) =>
    if next = symbol then rest.runLength symbol (count + 1) else (count, some next, rest)
termination_by scanner.rest.length
decreasing_by exact next_some_length (by assumption)

/-- The token that begins with `symbol`, which the scanner has just yielded, the symbol behind the
token, and the scanner behind that one. -/
def token (symbol : Symbol) (scanner : Scanner) : Token × Option Symbol × Scanner :=
  match symbol with
  | .loopStart => (.loopStart scanner.offset, scanner.next)
  | .loopEnd => (.loopEnd scanner.offset, scanner.next)
  | .act action =>
    let (count, following) := scanner.runLength (.act action) 1
    (.run action count scanner.offset, following)

end Scanner

/-- A compilation under way. -/
structure Compiler where
  assembly : Assembly
  /-- The symbol that comes next, if the source has not been used up. -/
  lookahead : Option Symbol
  /-- The scanner behind that symbol. -/
  scanner : Scanner
  deriving DecidableEq

/-- A call of `Program.patch`. -/
structure Patch where
  program : Program
  address : Nat
  target : Nat
  deriving DecidableEq

namespace Compiler

/-- The compiler before the first token of a source. -/
def start (source : Source) : Compiler :=
  let (lookahead, scanner) := (Scanner.ofSource source).next
  ⟨.empty, lookahead, scanner⟩

/-- Deals with one token. -/
def step : Compiler → Progress Compiler (Except CompileError Program)
  | ⟨assembly, none, _⟩ => .stopped assembly.finish
  | ⟨assembly, some symbol, scanner⟩ =>
    let (token, lookahead, scanner) := scanner.token symbol
    match assembly.add token with
    | .ok assembly => .running ⟨assembly, lookahead, scanner⟩
    | .error error => .stopped (.error error)

/-- The call by which the next step directs the jump of the loop that it closes. -/
def patch? : Compiler → Option Patch
  | ⟨⟨program, start :: _⟩, some .loopEnd, _⟩ =>
    let closed := program.push (.jumpIfNonzero (start.address + 1))
    some ⟨closed, start.address, closed.size⟩
  | _ => none

end Compiler

end TapeMachine
