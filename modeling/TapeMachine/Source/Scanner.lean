import TapeMachine.Source

/-! # Scanning a source lazily

A scanner yields one symbol per request and remembers where it found the latest one. It reads no
further than the symbol it yields, and once the text is used up every request yields nothing and
changes nothing.
-/

namespace TapeMachine

/-- A position in a source under scan. -/
structure Scanner where
  /-- The bytes not looked at yet. -/
  rest : Source
  /-- The offset of the first of those bytes. -/
  position : Nat
  /-- The offset of the symbol yielded last, zero before the first. -/
  offset : Nat
  deriving DecidableEq

namespace Scanner

/-- A scanner before the first byte of a source. -/
def ofSource (source : Source) : Scanner :=
  ⟨source, 0, 0⟩

/-- Looks for the next symbol in `rest`, whose first byte stands at `position`. -/
def scan (offset : Nat) : Source → Nat → Option Symbol × Scanner
  | [], position => (none, ⟨[], position, offset⟩)
  | byte :: rest, position =>
    match Symbol.ofByte? byte with
    | some symbol => (some symbol, ⟨rest, position + 1, position⟩)
    | none => scan offset rest (position + 1)

/-- Yields the next symbol, if there is one left. -/
def next (scanner : Scanner) : Option Symbol × Scanner :=
  scan scanner.offset scanner.rest scanner.position

theorem scan_some_length {offset position : Nat} {source : Source} {symbol : Symbol}
    {scanner : Scanner} (found : scan offset source position = (some symbol, scanner)) :
    scanner.rest.length < source.length := by
  induction source generalizing position with
  | nil => cases found
  | cons byte rest ih =>
    unfold scan at found
    split at found
    · cases found
      exact Nat.lt_succ_self _
    · exact Nat.lt_succ_of_lt (ih found)

theorem next_some_length {scanner rest : Scanner} {symbol : Symbol}
    (found : scanner.next = (some symbol, rest)) : rest.rest.length < scanner.rest.length :=
  scan_some_length found

/-- Yields all symbols that are left, each with the offset reported for it, after those in
`found`; the scanner comes back as it stands at the end. -/
def collect (scanner : Scanner) (found : Array Located) : Array Located × Scanner :=
  match _ : scanner.next with
  | (none, scanner) => (found, scanner)
  | (some symbol, rest) => rest.collect (found.push ⟨symbol, rest.offset⟩)
termination_by scanner.rest.length
decreasing_by exact next_some_length (by assumption)

end Scanner

end TapeMachine
