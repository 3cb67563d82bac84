import TapeMachine.Console.Streams
import TapeMachine.Proofs.Alike
import TapeMachine.Proofs.Keeping

/-! # The lines that a program takes from a stream

A program reads whole lines, so what it leaves of its input begins where a line begins. A ledger
records the lines as it hands them out; what is recorded is the beginning of the lines there were,
and what is left has the others. No program can tell the ledger from the stream, nor does it see
what has been written before it started.
-/

namespace TapeMachine

namespace Line

/-- There is a line for as long as there is a byte. -/
theorem exists_takeRaw? {bytes : List UInt8} (nonempty : bytes ≠ []) :
    ∃ line rest, takeRaw? bytes = some (line, rest) := by
  cases bytes with
  | nil => exact absurd rfl nonempty
  | cons byte more =>
    simp only [takeRaw?]
    split
    · exact ⟨_, _, rfl⟩
    · exact ⟨_, _, rfl⟩

theorem splitRaw_of_takeRaw? {bytes rest : List UInt8} {line : Line}
    (taken : takeRaw? bytes = some (line, rest)) : splitRaw bytes = line :: splitRaw rest := by
  rw [splitRaw]
  split
  · rename_i none
    rw [none] at taken
    cases taken
  · rename_i line' rest' some
    rw [some] at taken
    cases taken
    rfl

end Line

/-- A stream that records the lines it hands out, with their terminators, and discards what is
written. -/
structure Ledger where
  pending : List UInt8
  taken : List Line

namespace Ledger

/-- A stream of which no line has been taken. -/
def start (input : List UInt8) : Ledger := ⟨input, []⟩

/-- Hands out the next line and records it. -/
def read : Ledger → ReadResult × Ledger
  | ⟨pending, taken⟩ =>
    match Line.takeRaw? pending with
    | some (line, rest) => (.line line.stripTerminator, ⟨rest, taken ++ [line]⟩)
    | none => (.endOfInput, ⟨pending, taken⟩)

instance : Console Ledger where
  read := read
  write _ ledger := (.written, ledger)

/-- The lines of the input are those taken and those left, and no byte has been added. -/
structure Accounts (input : List UInt8) (ledger : Ledger) : Prop where
  lines : Line.splitRaw input = ledger.taken ++ Line.splitRaw ledger.pending
  length : ledger.pending.length ≤ input.length

theorem accounts_start (input : List UInt8) : (start input).Accounts input :=
  ⟨rfl, Nat.le_refl _⟩

theorem keeps_accounts (input : List UInt8) : Console.Keeps (Accounts input) where
  read := by
    rintro ⟨pending, taken⟩ ⟨lines, length⟩
    simp only [Console.read, read]
    cases next : Line.takeRaw? pending with
    | none => exact ⟨lines, length⟩
    | some found =>
      obtain ⟨line, rest⟩ := found
      refine ⟨?_, ?_⟩
      · rw [lines, Line.splitRaw_of_takeRaw? next, List.append_assoc]
        rfl
      · exact Nat.le_trans (Nat.le_of_lt (Line.length_lt_of_takeRaw?_eq_some next)) length
  write _ _ accounts := accounts

end Ledger

namespace Streams

/-- A ledger that stands where the streams stand. -/
def KeptBy (streams : Streams) (ledger : Ledger) : Prop :=
  ledger.pending = streams.pending

theorem indistinct_keptBy : Console.Indistinct KeptBy where
  read := by
    rintro ⟨_, written⟩ ⟨pending, taken⟩ rfl
    simp only [Console.read, read, Ledger.read, Line.take?]
    cases Line.takeRaw? pending with
    | none => exact ⟨rfl, rfl⟩
    | some found => exact ⟨rfl, rfl⟩
  write := by
    rintro ⟨_, written⟩ ⟨pending, taken⟩ rfl byte
    exact ⟨rfl, rfl⟩

/-- Streams on which something has been written before. -/
def Behind (front : Array UInt8) (streams streams' : Streams) : Prop :=
  streams' = ⟨streams.pending, front ++ streams.written⟩

theorem indistinct_behind (front : Array UInt8) : Console.Indistinct (Behind front) where
  read := by
    rintro ⟨pending, written⟩ _ rfl
    simp only [Console.read, read]
    cases Line.take? pending with
    | none => exact ⟨rfl, rfl⟩
    | some found => exact ⟨rfl, rfl⟩
  write := by
    rintro ⟨pending, written⟩ _ rfl byte
    refine ⟨rfl, ?_⟩
    simp only [Console.write, write, Behind, Array.push_append]

end Streams

namespace Program

variable {program : Program} {patience : Nat} {streams : Streams} {ending : Ending Streams}

/-- A program runs in the same way whatever has been written before it. -/
theorem run?_behind (program : Program) (patience : Nat) (streams : Streams) :
    (program.run? patience (Machine.fresh (Streams.ofInput streams.pending)) = none ∧
        program.run? patience (Machine.fresh streams) = none) ∨
      ∃ ending ending',
        program.run? patience (Machine.fresh (Streams.ofInput streams.pending)) = some ending ∧
          program.run? patience (Machine.fresh streams) = some ending' ∧
            ending'.fault = ending.fault ∧
              ending.machine.console.Behind streams.written ending'.machine.console := by
  have alike : (Machine.fresh (Streams.ofInput streams.pending)).Alike Eq
      (Streams.Behind streams.written) (Machine.fresh streams) := by
    refine ⟨rfl, ?_⟩
    simp [Streams.Behind, Machine.fresh, Streams.ofInput]
  obtain never | ⟨ending, ending', ends, ends', fault, alike⟩ :=
    program.run?_alike (Streams.indistinct_behind streams.written) alike patience
  · exact .inl never
  · exact .inr ⟨ending, ending', ends, ends', fault, alike.console⟩

/-- The lines that the program takes from an input, on a blank tape. -/
def linesTaken (patience : Nat) (program : Program) (input : List UInt8) : List Line :=
  match program.run? patience (Machine.fresh (Ledger.start input)) with
  | some ending => ending.machine.console.taken
  | none => []

/-- What a program leaves of its input are the lines behind those it has taken. -/
theorem accounts_of_run?
    (ends : program.run? patience (Machine.fresh streams) = some ending) :
    Line.splitRaw streams.pending = program.linesTaken patience streams.pending ++
        Line.splitRaw ending.machine.console.pending ∧
      ending.machine.console.pending.length ≤ streams.pending.length := by
  have alike : (Machine.fresh streams).Alike Eq Streams.KeptBy
      (Machine.fresh (Ledger.start streams.pending)) := ⟨rfl, rfl⟩
  obtain ⟨never, -⟩ | ⟨_, recorded, ends', recorded', -, -, kept⟩ :=
    program.run?_alike Streams.indistinct_keptBy alike patience
  · rw [never] at ends
    cases ends
  · rw [ends] at ends'
    cases ends'
    have accounts := (Ledger.keeps_accounts streams.pending).of_run?
      (Ledger.accounts_start streams.pending) recorded'
    rw [linesTaken, recorded', ← kept]
    exact ⟨accounts.lines, accounts.length⟩

end Program

end TapeMachine
