import TapeMachine.Console

/-! # Byte streams as a console

Input is a stream of bytes that is read line by line. A line ends with a line feed or with the
stream; its terminator, a line feed with or without a carriage return before it, is not part of what
a program gets. Output is the bytes written so far. Neither direction ever fails.
-/

namespace TapeMachine

/-- A line feed, which ends a line. -/
def lineFeed : UInt8 := 10

/-- A carriage return, which may precede the line feed. -/
def carriageReturn : UInt8 := 13

namespace Line

/-- The line without the line feed at its end and a carriage return before that. A carriage return
that no line feed follows belongs to the line. -/
def stripTerminator (line : Line) : Line :=
  if line.getLast? = some lineFeed then
    let body := line.dropLast
    if body.getLast? = some carriageReturn then body.dropLast else body
  else line

/-- The first line of a stream with its terminator, and the bytes after it. -/
def takeRaw? (bytes : List UInt8) : Option (Line × List UInt8) :=
  match bytes with
  | [] => none
  | bytes =>
    let body := bytes.takeWhile (· != lineFeed)
    match bytes.dropWhile (· != lineFeed) with
    | [] => some (body, [])
    | terminator :: rest => some (body ++ [terminator], rest)

/-- The first line of a stream as a program reads it, and the bytes after it. -/
def take? (bytes : List UInt8) : Option (Line × List UInt8) :=
  (takeRaw? bytes).map fun (line, rest) => (line.stripTerminator, rest)

theorem append_of_takeRaw?_eq_some {bytes rest : List UInt8} {line : Line}
    (taken : takeRaw? bytes = some (line, rest)) : line ++ rest = bytes := by
  have split := List.takeWhile_append_dropWhile (p := (· != lineFeed)) (l := bytes)
  unfold takeRaw? at taken
  split at taken
  · cases taken
  · dsimp only at taken
    split at taken <;> rename_i remainder <;> rw [remainder] at split <;> cases taken <;>
      simpa using split

theorem ne_nil_of_takeRaw?_eq_some {bytes rest : List UInt8} {line : Line}
    (taken : takeRaw? bytes = some (line, rest)) : line ≠ [] := by
  rintro rfl
  unfold takeRaw? at taken
  split at taken
  · cases taken
  · rename_i nonempty
    dsimp only at taken
    split at taken
    · rename_i remainder
      have split := List.takeWhile_append_dropWhile (p := (· != lineFeed)) (l := bytes)
      rw [remainder] at split
      simp only [Option.some.injEq, Prod.mk.injEq] at taken
      rw [taken.1] at split
      exact nonempty split.symm
    · simp at taken

/-- Taking a line leaves fewer bytes. -/
theorem length_lt_of_takeRaw?_eq_some {bytes rest : List UInt8} {line : Line}
    (taken : takeRaw? bytes = some (line, rest)) : rest.length < bytes.length := by
  have split := congrArg List.length (append_of_takeRaw?_eq_some taken)
  have nonempty := List.length_pos_iff.mpr (ne_nil_of_takeRaw?_eq_some taken)
  rw [List.length_append] at split
  omega

/-- All lines of a stream with their terminators. -/
def splitRaw (bytes : List UInt8) : List Line :=
  match _ : takeRaw? bytes with
  | none => []
  | some (line, rest) => line :: splitRaw rest
termination_by bytes.length
decreasing_by exact length_lt_of_takeRaw?_eq_some (by assumption)

end Line

/-- The bytes still to be read and the bytes written so far. -/
structure Streams where
  pending : List UInt8
  written : Array UInt8
  deriving DecidableEq

namespace Streams

/-- Streams with all of `input` still to be read. -/
def ofInput (input : List UInt8) : Streams := ⟨input, #[]⟩

/-- Hands out the next line of the input. -/
def read : Streams → ReadResult × Streams
  | ⟨pending, written⟩ =>
    match Line.take? pending with
    | some (line, rest) => (.line line, ⟨rest, written⟩)
    | none => (.endOfInput, ⟨pending, written⟩)

/-- Appends a byte to the output. -/
def write (byte : UInt8) : Streams → WriteResult × Streams
  | ⟨pending, written⟩ => (.written, ⟨pending, written.push byte⟩)

/-- Writes several bytes. -/
def writeAll (bytes : List UInt8) : Streams → Streams
  | ⟨pending, written⟩ => ⟨pending, written.appendList bytes⟩

instance : Console Streams where
  read := read
  write := write

end Streams

end TapeMachine
