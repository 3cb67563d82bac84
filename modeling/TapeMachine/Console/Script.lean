import TapeMachine.Console

/-! # Scripted consoles

A scripted console hands out prepared lines and records what is asked of it. It can be told to fail
at one of the read attempts and to refuse any byte past a limit. A read that is told to fail takes
no line.
-/

namespace TapeMachine

/-- A console that follows a script and keeps a record. -/
structure Script where
  /-- The lines still to be handed out; without a list the input is always at its end. -/
  lines : Option (List Line)
  /-- The number of the read attempt that fails, counted from zero. -/
  failingRead : Option Nat
  /-- How many bytes may be written in all. -/
  capacity : Option Nat
  /-- Whether written bytes are counted only. -/
  discards : Bool
  /-- The bytes written so far, unless they are discarded. -/
  output : Array UInt8
  /-- How many bytes have been written so far. -/
  written : Nat
  /-- For each read attempt so far, how many bytes had been written at that time. -/
  readAt : Array Nat
  deriving DecidableEq

namespace Script

/-- A script that nothing has been asked of yet. -/
def start (lines : Option (List Line)) (failingRead capacity : Option Nat) (discards : Bool) :
    Script :=
  ⟨lines, failingRead, capacity, discards, #[], 0, #[]⟩

/-- A script with these lines and no failures. -/
def ofLines (lines : List Line) : Script :=
  start (some lines) none none false

/-- How many lines have not been read, if there is a list of lines. -/
def linesLeft? (script : Script) : Option Nat :=
  script.lines.map List.length

/-- Hands out the next line, unless this attempt is to fail. -/
def read (script : Script) : ReadResult × Script :=
  let attempt := script.readAt.size
  let asked := { script with readAt := script.readAt.push script.written }
  if script.failingRead = some attempt then (.failed "input broken", asked)
  else
    match script.lines with
    | some (line :: rest) => (.line line, { asked with lines := some rest })
    | _ => (.endOfInput, asked)

/-- Whether the limit leaves room for one more byte. -/
def hasRoom (script : Script) : Bool :=
  match script.capacity with
  | some limit => script.written < limit
  | none => true

/-- Takes a byte if there is room for it. -/
def write (byte : UInt8) (script : Script) : WriteResult × Script :=
  if script.hasRoom then
    (.written,
      { script with
        output := if script.discards then script.output else script.output.push byte
        written := script.written + 1 })
  else (.failed "output full", script)

instance : Console Script where
  read := read
  write := write

end Script

end TapeMachine
