/-! # Consoles

A running program reads whole lines and writes single bytes. What answers these requests is a
console: any type of states with the two operations below. Nothing else is assumed of it, so either
request may fail at any time, and what a read hands out may depend on everything asked before.
-/

namespace TapeMachine

/-- A line of input without its terminator, as raw bytes. -/
abbrev Line := List UInt8

/-- The answer to a request for a line. -/
inductive ReadResult where
  | line (bytes : Line)
  | endOfInput
  | failed (reason : String)
  deriving DecidableEq

/-- The answer to a request to write a byte. -/
inductive WriteResult where
  | written
  | failed (reason : String)
  deriving DecidableEq

/-- The states of a console and how it answers a running program. -/
class Console (σ : Type) where
  read : σ → ReadResult × σ
  write : UInt8 → σ → WriteResult × σ

end TapeMachine
