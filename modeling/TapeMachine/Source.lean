import TapeMachine.Symbol

/-! # Source text and its symbols

A source is a sequence of raw bytes, no encoding assumed. `Source.located` lists its instruction
symbols with their byte offsets; everything else in the source is dropped. This list is what the
compiler works from.
-/

namespace TapeMachine

/-- Program text as raw bytes. -/
abbrev Source := List UInt8

/-- A symbol together with the byte offset at which the source has it. -/
structure Located where
  symbol : Symbol
  offset : Nat
  deriving DecidableEq

namespace Source

/-- The symbols of a text whose first byte stands at `offset`. -/
def locatedFrom (offset : Nat) (source : Source) : List Located :=
  (source.zipIdx offset).filterMap fun (byte, position) =>
    (Symbol.ofByte? byte).map fun symbol => ⟨symbol, position⟩

/-- The symbols of a source in order, each with its offset. -/
def located (source : Source) : List Located :=
  source.locatedFrom 0

/-- The symbols of a source without their positions. -/
def symbols (source : Source) : List Symbol :=
  source.filterMap Symbol.ofByte?

@[simp] theorem locatedFrom_nil (offset : Nat) : locatedFrom offset [] = [] := rfl

theorem locatedFrom_cons (offset : Nat) (byte : UInt8) (rest : Source) :
    locatedFrom offset (byte :: rest) =
      ((Symbol.ofByte? byte).map fun symbol => (⟨symbol, offset⟩ : Located)).toList ++
        locatedFrom (offset + 1) rest := by
  cases found : Symbol.ofByte? byte <;> simp [locatedFrom, found]

theorem locatedFrom_append (offset : Nat) (first second : Source) :
    locatedFrom offset (first ++ second) =
      locatedFrom offset first ++ locatedFrom (offset + first.length) second := by
  simp [locatedFrom, List.zipIdx_append]

theorem map_symbol_locatedFrom (offset : Nat) (source : Source) :
    (locatedFrom offset source).map Located.symbol = source.symbols := by
  induction source generalizing offset with
  | nil => rfl
  | cons byte rest ih =>
    cases found : Symbol.ofByte? byte <;> simp [locatedFrom_cons, symbols, found, ih]

end Source

end TapeMachine
