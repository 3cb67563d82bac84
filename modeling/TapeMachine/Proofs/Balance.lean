import TapeMachine.Proofs.Nesting
import TapeMachine.Proofs.Scanning

/-! # Counting the brackets of a source

A source balances if its bracket bytes do, whatever stands between them. Nesting implies it, and so
does, but for the totals, that brackets are merely left open.
-/

namespace TapeMachine.Source

variable {source : Source} {stack : List Nat}

/-- How many opening brackets a source has. -/
def openings (source : Source) : Nat :=
  source.count Symbol.loopStart.toByte

/-- How many closing brackets a source has. -/
def closings (source : Source) : Nat :=
  source.count Symbol.loopEnd.toByte

/-- No initial part has more closing than opening brackets. -/
def Covered (source : Source) : Prop :=
  ∀ length, closings (source.take length) ≤ openings (source.take length)

/-- No initial part has more closing than opening brackets, and the totals agree. -/
structure Balanced (source : Source) : Prop where
  covered : source.Covered
  closings_eq : source.closings = source.openings

theorem covered_of_unclosed (unclosed : Unclosed Symbol.ofByte? source stack) : source.Covered := by
  intro length
  rw [closings, openings, ← count_symbols, ← count_symbols]
  rw [← List.take_append_drop length source] at unclosed
  exact unclosed.count_le

theorem openings_of_unclosed (unclosed : Unclosed Symbol.ofByte? source stack) :
    source.openings = source.closings + stack.length := by
  rw [closings, openings, ← count_symbols, ← count_symbols]
  exact unclosed.count_eq

theorem balanced_of_nested (nested : Nested source.symbols) : source.Balanced where
  covered := covered_of_unclosed (.closed nested)
  closings_eq := (openings_of_unclosed (.closed nested)).symm

theorem closings_append_loopEnd (source : Source) :
    closings (source ++ [Symbol.loopEnd.toByte]) = source.closings + 1 := by
  simp [closings]

theorem openings_append_loopEnd (source : Source) :
    openings (source ++ [Symbol.loopEnd.toByte]) = source.openings := by
  rw [openings, openings, ← count_symbols, ← count_symbols]
  simp [symbols]

end TapeMachine.Source
