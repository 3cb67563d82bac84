import TapeMachine.Symbol
import TapeMachine.Text.Decimal

/-! # Operations of a compiled program

A run of equal actions becomes one operation with a repeat count, a bracket becomes a jump with the
address to go on at when the jump is taken.

Counts and targets are natural numbers without a bound. Where a machine word is to hold them they
are taken to stay below `2 ^ 64`, and so are the head positions to which a count of moves leads.
-/

namespace TapeMachine

/-- One instruction of a compiled program. -/
inductive Operation where
  /-- Does `action` `count` times. -/
  | perform (action : Action) (count : Nat)
  /-- Goes on at `target` if the current cell is zero. -/
  | jumpIfZero (target : Nat)
  /-- Goes on at `target` if the current cell is not zero. -/
  | jumpIfNonzero (target : Nat)
  deriving DecidableEq

namespace Operation

/-- The operation of the kind that `symbol` names. -/
def ofSymbol (symbol : Symbol) (operand : Nat) : Operation :=
  match symbol with
  | .act action => .perform action operand
  | .loopStart => .jumpIfZero operand
  | .loopEnd => .jumpIfNonzero operand

/-- The symbol that the operation is made from. -/
def symbol : Operation → Symbol
  | .perform action _ => .act action
  | .jumpIfZero _ => .loopStart
  | .jumpIfNonzero _ => .loopEnd

/-- The repeat count of an action, the target of a jump. -/
def operand : Operation → Nat
  | .perform _ count => count
  | .jumpIfZero target => target
  | .jumpIfNonzero target => target

/-- The address that the operation may jump to, if it is a jump. -/
def jumpTarget? : Operation → Option Nat
  | .perform _ _ => none
  | .jumpIfZero target => some target
  | .jumpIfNonzero target => some target

/-- The operation as a listing shows it: its short name in a column of five, then the count, or an
arrow and the target as an address of at least four digits. -/
def text (operation : Operation) : String :=
  Text.blankPadded 5 operation.symbol.mnemonic ++
    match operation.jumpTarget? with
    | some target => " -> " ++ Text.zeroPadded 4 target
    | none => " " ++ operation.operand.repr

/-- The operation as diagnostics show it: its long name with the operand in parentheses. -/
def describe (operation : Operation) : String :=
  operation.symbol.name ++ "(" ++ operation.operand.repr ++ ")"

@[simp] theorem ofSymbol_symbol_operand (operation : Operation) :
    ofSymbol operation.symbol operation.operand = operation := by
  cases operation <;> rfl

@[simp] theorem symbol_ofSymbol (symbol : Symbol) (operand : Nat) :
    (ofSymbol symbol operand).symbol = symbol := by
  cases symbol <;> rfl

@[simp] theorem operand_ofSymbol (symbol : Symbol) (count : Nat) :
    (ofSymbol symbol count).operand = count := by
  cases symbol <;> rfl

end Operation

end TapeMachine
