import TapeMachine.Tape

/-! # Tapes without an end

A tape that grows on demand stands for one that is infinite to the right and all zero at first. This
is that tape, with a note of how far the head has ever been. `Tape.Edit` names the operations that
both kinds of tape have, so that the two can be compared over any sequence of them; an operation
that fails changes nothing.
-/

namespace TapeMachine

/-- One operation on a tape. -/
inductive Tape.Edit where
  | add (count : Nat)
  | sub (count : Nat)
  | store (value : UInt8)
  | moveRight (distance : Nat)
  | moveLeft (distance : Nat)
  deriving DecidableEq

/-- What one edit makes of a tape. -/
def Tape.edit (tape : Tape) : Tape.Edit → Except Underflow Tape
  | .add count => .ok (tape.add count)
  | .sub count => .ok (tape.sub count)
  | .store value => .ok (tape.store value)
  | .moveRight distance => .ok (tape.moveRight distance)
  | .moveLeft distance => tape.moveLeft distance

/-- What edits in a row make of a tape; those that fail are passed over. -/
def Tape.editAll (tape : Tape) (edits : List Tape.Edit) : Tape :=
  edits.foldl (fun tape edit => (tape.edit edit).toOption.getD tape) tape

/-- A tape that is infinite to the right. -/
structure UnboundedTape where
  cell : Nat → UInt8
  head : Nat
  /-- The farthest address at which the head has ever been. -/
  farthest : Nat

namespace UnboundedTape

/-- The tape before any edit. -/
def blank : UnboundedTape := ⟨fun _ => 0, 0, 0⟩

/-- Changes the cell under the head. -/
def update (tape : UnboundedTape) (change : UInt8 → UInt8) : UnboundedTape :=
  { tape with
    cell := fun address =>
      if address = tape.head then change (tape.cell address) else tape.cell address }

/-- What one edit makes of a tape. -/
def edit (tape : UnboundedTape) : Tape.Edit → Except Underflow UnboundedTape
  | .add count => .ok (tape.update fun value => UInt8.ofNat (value.toNat + count))
  | .sub count => .ok (tape.update fun value => UInt8.ofNat (value.toNat + 255 * count))
  | .store value => .ok (tape.update fun _ => value)
  | .moveRight distance =>
    .ok ⟨tape.cell, tape.head + distance, max tape.farthest (tape.head + distance)⟩
  | .moveLeft distance =>
    if tape.head < distance then .error ⟨tape.head, distance⟩
    else .ok ⟨tape.cell, tape.head - distance, tape.farthest⟩

/-- What edits in a row make of a tape; those that fail are passed over. -/
def editAll (tape : UnboundedTape) (edits : List Tape.Edit) : UnboundedTape :=
  edits.foldl (fun tape edit => (tape.edit edit).toOption.getD tape) tape

end UnboundedTape

end TapeMachine
