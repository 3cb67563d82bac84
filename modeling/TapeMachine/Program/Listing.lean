import TapeMachine.Program

/-! # Program listings

A listing has one line per operation: its address, a mark if some operation jumps there, and the
operation. A jump just past the last operation gets a line of its own, since it halts the program.

The marks are collected in one pass into a table over the addresses, so that a listing takes time
linear in the program; `getElem_marks` says that the table is the set of jump targets.
-/

namespace TapeMachine.Program

/-- One entry for each address and one for the address past the end, true at the jump targets. -/
def marks (program : Program) : Array Bool :=
  program.jumpTargets.foldl (fun marks target => marks.setIfInBounds target true)
    (Array.replicate (program.size + 1) false)

/-- Whether some operation jumps to `address`, for an address up to the size of the program. -/
def isMarked (program : Program) (address : Nat) : Bool :=
  program.marks.getD address false

/-- A line of a listing for what stands at `address`. -/
def listingLine (marked : Bool) (address : Nat) (content : String) : String :=
  Text.zeroPadded 4 address ++ (if marked then " ► " else "   ") ++ content ++ "\n"

/-- The lines of the listing, each with its line feed. -/
def listingLines (program : Program) : List String :=
  let marks := program.marks
  program.operations.toList.zipIdx.map (fun (operation, address) =>
    listingLine (marks.getD address false) address operation.text) ++
  if marks.getD program.size false then [listingLine true program.size "halt"] else []

/-- The listing of a program. -/
def listing (program : Program) : String :=
  String.join program.listingLines

theorem getElem?_foldl_setIfInBounds (targets : List Nat) (marks : Array Bool) (address : Nat) :
    (targets.foldl (fun marks target => marks.setIfInBounds target true) marks)[address]? =
      marks[address]?.map (fun marked => marked || decide (address ∈ targets)) := by
  induction targets generalizing marks with
  | nil => simp
  | cons target rest ih =>
    rw [List.foldl_cons, ih, Array.getElem?_setIfInBounds]
    by_cases same : target = address
    · subst same
      by_cases bound : target < marks.size <;> simp [bound]
    · simp [same, Ne.symm same]

/-- The table holds exactly the jump targets. -/
theorem isMarked_eq (program : Program) {address : Nat} (bound : address ≤ program.size) :
    program.isMarked address = decide (address ∈ program.jumpTargets) := by
  have inside : address < program.size + 1 := Nat.lt_succ_of_le bound
  simp [isMarked, marks, Array.getD_eq_getD_getElem?, getElem?_foldl_setIfInBounds, inside]

end TapeMachine.Program
