import Mathlib.Data.List.Induction
import TapeMachine.Tape.Unbounded

/-! # A growing tape stands for one without an end

`Tape.Represents` is the invariant over a history of edits: both tapes have the head at the same
address and the same cells, and the growing one ends just behind the farthest address where the head
has been. An edit preserves it, and is refused by one tape exactly if it is refused by the other.
-/

namespace TapeMachine

namespace UnboundedTape

variable (tape : UnboundedTape)

theorem editAll_concat (edits : List Tape.Edit) (edit : Tape.Edit) :
    tape.editAll (edits ++ [edit]) =
      ((tape.editAll edits).edit edit).toOption.getD (tape.editAll edits) := by
  simp [editAll]

/-- The farthest address changes only when the head goes beyond it. -/
theorem farthest_edit {tape : UnboundedTape} (inside : tape.head ≤ tape.farthest)
    (edit : Tape.Edit) : ((tape.edit edit).toOption.getD tape).farthest =
      max tape.farthest ((tape.edit edit).toOption.getD tape).head := by
  have covered : tape.farthest = max tape.farthest tape.head := (Nat.max_eq_left inside).symm
  cases edit with
  | add count | sub count | store value => exact covered
  | moveRight distance => rfl
  | moveLeft distance =>
    rw [UnboundedTape.edit]
    split
    · exact covered
    · change tape.farthest = max tape.farthest (tape.head - distance)
      omega

/-- What the tape notes as the farthest address is the largest one that the head has been at. -/
theorem farthest_editAll (edits : List Tape.Edit) :
    (∀ early, early <+: edits → (blank.editAll early).head ≤ (blank.editAll edits).farthest) ∧
      ∃ early, early <+: edits ∧ (blank.editAll early).head = (blank.editAll edits).farthest := by
  induction edits using List.reverseRecOn with
  | nil =>
    refine ⟨?_, [], List.nil_prefix, rfl⟩
    intro early initial
    obtain rfl := List.prefix_nil.mp initial
    exact Nat.le_refl _
  | append_singleton edits edit ih =>
    obtain ⟨bounded, reached, initial, farthest⟩ := ih
    have grown := farthest_edit (bounded edits List.prefix_rfl) edit
    rw [← editAll_concat] at grown
    rw [grown]
    constructor
    · intro early initial
      rcases List.prefix_concat_iff.mp initial with rfl | initial
      · exact Nat.le_max_right ..
      · exact Nat.le_trans (bounded early initial) (Nat.le_max_left ..)
    · rcases Nat.le_total (blank.editAll edits).farthest
          (blank.editAll (edits ++ [edit])).head with beyond | within
      · exact ⟨edits ++ [edit], List.prefix_rfl, (Nat.max_eq_right beyond).symm⟩
      · refine ⟨reached, initial.trans (List.prefix_append ..), ?_⟩
        rw [farthest, Nat.max_eq_left within]

end UnboundedTape

namespace Tape

theorem editAll_concat (tape : Tape) (edits : List Edit) (edit : Edit) :
    tape.editAll (edits ++ [edit]) =
      ((tape.editAll edits).edit edit).toOption.getD (tape.editAll edits) := by
  simp [editAll]

theorem getElem?_cells {tape : Tape} {address : Nat} (inside : address < tape.size) :
    tape.cells[address]? = some (tape.cell address) := by
  have inside : address < tape.cells.size := inside
  simp [cell, inside]

/-- Of all edits only a move over the left end is refused. -/
theorem edit_eq_error_iff (tape : Tape) (edit : Edit) (refused : Underflow) :
    tape.edit edit = .error refused ↔
      ∃ distance, edit = .moveLeft distance ∧ tape.head < distance ∧
        refused = ⟨tape.head, distance⟩ := by
  cases edit with
  | add count | sub count | store value | moveRight distance => simp [Tape.edit]
  | moveLeft distance => simp [Tape.edit, moveLeft_eq_error_iff]

/-- The tape has the cells of the one without an end, and as many as the head has been at. -/
structure Represents (tape : Tape) (model : UnboundedTape) : Prop where
  head_eq : tape.head = model.head
  size_eq : tape.size = model.farthest + 1
  cell_eq : ∀ address, tape.cell address = model.cell address

namespace Represents

variable {tape : Tape} {model : UnboundedTape}

theorem blank : Tape.blank.Represents .blank where
  head_eq := rfl
  size_eq := rfl
  cell_eq := cell_blank

/-- Both tapes change the cell under the head alike. -/
theorem update (represents : tape.Represents model) {value : UInt8} {change : UInt8 → UInt8}
    (changed : value = change tape.load) :
    (tape.store value).Represents (model.update change) where
  head_eq := represents.head_eq
  size_eq := by rw [size_store, represents.size_eq]; rfl
  cell_eq := by
    intro address
    rw [cell_store, represents.head_eq, UnboundedTape.update]
    dsimp only
    split
    · rename_i here
      rw [changed, load_eq_cell, represents.cell_eq, represents.head_eq, here]
    · exact represents.cell_eq address

theorem moveRight (represents : tape.Represents model) (distance : Nat) :
    (tape.moveRight distance).Represents
      ⟨model.cell, model.head + distance, max model.farthest (model.head + distance)⟩ where
  head_eq := by rw [head_moveRight, represents.head_eq]
  size_eq := by
    have size := represents.size_eq
    have head := represents.head_eq
    rw [size_moveRight]
    change _ = max model.farthest (model.head + distance) + 1
    omega
  cell_eq address := by rw [cell_moveRight, represents.cell_eq]

/-- Both tapes make an edit, or both refuse it for the same reason. -/
theorem edit (represents : tape.Represents model) (edit : Edit) :
    (∃ refused, tape.edit edit = .error refused ∧ model.edit edit = .error refused) ∨
      ∃ next next', tape.edit edit = .ok next ∧ model.edit edit = .ok next' ∧
        next.Represents next' := by
  cases edit with
  | add count =>
    have sum : tape.load + UInt8.ofNat count = UInt8.ofNat (tape.load.toNat + count) := by
      rw [UInt8.ofNat_add, UInt8.ofNat_toNat]
    exact .inr ⟨_, _, rfl, rfl, represents.update sum⟩
  | sub count =>
    have difference : tape.load - UInt8.ofNat count =
        UInt8.ofNat (tape.load.toNat + 255 * count) := by
      apply UInt8.toNat_inj.mp
      rw [UInt8.toNat_sub, UInt8.toNat_ofNat', UInt8.toNat_ofNat']
      omega
    exact .inr ⟨_, _, rfl, rfl, represents.update difference⟩
  | store value => exact .inr ⟨_, _, rfl, rfl, represents.update rfl⟩
  | moveRight distance => exact .inr ⟨_, _, rfl, rfl, represents.moveRight distance⟩
  | moveLeft distance =>
    simp only [Tape.edit, UnboundedTape.edit, ← represents.head_eq]
    by_cases close : tape.head < distance
    · refine .inl ⟨⟨tape.head, distance⟩, ?_, if_pos close⟩
      exact (tape.moveLeft_eq_error_iff distance).mpr ⟨close, rfl⟩
    · obtain ⟨moved, done, cells, head⟩ := moveLeft_of_le (Nat.le_of_not_lt close)
      refine .inr ⟨moved, _, done, if_neg close, head, ?_, ?_⟩
      · rw [size, cells]
        exact represents.size_eq
      · intro address
        rw [cell, cells]
        exact represents.cell_eq address

/-- Any edits in a row leave both tapes alike. -/
theorem editAll (represents : tape.Represents model) (edits : List Edit) :
    (tape.editAll edits).Represents (model.editAll edits) := by
  induction edits using List.reverseRecOn with
  | nil => exact represents
  | append_singleton edits edit ih =>
    rw [editAll_concat, UnboundedTape.editAll_concat]
    obtain ⟨refused, same, same'⟩ | ⟨next, next', same, same', represents⟩ := ih.edit edit
    · rw [same, same']
      exact ih
    · rw [same, same']
      exact represents

end Represents

end Tape

end TapeMachine
