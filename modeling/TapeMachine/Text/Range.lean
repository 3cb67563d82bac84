/-! # Ranges of characters

A class of characters can be listed as ranges of code points in increasing order, each with its
first and its last member.
-/

namespace TapeMachine.Text

/-- Whether a character lies in one of the ranges. The search stops at the first range that does not
end before the character, since those after it begin even later. -/
def covers : List (Nat × Nat) → Char → Bool
  | [], _ => false
  | (first, last) :: ranges, char =>
    if char.toNat ≤ last then first ≤ char.toNat else covers ranges char

end TapeMachine.Text
