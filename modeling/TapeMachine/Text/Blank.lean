/-! # Blank characters

Two classes of blanks. The wide one is the White_Space property of Unicode; it decides what is
trimmed from a line of text and which lines are blank. The narrow one holds the four blanks that may
stand between a command and its argument.
-/

namespace TapeMachine.Text

/-- Characters with the property White_Space. -/
def isWhiteSpace (char : Char) : Bool :=
  let code := char.toNat
  (9 ≤ code && code ≤ 13) || code == 0x20 || code == 0x85 || code == 0xA0 || code == 0x1680 ||
    (0x2000 ≤ code && code ≤ 0x200A) || code == 0x2028 || code == 0x2029 || code == 0x202F ||
    code == 0x205F || code == 0x3000

/-- Blank, tab, carriage return and line feed. -/
def isSeparator (char : Char) : Bool :=
  char == ' ' || char == '\t' || char == '\r' || char == '\n'

theorem isWhiteSpace_of_isSeparator {char : Char} (separator : isSeparator char = true) :
    isWhiteSpace char = true := by
  simp only [isSeparator, Bool.or_eq_true, beq_iff_eq] at separator
  rcases separator with ((rfl | rfl) | rfl) | rfl <;> rfl

/-- The text without the white space at its end. -/
def trimEnd (text : List Char) : List Char :=
  (text.reverse.dropWhile isWhiteSpace).reverse

/-- The text without the white space at its beginning. -/
def trimStart (text : List Char) : List Char :=
  text.dropWhile isWhiteSpace

/-- The text without the white space at both ends. -/
def trim (text : List Char) : List Char :=
  trimEnd (trimStart text)

/-- Whether a text holds nothing but white space. -/
def isBlank (text : List Char) : Bool :=
  text.all isWhiteSpace

@[simp] theorem isBlank_append (first second : List Char) :
    isBlank (first ++ second) = (isBlank first && isBlank second) :=
  List.all_append

end TapeMachine.Text
