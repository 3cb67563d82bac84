/-! # Decimal numbers and columns in text

Numbers are written in decimal without a sign. A column is filled up to a least width: numbers with
zeros on the left, words with blanks on the right. What is wider than its column is kept whole.

Numbers that are read may have a sign, a fraction and an exponent, and the names of the infinite and
the undefined number stand for numbers too.
-/

namespace TapeMachine.Text

/-- `number` in decimal, with zeros in front up to `width` digits. -/
def zeroPadded (width number : Nat) : String :=
  String.ofList ((Nat.toDigits 10 number).leftpad width '0')

/-- `word` with blanks behind it up to `width` characters. -/
def blankPadded (width : Nat) (word : String) : String :=
  String.ofList (word.toList.rightpad width ' ')

/-- The text without one sign at its beginning. -/
def withoutSign : List Char → List Char
  | '+' :: rest => rest
  | '-' :: rest => rest
  | text => text

/-- Whether the text is a sequence of digits, one at least. -/
def isDigits (text : List Char) : Bool :=
  !text.isEmpty && text.all Char.isDigit

/-- Whether the text is empty or an exponent. -/
def isExponent : List Char → Bool
  | [] => true
  | mark :: rest => (mark == 'e' || mark == 'E') && isDigits (withoutSign rest)

/-- Whether the text is a decimal number without a sign. -/
def isUnsigned (text : List Char) : Bool :=
  let whole := text.takeWhile Char.isDigit
  match text.drop whole.length with
  | '.' :: rest =>
    let fraction := rest.takeWhile Char.isDigit
    !(whole.isEmpty && fraction.isEmpty) && isExponent (rest.drop fraction.length)
  | rest => !whole.isEmpty && isExponent rest

/-- The names of the infinite and the undefined number. -/
def numberNames : List String := ["inf", "infinity", "nan"]

/-- Whether the text stands for a number. -/
def isNumber (text : List Char) : Bool :=
  let text := withoutSign text
  isUnsigned text || numberNames.contains (String.ofList (text.map Char.toLower))

end TapeMachine.Text
