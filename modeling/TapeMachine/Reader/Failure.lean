import TapeMachine.Reader
import TapeMachine.Text.Quoted

/-! # Reading a whole text, and why it fails

A text is read as a whole: what a reader leaves over is a failure too. A failure is reported with
the kind of thing that was to be read. For a refusal each complaint shows the line of the text where
it arose and a caret below the place; the caret is moved by the bytes before the place, and the line
is shown without the white space at its end.
-/

namespace TapeMachine

/-- Why a text could not be read as a `what`. -/
inductive ReadFailure where
  | refused (what : String) (text : List Char) (complaints : List Complaint)
  | needsMore (what : String) (count : Nat)
  /-- The text begins with a readable part, shown as `parsed`, but goes on with `rest`. -/
  | leftover (what parsed : String) (rest : List Char)
  deriving DecidableEq

namespace Complaint

/-- How many bytes a text takes in UTF-8. -/
def byteCount (text : List Char) : Nat :=
  text.foldl (fun count char => count + char.utf8Size) 0

/-- The complaint as entry `number` of a report on `text`. -/
def entry (text : List Char) (number : Nat) (complaint : Complaint) : String :=
  let name := complaint.requirement.name
  if text.isEmpty then number.repr ++ ": in " ++ name ++ ", got empty input\n\n"
  else
    let before := text.take (text.length - complaint.rest.length)
    let lineBefore := (before.reverse.takeWhile (· != '\n')).reverse
    let line := lineBefore ++ complaint.rest.takeWhile (· != '\n')
    number.repr ++ ": at line " ++ (before.count '\n' + 1).repr ++ ", in " ++ name ++ ":\n" ++
      String.ofList (Text.trimEnd line) ++ "\n" ++
      String.ofList (List.replicate (byteCount lineBefore) ' ') ++ "^\n\n"

end Complaint

namespace ReadFailure

/-- The text that reports the failure. -/
def message : ReadFailure → String
  | .refused what text complaints =>
    "Failed to parse " ++ what ++ ":\n" ++
      String.join (complaints.zipIdx.map fun (complaint, number) => complaint.entry text number)
  | .needsMore what count => "Incomplete parse of " ++ what ++ ": Size(" ++ count.repr ++ ")"
  | .leftover what parsed rest =>
    "Incomplete parse of " ++ what ++ ":\nParsed: " ++ parsed ++ "\nRest: " ++ String.ofList rest

end ReadFailure

namespace Reader

variable {α : Type}

/-- Reads all of `text` as a `what`; `describe` shows a value that was read from a part only. -/
def readAll (what : String) (describe : α → String) (reader : Reader α) (text : List Char) :
    Except ReadFailure α :=
  match reader text with
  | .value value [] => .ok value
  | .value value rest => .error (.leftover what (describe value) rest)
  | .refused complaints => .error (.refused what text complaints)
  | .needsMore count => .error (.needsMore what count)

end Reader

end TapeMachine
