import Mathlib.Data.List.TakeWhile
import TapeMachine.Proofs.LineTaking

/-! # Lines and how they end

`Line.Written` says how lines are written one after the other: each with a line feed or with both
terminators behind it, the last one maybe without. Reading gives back the lines of every text that
is written so, and every text is. The one thing that cannot be written is a line that ends in a
carriage return and then a lone line feed, since the two together are one terminator.
-/

namespace TapeMachine

namespace Line

/-- What can stand behind a line to end it. A line feed alone cannot if the line itself ends in a
carriage return. -/
inductive Terminates (line : Line) : List UInt8 → Prop where
  | lineFeed (apart : line.getLast? ≠ some carriageReturn) : Terminates line [lineFeed]
  | both : Terminates line [carriageReturn, lineFeed]

/-- How lines are written: each is followed by a terminator, but the last one may go without unless
it is empty. -/
inductive Written : List Line → List UInt8 → Prop where
  | nothing : Written [] []
  | unterminated {line : Line} (single : lineFeed ∉ line) (nonempty : line ≠ []) :
    Written [line] line
  | terminated {line : Line} {lines : List Line} {terminator bytes : List UInt8}
    (single : lineFeed ∉ line) (terminates : line.Terminates terminator)
    (later : Written lines bytes) : Written (line :: lines) (line ++ (terminator ++ bytes))

variable {line body : Line} {lines : List Line} {terminator bytes rest : List UInt8}

@[simp] theorem splitRaw_nil : splitRaw [] = [] := by
  rw [splitRaw]
  rfl

theorem bne_lineFeed_of_mem (single : lineFeed ∉ body) :
    ∀ byte ∈ body, (byte != lineFeed) = true := by
  intro byte member
  exact bne_iff_ne.mpr fun same => single (same ▸ member)

/-- A line is taken up to its line feed. -/
theorem takeRaw?_append (single : lineFeed ∉ body) (rest : List UInt8) :
    takeRaw? (body ++ lineFeed :: rest) = some (body ++ [lineFeed], rest) := by
  have inside := bne_lineFeed_of_mem single
  unfold takeRaw?
  split
  · rename_i empty
    simp at empty
  · simp [List.takeWhile_append_of_pos inside, List.dropWhile_append_of_pos inside]

/-- Without a line feed the whole text is one line. -/
theorem takeRaw?_of_not_mem (single : lineFeed ∉ body) (nonempty : body ≠ []) :
    takeRaw? body = some (body, []) := by
  have inside := bne_lineFeed_of_mem single
  unfold takeRaw?
  split
  · exact absurd rfl nonempty
  · rw [List.takeWhile_eq_self_iff.mpr inside, List.dropWhile_eq_nil_iff.mpr inside]

/-- What is taken ends in the first line feed, or is all there is. -/
theorem takeRaw?_cases (taken : takeRaw? bytes = some (line, rest)) :
    (lineFeed ∉ line ∧ rest = []) ∨ ∃ body, lineFeed ∉ body ∧ line = body ++ [lineFeed] := by
  by_cases feeds : lineFeed ∈ bytes
  · obtain ⟨body, more, rfl, single⟩ := List.eq_append_cons_of_mem feeds
    rw [takeRaw?_append single] at taken
    cases taken
    exact .inr ⟨body, single, rfl⟩
  · have nonempty : bytes ≠ [] := by
      rintro rfl
      cases taken
    rw [takeRaw?_of_not_mem feeds nonempty] at taken
    cases taken
    exact .inl ⟨feeds, rfl⟩

theorem stripTerminator_of_not_mem (single : lineFeed ∉ line) : line.stripTerminator = line :=
  if_neg fun last => single (List.mem_of_getLast? last)

theorem stripTerminator_append (terminates : line.Terminates terminator) :
    stripTerminator (line ++ terminator) = line := by
  cases terminates with
  | lineFeed apart => simp [stripTerminator, apart]
  | both =>
    rw [List.append_cons]
    simp [stripTerminator]

/-- Whatever stands before a line feed is a line with a terminator. -/
theorem exists_terminates (body : Line) :
    ∃ line terminator, line.Terminates terminator ∧ body ++ [lineFeed] = line ++ terminator ∧
      ∀ byte ∈ line, byte ∈ body := by
  by_cases last : body.getLast? = some carriageReturn
  · obtain ⟨line, rfl⟩ := List.getLast?_eq_some_iff.mp last
    refine ⟨line, _, .both, by simp, ?_⟩
    intro byte member
    exact List.mem_append_left _ member
  · exact ⟨body, _, .lineFeed last, rfl, fun _ => id⟩

/-- A line with a terminator is read first. -/
theorem takeRaw?_of_terminates (single : lineFeed ∉ line) (terminates : line.Terminates terminator)
    (rest : List UInt8) :
    takeRaw? (line ++ (terminator ++ rest)) = some (line ++ terminator, rest) := by
  cases terminates with
  | lineFeed apart => exact takeRaw?_append single rest
  | both =>
    have single' : TapeMachine.lineFeed ∉ line ++ [carriageReturn] := by
      simpa [single] using (by decide : TapeMachine.lineFeed ≠ carriageReturn)
    have taken := takeRaw?_append single' rest
    simpa using taken

/-- The lines of a text are those that it is written from. -/
theorem Written.map_splitRaw (written : Written lines bytes) :
    (splitRaw bytes).map stripTerminator = lines := by
  induction written with
  | nothing => rw [splitRaw_nil, List.map_nil]
  | unterminated single nonempty =>
    rw [splitRaw_of_takeRaw? (takeRaw?_of_not_mem single nonempty), splitRaw_nil, List.map_singleton,
      stripTerminator_of_not_mem single]
  | terminated single terminates later ih =>
    rw [splitRaw_of_takeRaw? (takeRaw?_of_terminates single terminates _), List.map_cons, ih,
      stripTerminator_append terminates]

/-- Every text is written from some lines. -/
theorem exists_written (bytes : List UInt8) : ∃ lines, Written lines bytes := by
  generalize size : bytes.length = length
  induction length using Nat.strongRecOn generalizing bytes with
  | ind length ih =>
    by_cases finished : bytes = []
    · subst finished
      exact ⟨[], .nothing⟩
    · obtain ⟨raw, rest, next⟩ := exists_takeRaw? finished
      have whole := append_of_takeRaw?_eq_some next
      have shorter := length_lt_of_takeRaw?_eq_some next
      obtain ⟨lines, later⟩ := ih rest.length (size ▸ shorter) rest rfl
      obtain ⟨single, rfl⟩ | ⟨body, single, rfl⟩ := takeRaw?_cases next
      · rw [List.append_nil] at whole
        subst whole
        exact ⟨[raw], .unterminated single finished⟩
      · obtain ⟨line, terminator, terminates, split, within⟩ := exists_terminates body
        rw [split, List.append_assoc] at whole
        subst whole
        exact ⟨line :: lines,
          .terminated (fun member => single (within _ member)) terminates later⟩

end Line

/-- The answers to so many requests for a line, one after the other. -/
def Console.answers {σ : Type} [Console σ] : Nat → σ → List ReadResult
  | 0, _ => []
  | count + 1, console => (Console.read console).1 :: answers count (Console.read console).2

namespace Streams

/-- As long as there is a line it is handed out, without its terminator. -/
theorem read_of_takeRaw? {pending rest : List UInt8} {line : Line}
    (next : Line.takeRaw? pending = some (line, rest)) (written : Array UInt8) :
    Console.read (⟨pending, written⟩ : Streams) =
      (.line line.stripTerminator, ⟨rest, written⟩) := by
  simp only [Console.read, read, Line.take?, next, Option.map_some]

/-- At its end an input stays there. -/
theorem answers_of_used (count : Nat) (written : Array UInt8) :
    Console.answers count (⟨[], written⟩ : Streams) = List.replicate count .endOfInput := by
  induction count with
  | zero => rfl
  | succ count ih => exact congrArg (ReadResult.endOfInput :: ·) ih

/-- Reading gives the lines that the input is written from, and then nothing more. -/
theorem answers_of_written {lines : List Line} {bytes : List UInt8}
    (spelled : Line.Written lines bytes) (written : Array UInt8) (more : Nat) :
    Console.answers (lines.length + more) (⟨bytes, written⟩ : Streams) =
      lines.map .line ++ List.replicate more .endOfInput := by
  induction spelled with
  | nothing => simpa using answers_of_used more written
  | unterminated single nonempty =>
    rw [List.length_singleton, Nat.add_comm, Console.answers,
      read_of_takeRaw? (Line.takeRaw?_of_not_mem single nonempty),
      Line.stripTerminator_of_not_mem single]
    exact congrArg _ (answers_of_used more written)
  | terminated single terminates later ih =>
    rw [List.length_cons, Nat.succ_add, Console.answers,
      read_of_takeRaw? (Line.takeRaw?_of_terminates single terminates _),
      Line.stripTerminator_append terminates]
    exact congrArg _ ih

end Streams

end TapeMachine
