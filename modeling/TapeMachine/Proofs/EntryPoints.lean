import TapeMachine.Proofs.CommandGrammar
import TapeMachine.Proofs.LineEndings
import TapeMachine.Proofs.Sessions
import TapeMachine.Proofs.Trimming

/-! # The ways to run a text

A text can be entered alone or behind `:run`, and it can stand in a file that is loaded or that the
program is called with. Each way takes different white space off the text, and a line ends its
output with a line feed; but `enters_alike` says that all of them run the one program that
the text stands for, that `:ops` lists this program, and that the errors of the text are the same,
up to the bytes taken off its front.
-/

namespace TapeMachine

namespace Command

variable {word text ending : String} {make : String → Command}

/-- White space is not taken off a word, but off the end of what stands behind it. -/
theorem trim_word (listed : word ∈ table.map Prod.fst) (text : List Char) :
    Text.trim (word.toList ++ text) = word.toList ++ Text.trimEnd text := by
  have solid : ∀ word ∈ table.map Prod.fst, Text.trimEnd word.toList = word.toList := by decide
  obtain ⟨rest, shape⟩ := List.head?_eq_some_iff.mp (colon_of_mem word listed)
  have front : Text.trimStart (word.toList ++ text) = word.toList ++ text := by
    rw [shape]
    rfl
  rw [Text.trim, front, Text.trimEnd_append]
  split
  · rename_i blank
    rw [solid word listed, blank, List.append_nil]
  · rfl

/-- A text without a colon in front is entered as it is, without the white space at its ends. -/
theorem ofLine_bare (white : Text.isBlank ending.toList = true)
    (plain : (Text.trim text.toList).head? ≠ some ':') :
    ofLine (text ++ ending) = .ok (.run (String.ofList (Text.trim text.toList))) := by
  have same : Text.trim (text ++ ending).toList = Text.trim text.toList := by
    rw [String.toList_append]
    exact Text.trimEnd_dropWhile_append (fun _ => id) (isBlank_eq_true_iff.mp white) _
  rw [ofLine, same]
  apply parse_of_reads
  apply Reads.bare
  rwa [String.toList_ofList]

/-- Behind a word and a blank a text is entered without the separators in front of it. -/
theorem ofLine_word (listed : (word, argument.map make) ∈ table)
    (white : Text.isBlank ending.toList = true) :
    ofLine (word ++ " " ++ text ++ ending) =
      .ok (make (String.ofList (Text.trimEnd (text.toList.dropWhile Text.isSeparator)))) := by
  have narrow : ∀ char, Text.isSeparator char = true → Text.isWhiteSpace char = true :=
    fun _ => Text.isWhiteSpace_of_isSeparator
  have line : (word ++ " " ++ text ++ ending).toList =
      word.toList ++ (' ' :: (text.toList ++ ending.toList)) := by
    simp
  have behind : (Text.trimEnd (' ' :: (text.toList ++ ending.toList))).dropWhile Text.isSeparator =
      Text.trimEnd (text.toList.dropWhile Text.isSeparator) := by
    rw [Text.dropWhile_trimEnd narrow, List.dropWhile_cons_of_pos (by rfl),
      Text.trimEnd_dropWhile_append narrow (isBlank_eq_true_iff.mp white)]
  rw [ofLine, line, trim_word (List.mem_map_of_mem listed), String.ofList_append,
    String.ofList_toList]
  apply parse_of_word listed
  rw [argument_map, String.toList_ofList, behind]

end Command

namespace Shell

/-- The line asks for something to be done with a source, and this source compiles as the text does:
to the same program, or to an error at the same bracket, which the text has `dropped` bytes
later. -/
def Hands (text : String) (dropped : Nat) (make : String → Command) (line : String) : Prop :=
  ∃ source, Command.ofLine line = .ok (make source) ∧
    compile (Text.encode text) = (compile (Text.encode source)).mapError (.moved dropped)

/-- If the text does not compile, the attempt fails at the same bracket, which the text has `dropped`
bytes later, and leaves the streams alone. -/
def Rejects (text : String) (dropped : Nat) (attempt : Session → Option Attempt) : Prop :=
  ∀ session error, compile (Text.encode text) = .error error → ∃ after found,
    attempt session = some ⟨after, some (.program (.compile found))⟩ ∧
      after.streams = session.streams ∧
        found.bracket = error.bracket ∧ found.offset + dropped = error.offset

/-- The attempt runs the text as a program on the input that the session has left, and writes
`closing` behind the output of a program that has succeeded. -/
structure Runs (patience : Nat) (text : String) (dropped : Nat) (closing : String)
    (attempt : Session → Option Attempt) : Prop where
  rejects : Rejects text dropped attempt
  /-- The attempt has no end if the program has none. -/
  endless : ∀ session program, compile (Text.encode text) = .ok program →
    program.run? patience (Machine.fresh (Streams.ofInput session.streams.pending)) = none →
      attempt session = none
  ends : ∀ session program machine fault, compile (Text.encode text) = .ok program →
    program.run? patience (Machine.fresh (Streams.ofInput session.streams.pending)) =
        some ⟨machine, fault⟩ →
      ∃ after, attempt session = some ⟨after, fault.map fun fault => .program (.execution fault)⟩ ∧
        after.streams.pending = machine.console.pending ∧
        after.streams.written.toList = session.streams.written.toList ++
          (machine.console.written.toList ++ if fault = none then Text.encode closing else [])

/-- The attempt shows the program of the text. -/
structure Shows (text : String) (dropped : Nat) (attempt : Session → Option Attempt) : Prop where
  rejects : Rejects text dropped attempt
  lists : ∀ session program, compile (Text.encode text) = .ok program → ∃ after,
    attempt session = some ⟨after, none⟩ ∧ after.streams = session.streams.writeAll
      (Text.encode (if program.isEmpty then "(no operations)\n" else program.listing))

namespace Session

/-- What becomes of a line before an error is put among the diagnostics. -/
def attemptLine (surroundings : Surroundings) (line : String) (session : Session) :
    Option Attempt :=
  match Command.ofLine line with
  | .error failure => some ⟨session, some (.parse failure)⟩
  | .ok command => session.execute surroundings command

theorem executeLine_eq_settle (surroundings : Surroundings) (line : String) (session : Session) :
    session.executeLine surroundings line =
      (session.attemptLine surroundings line).map Attempt.settle := by
  unfold executeLine attemptLine
  cases Command.ofLine line <;> rfl

theorem attemptLine_of_ofLine {line : String} {command : Command}
    (reads : Command.ofLine line = .ok command) (surroundings : Surroundings) (session : Session) :
    session.attemptLine surroundings line = session.execute surroundings command := by
  simp only [attemptLine, reads]

end Session

section

variable {surroundings : Surroundings} {patience dropped : Nat} {text closing line : String}
  {source : Source} {attempt : Session → Option Attempt}

theorem exists_rejected {found : Except CompileError Program} {error : CompileError}
    (fails : found.mapError (CompileError.moved dropped) = .error error) :
    ∃ error', found = .error error' ∧ error'.bracket = error.bracket ∧
      error'.offset + dropped = error.offset := by
  cases found with
  | ok program => cases fails
  | error found =>
    cases fails
    exact ⟨found, rfl, by simp, by simp⟩

theorem eq_ok_of_mapError {found : Except CompileError Program} {program : Program}
    (succeeds : found.mapError (CompileError.moved dropped) = .ok program) : found = .ok program := by
  cases found with
  | ok found => exact succeeds
  | error error => cases succeeds

/-- A source that compiles as the text does is run as the text would be. -/
theorem runs_runSource
    (same : compile (Text.encode text) = (compile source).mapError (.moved dropped)) :
    Runs surroundings.patience text dropped "" (·.runSource surroundings source) where
  rejects := by
    rintro ⟨streams, diagnostics⟩ error fails
    obtain ⟨found, rejected, bracket, offset⟩ := exists_rejected (same ▸ fails)
    simp only [Session.runSource, SourceRun.run?, rejected]
    exact ⟨_, found, rfl, rfl, bracket, offset⟩
  endless := by
    rintro ⟨streams, diagnostics⟩ program succeeds never
    have compiled := eq_ok_of_mapError (same ▸ succeeds)
    obtain ⟨-, never'⟩ | ⟨ending, ending', ends, -⟩ := program.run?_behind surroundings.patience streams
    · simp only [Session.runSource, SourceRun.run?, compiled, never']
      rfl
    · rw [never] at ends
      cases ends
  ends := by
    rintro ⟨streams, diagnostics⟩ program machine fault succeeds ends
    have compiled := eq_ok_of_mapError (same ▸ succeeds)
    obtain ⟨never, -⟩ | ⟨_, ⟨machine', _⟩, ends', ran, rfl, behind⟩ :=
      program.run?_behind surroundings.patience streams
    · rw [never] at ends
      cases ends
    · rw [ends] at ends'
      cases ends'
      simp only [Session.runSource, SourceRun.run?, compiled, ran, Option.map_some,
        SourceRun.error?, Option.map_map]
      refine ⟨_, rfl, ?_, ?_⟩
      · rw [Session.streams_report, SourceRun.machine, behind]
      · have closed : Text.encode "" = [] := rfl
        rw [Session.streams_report, SourceRun.machine, behind, closed, ite_self, List.append_nil]
        exact Array.toList_append

theorem Rejects.reported (rejects : Rejects text dropped attempt) (surroundings : Surroundings)
    (events : List Log.Event) :
    Rejects text dropped fun session => attempt (session.report surroundings events) := by
  intro session error fails
  obtain ⟨after, found, fails, left, place⟩ :=
    rejects (session.report surroundings events) error fails
  exact ⟨after, found, fails, left.trans (session.streams_report surroundings events), place⟩

/-- What is reported before a program is run makes no difference. -/
theorem Runs.reported (runs : Runs patience text dropped closing attempt)
    (surroundings : Surroundings) (events : List Log.Event) :
    Runs patience text dropped closing
      fun session => attempt (session.report surroundings events) where
  rejects := runs.rejects.reported surroundings events
  endless session := runs.endless (session.report surroundings events)
  ends session := runs.ends (session.report surroundings events)

/-- A line ends the output of a program that has succeeded. -/
theorem Runs.endLine (runs : Runs patience text dropped "" attempt) :
    Runs patience text dropped "\n" fun session => (attempt session).map Session.endLine where
  rejects := by
    intro session error fails
    obtain ⟨after, found, rejected, left, place⟩ := runs.rejects session error fails
    exact ⟨after, found, by simp only [rejected]; rfl, left, place⟩
  endless := by
    intro session program succeeds never
    simp only [runs.endless session program succeeds never, Option.map_none]
  ends := by
    intro session program machine fault succeeds ends
    obtain ⟨after, ended, pending, written⟩ := runs.ends session program machine fault succeeds ends
    cases fault with
    | some fault => exact ⟨after, by simp only [ended]; rfl, pending, written⟩
    | none =>
      refine ⟨after.print "\n", by simp only [ended]; rfl, pending, ?_⟩
      have closed : Text.encode "" = [] := rfl
      rw [if_pos rfl, closed, List.append_nil] at written
      rw [if_pos rfl, ← List.append_assoc, ← written]
      exact Array.toList_appendList

/-- A source that compiles as the text does is shown as the text would be. -/
theorem shows_showOperations
    (same : compile (Text.encode text) = (compile source).mapError (.moved dropped)) :
    Shows text dropped fun session => some (session.showOperations surroundings source) where
  rejects := by
    intro session error fails
    obtain ⟨found, rejected, bracket, offset⟩ := exists_rejected (same ▸ fails)
    simp only [Session.showOperations, rejected]
    exact ⟨_, found, rfl, rfl, bracket, offset⟩
  lists := by
    intro session program succeeds
    simp only [Session.showOperations, eq_ok_of_mapError (same ▸ succeeds)]
    exact ⟨_, rfl, rfl⟩

theorem Shows.reported (shows : Shows text dropped attempt) (surroundings : Surroundings)
    (events : List Log.Event) :
    Shows text dropped fun session => attempt (session.report surroundings events) where
  rejects := shows.rejects.reported surroundings events
  lists session := shows.lists (session.report surroundings events)

/-- A line that hands over a source to be run runs the text. -/
theorem Hands.runs (surroundings : Surroundings) (hands : Hands text dropped .run line) :
    Runs surroundings.patience text dropped "\n" (·.attemptLine surroundings line) := by
  obtain ⟨source, reads, same⟩ := hands
  simp only [Session.attemptLine_of_ofLine reads]
  exact ((runs_runSource same).reported surroundings _).endLine

/-- A line that hands over a source to be shown shows the text. -/
theorem Hands.shows (surroundings : Surroundings) (hands : Hands text dropped .showOperations line) :
    Shows text dropped (·.attemptLine surroundings line) := by
  obtain ⟨source, reads, same⟩ := hands
  simp only [Session.attemptLine_of_ofLine reads]
  exact (shows_showOperations same).reported surroundings _

/-- Nothing is taken off a text in a file. -/
theorem runs_runFile {path : String} (holds : surroundings.files path = .ok (Text.encode text)) :
    Runs surroundings.patience text 0 "" (·.runFile surroundings path) := by
  simp only [Session.runFile, holds]
  exact (runs_runSource (CompileError.mapError_moved_zero _).symm).reported surroundings _

theorem runs_load {path : String} (holds : surroundings.files path = .ok (Text.encode text))
    (reads : Command.ofLine line = .ok (.load path)) :
    Runs surroundings.patience text 0 "\n" (·.attemptLine surroundings line) := by
  simp only [Session.attemptLine_of_ofLine reads]
  exact ((runs_runFile holds).reported surroundings _).endLine

theorem hands_bare {ending : String} (white : Text.isBlank ending.toList = true)
    (plain : (Text.trim text.toList).head? ≠ some ':') :
    Hands text (Text.size (text.toList.takeWhile Text.isWhiteSpace)) .run (text ++ ending) :=
  ⟨_, Command.ofLine_bare white plain, compile_encode_trimmed (fun _ => id) text⟩

theorem hands_word {word ending : String} {make : String → Command}
    (listed : (word, Command.argument.map make) ∈ Command.table)
    (white : Text.isBlank ending.toList = true) :
    Hands text (Text.size (text.toList.takeWhile Text.isSeparator)) make
      (word ++ " " ++ text ++ ending) :=
  ⟨_, Command.ofLine_word listed white,
    compile_encode_trimmed (fun _ => Text.isWhiteSpace_of_isSeparator) text⟩

/-- A text on one line is taken as a whole from the input. -/
theorem runLines_typed (single : '\n' ∉ line.toList) (visible : Text.isBlank line.toList = false)
    {session : Session} {rest : List UInt8} {lines : Nat} {history : List String}
    (next : session.streams.pending = Text.encode (line ++ "\n") ++ rest) :
    session.runLines surroundings (lines + 1) history =
      (((session.leaving rest).attemptLine surroundings (line ++ "\n")).map Attempt.settle).bind
        fun after => after.runLines surroundings lines ((line ++ "\n") :: history) := by
  have taken : Line.takeRaw? session.streams.pending =
      some (Text.encode (line ++ "\n"), rest) := by
    have feed : Text.encode "\n" = [lineFeed] := rfl
    rw [next, Text.encode_append, feed, List.append_assoc]
    exact Line.takeRaw?_append (fun member => single (Text.mem_encode_lineFeed member)) rest
  have kept : ¬Text.isBlank (line ++ "\n").toList = true := by
    rw [String.toList_append, Text.isBlank_append, visible]
    decide
  rw [← Session.executeLine_eq_settle]
  exact Session.runLines_of_command taken (Text.decode?_encode _) kept

end

/-- A text is run alike wherever it comes from. -/
structure EntersAlike (surroundings : Surroundings) (text : String) : Prop where
  /-- Entered alone, the text loses the white space in front of it. -/
  bare : ∀ ending, Text.isBlank ending.toList = true →
    Hands text (Text.size (text.toList.takeWhile Text.isWhiteSpace)) .run (text ++ ending) ∧
      Runs surroundings.patience text (Text.size (text.toList.takeWhile Text.isWhiteSpace)) "\n"
        (·.attemptLine surroundings (text ++ ending))
  /-- Behind a word it loses separators only. -/
  run : ∀ ending, Text.isBlank ending.toList = true →
    Hands text (Text.size (text.toList.takeWhile Text.isSeparator)) .run
        (":run " ++ text ++ ending) ∧
      Runs surroundings.patience text (Text.size (text.toList.takeWhile Text.isSeparator)) "\n"
        (·.attemptLine surroundings (":run " ++ text ++ ending))
  operations : ∀ ending, Text.isBlank ending.toList = true →
    Hands text (Text.size (text.toList.takeWhile Text.isSeparator)) .showOperations
        (":ops " ++ text ++ ending) ∧
      Shows text (Text.size (text.toList.takeWhile Text.isSeparator))
        (·.attemptLine surroundings (":ops " ++ text ++ ending))
  /-- In a file it loses nothing. -/
  file : ∀ path, surroundings.files path = .ok (Text.encode text) →
    Runs surroundings.patience text 0 "" (·.runFile surroundings path)
  load : ∀ path line, surroundings.files path = .ok (Text.encode text) →
    Command.ofLine line = .ok (.load path) →
      Runs surroundings.patience text 0 "\n" (·.attemptLine surroundings line)
  /-- Typed in, alone or behind a word, the text is one line of the session. -/
  typed : ∀ word ∈ ["", ":run ", ":ops "], ∀ (session : Session) rest lines history,
    session.streams.pending = Text.encode (word ++ text ++ "\n") ++ rest →
      session.runLines surroundings (lines + 1) history =
        (((session.leaving rest).attemptLine surroundings (word ++ text ++ "\n")).map
          Attempt.settle).bind fun after =>
            after.runLines surroundings lines ((word ++ text ++ "\n") :: history)

/-- All ways to run a text that is one line, and no command, run the same program. -/
theorem enters_alike (surroundings : Surroundings) {text : String} (single : '\n' ∉ text.toList)
    (visible : Text.isBlank text.toList = false)
    (plain : (Text.trim text.toList).head? ≠ some ':') : EntersAlike surroundings text where
  bare ending white :=
    have hands := hands_bare white plain
    ⟨hands, hands.runs surroundings⟩
  run ending white :=
    have hands := hands_word (.head _) white
    ⟨hands, hands.runs surroundings⟩
  operations ending white :=
    have hands := hands_word (.tail _ (.head _)) white
    ⟨hands, hands.shows surroundings⟩
  file path holds := runs_runFile holds
  load path line holds reads := runs_load holds reads
  typed := by
    intro word listed session rest lines history next
    have apart : ∀ word ∈ ["", ":run ", ":ops "], '\n' ∉ word.toList := by decide
    refine runLines_typed ?_ ?_ next
    · rw [String.toList_append, List.mem_append]
      exact not_or.mpr ⟨apart word listed, single⟩
    · rw [String.toList_append, Text.isBlank_append, visible, Bool.and_false]

/-- Entered alone this text loses both its blanks, but behind a word none: the wide one in front is
no separator. -/
def wideBlank : String := "\u3000 ,[.-]"

theorem enters_alike_wideBlank :
    '\n' ∉ wideBlank.toList ∧ Text.isBlank wideBlank.toList = false ∧
      (Text.trim wideBlank.toList).head? ≠ some ':' ∧
        EntersAlike ⟨fun _ => .ok (Text.encode wideBlank), .ofSetting none, 100⟩ wideBlank :=
  ⟨by decide, by decide, by decide, enters_alike _ (by decide) (by decide) (by decide)⟩

end Shell

end TapeMachine
