import TapeMachine.Proofs.CommandLines

/-! # Sessions line by line

A session takes a line, does what it asks for and goes on with what is left of the input. What it
goes on with depends on nothing else: not on what has been written, not on what has gone wrong, and
not on any program that has been run. So a session is one line and then a session of its own.

Who takes a line is whoever asks for it. The input is cut into turns, a command line and the lines
that its program takes, and no line falls between two turns.
-/

namespace TapeMachine.Shell

namespace Session

variable {surroundings : Surroundings} {session after : Session} {bytes : Line}
  {pending rest : List UInt8} {line : String} {lines : Nat} {history : List String}

section

/-- Without input nothing is read. -/
theorem runLines_of_used (used : session.streams.pending = []) :
    session.runLines surroundings lines history = some (session, history) := by
  obtain ⟨⟨_, written⟩, diagnostics⟩ := session
  obtain rfl := used
  cases lines with
  | zero => rfl
  | succ lines => rfl

variable (next : Line.takeRaw? session.streams.pending = some (bytes, rest))

include next

theorem runLines_of_unreadable (noText : Text.decode? bytes = none) :
    session.runLines surroundings (lines + 1) history =
      some ((session.leaving rest).report surroundings [.unreadableLine notText], history) := by
  obtain ⟨⟨pending, written⟩, diagnostics⟩ := session
  have next : Line.takeRaw? pending = some (bytes, rest) := next
  simp only [runLines, next, noText]
  rfl

theorem runLines_of_blank (text : Text.decode? bytes = some line)
    (blank : Text.isBlank line.toList = true) : session.runLines surroundings (lines + 1) history =
      (session.leaving rest).runLines surroundings lines history := by
  obtain ⟨⟨pending, written⟩, diagnostics⟩ := session
  have next : Line.takeRaw? pending = some (bytes, rest) := next
  simp only [runLines, next, text, if_pos blank]
  rfl

theorem runLines_of_command (text : Text.decode? bytes = some line)
    (command : ¬Text.isBlank line.toList = true) :
    session.runLines surroundings (lines + 1) history =
      ((session.leaving rest).executeLine surroundings line).bind fun after =>
        after.runLines surroundings lines (line :: history) := by
  obtain ⟨⟨pending, written⟩, diagnostics⟩ := session
  have next : Line.takeRaw? pending = some (bytes, rest) := next
  simp only [runLines, next, text, if_neg command]
  rfl

end

/-- What holds of every session that has read its input, and of any other if it holds of all that
have no more left than there is behind its next line, holds of every session. -/
theorem run_induction {motive : Session → Prop}
    (used : ∀ session, session.streams.pending = [] → motive session)
    (unreadable : ∀ session bytes rest,
      Line.takeRaw? session.streams.pending = some (bytes, rest) → Text.decode? bytes = none →
        motive session)
    (blank : ∀ session bytes rest line,
      Line.takeRaw? session.streams.pending = some (bytes, rest) →
        Text.decode? bytes = some line → Text.isBlank line.toList = true →
          (∀ later, later.streams.pending.length ≤ rest.length → motive later) → motive session)
    (command : ∀ session bytes rest line,
      Line.takeRaw? session.streams.pending = some (bytes, rest) →
        Text.decode? bytes = some line → ¬Text.isBlank line.toList = true →
          (∀ later, later.streams.pending.length ≤ rest.length → motive later) → motive session)
    (session : Session) : motive session := by
  generalize size : session.streams.pending.length = length
  induction length using Nat.strongRecOn generalizing session with
  | ind length ih =>
    by_cases finished : session.streams.pending = []
    · exact used session finished
    · obtain ⟨bytes, rest, next⟩ := Line.exists_takeRaw? finished
      have shorter := size ▸ Line.length_lt_of_takeRaw?_eq_some next
      have behind : ∀ later : Session, later.streams.pending.length ≤ rest.length → motive later :=
        fun later left => ih _ (Nat.lt_of_le_of_lt left shorter) later rfl
      cases text : Text.decode? bytes with
      | none => exact unreadable session bytes rest next text
      | some line =>
        by_cases isBlank : Text.isBlank line.toList = true
        · exact blank session bytes rest line next text isBlank behind
        · exact command session bytes rest line next text isBlank behind

/-- Whoever may read as many lines as there are bytes may read one and as many as are left then. -/
theorem exists_eq_succ_of_takeRaw? (next : Line.takeRaw? pending = some (bytes, rest))
    (enough : pending.length ≤ lines) : ∃ fewer, lines = fewer + 1 ∧ rest.length ≤ fewer := by
  have shorter := Line.length_lt_of_takeRaw?_eq_some next
  exact ⟨lines - 1, by omega, by omega⟩

variable (quiet : surroundings.filter = Log.Filter.ofSetting none)

include quiet

/-- A command leaves no more of the input than there was. -/
theorem length_le_of_executeLine
    (executed : session.executeLine surroundings line = some after) :
    after.streams.pending.length ≤ session.streams.pending.length := by
  rw [executeLine_eq_perform quiet] at executed
  exact (accounts_of_perform executed).2

/-- One line more than there are bytes makes no difference. -/
theorem runLines_succ (enough : session.streams.pending.length ≤ lines) :
    session.runLines surroundings (lines + 1) history =
      session.runLines surroundings lines history := by
  induction session using run_induction generalizing lines history with
  | used session finished => rw [runLines_of_used finished, runLines_of_used finished]
  | unreadable session bytes rest next noText =>
    obtain ⟨fewer, rfl, -⟩ := exists_eq_succ_of_takeRaw? next enough
    rw [runLines_of_unreadable next noText, runLines_of_unreadable next noText]
  | blank session bytes rest line next text blank ih =>
    obtain ⟨fewer, rfl, left⟩ := exists_eq_succ_of_takeRaw? next enough
    rw [runLines_of_blank next text blank, runLines_of_blank next text blank]
    exact ih (session.leaving rest) (Nat.le_refl _) left
  | command session bytes rest line next text command ih =>
    obtain ⟨fewer, rfl, left⟩ := exists_eq_succ_of_takeRaw? next enough
    rw [runLines_of_command next text command, runLines_of_command next text command]
    cases executed : (session.leaving rest).executeLine surroundings line with
    | none => rfl
    | some after =>
      have fits := length_le_of_executeLine quiet executed
      exact ih after fits (Nat.le_trans fits left)

theorem runLines_eq_run? (enough : session.streams.pending.length ≤ lines) :
    session.runLines surroundings lines history = session.run? surroundings history := by
  obtain ⟨more, rfl⟩ := Nat.exists_eq_add_of_le enough
  induction more with
  | zero => rfl
  | succ more ih =>
    rw [← Nat.add_assoc, runLines_succ quiet (Nat.le_add_right ..)]
    exact ih (Nat.le_add_right ..)

omit quiet in
theorem run?_of_used (used : session.streams.pending = []) :
    session.run? surroundings history = some (session, history) :=
  runLines_of_used used

section

variable (next : Line.takeRaw? session.streams.pending = some (bytes, rest))

include next

omit quiet in
theorem run?_of_unreadable (noText : Text.decode? bytes = none) :
    session.run? surroundings history =
      some ((session.leaving rest).report surroundings [.unreadableLine notText], history) := by
  obtain ⟨fewer, size, -⟩ := exists_eq_succ_of_takeRaw? next (Nat.le_refl _)
  rw [run?, size, runLines_of_unreadable next noText]

theorem run?_of_blank (text : Text.decode? bytes = some line)
    (blank : Text.isBlank line.toList = true) :
    session.run? surroundings history = (session.leaving rest).run? surroundings history := by
  obtain ⟨fewer, size, left⟩ := exists_eq_succ_of_takeRaw? next (Nat.le_refl _)
  rw [run?, size, runLines_of_blank next text blank]
  exact runLines_eq_run? quiet left

theorem run?_of_command (text : Text.decode? bytes = some line)
    (command : ¬Text.isBlank line.toList = true) : session.run? surroundings history =
      ((session.leaving rest).executeLine surroundings line).bind fun after =>
        after.run? surroundings (line :: history) := by
  obtain ⟨fewer, size, left⟩ := exists_eq_succ_of_takeRaw? next (Nat.le_refl _)
  rw [run?, size, runLines_of_command next text command]
  cases executed : (session.leaving rest).executeLine surroundings line with
  | none => rfl
  | some after =>
    exact runLines_eq_run? quiet
      (Nat.le_trans (length_le_of_executeLine quiet executed) left)

end

/-- A line does the same after anything that the session has done before. -/
theorem executeLine_leaving (session : Session) (rest : List UInt8) (line : String) :
    (session.leaving rest).executeLine surroundings line =
      ((start rest).executeLine surroundings line).map session.followedBy := by
  rw [executeLine_eq_perform quiet, executeLine_eq_perform quiet, perform_followedBy]
  rfl

/-- What a session does with its input is what a new session does with it, after all that the
session has done before. -/
theorem run?_eq_followedBy (session : Session) (history : List String) :
    session.run? surroundings history =
      ((start session.streams.pending).run? surroundings []).map fun (final, entered) =>
        (session.followedBy final, entered ++ history) := by
  induction session using run_induction generalizing history with
  | used session finished =>
    rw [run?_of_used finished, run?_of_used (show (start _).streams.pending = [] from finished)]
    simp
  | unreadable session bytes rest next noText =>
    have next' : Line.takeRaw? (start session.streams.pending).streams.pending =
      some (bytes, rest) := next
    rw [run?_of_unreadable next noText, run?_of_unreadable next' noText, Option.map_some]
    dsimp only
    rw [← report_followedBy, followedBy_leaving, followedBy_start]
    rfl
  | blank session bytes rest line next text blank ih =>
    have next' : Line.takeRaw? (start session.streams.pending).streams.pending =
      some (bytes, rest) := next
    rw [run?_of_blank quiet next text blank, run?_of_blank quiet next' text blank,
      ih _ (Nat.le_refl _)]
    rfl
  | command session bytes rest line next text command ih =>
    have next' : Line.takeRaw? (start session.streams.pending).streams.pending =
      some (bytes, rest) := next
    rw [run?_of_command quiet next text command, run?_of_command quiet next' text command,
      executeLine_leaving quiet session]
    change _ = (((start rest).executeLine surroundings line).bind _).map _
    cases executed : (start rest).executeLine surroundings line with
    | none => rfl
    | some after =>
      -- Both sessions have the same input left behind the command, so both are new sessions on it.
      have fits := length_le_of_executeLine quiet executed
      simp only [Option.map_some, Option.bind_some]
      rw [ih (session.followedBy after) fits, ih after fits, Option.map_map]
      simp only [Function.comp_def, followedBy_assoc, List.append_assoc, List.singleton_append]
      rfl

end Session

/-- A line that the shell takes and the lines that its program takes. -/
structure Turn where
  line : Line
  read : List Line

/-- The lines of a turn in the order in which they are taken. -/
def Turn.lines (turn : Turn) : List Line :=
  turn.line :: turn.read

/-- How a session proceeds to its end: it takes one line after the other until there is none or it
takes one that is not text, and does what it asks for. -/
inductive Session.Proceeds (surroundings : Surroundings) : Session → List Turn → Session → Prop
  | used {session : Session} (finished : session.streams.pending = []) :
    Proceeds surroundings session [] session
  | unreadable {session : Session} {bytes : Line} {rest : List UInt8}
    (next : Line.takeRaw? session.streams.pending = some (bytes, rest))
    (noText : Text.decode? bytes = none) :
    Proceeds surroundings session [⟨bytes, []⟩]
      ((session.leaving rest).report surroundings [.unreadableLine Session.notText])
  | blank {session final : Session} {bytes : Line} {rest : List UInt8} {line : String}
    {turns : List Turn} (next : Line.takeRaw? session.streams.pending = some (bytes, rest))
    (text : Text.decode? bytes = some line) (blank : Text.isBlank line.toList = true)
    (later : Proceeds surroundings (session.leaving rest) turns final) :
    Proceeds surroundings session (⟨bytes, []⟩ :: turns) final
  | command {session after final : Session} {bytes : Line} {rest : List UInt8} {line : String}
    {turns : List Turn} (next : Line.takeRaw? session.streams.pending = some (bytes, rest))
    (text : Text.decode? bytes = some line) (command : ¬Text.isBlank line.toList = true)
    (executed : (session.leaving rest).executeLine surroundings line = some after)
    (later : Proceeds surroundings after turns final) :
    Proceeds surroundings session
      (⟨bytes, (Task.ofLine surroundings.files line).linesTaken surroundings.patience rest⟩ :: turns)
      final

namespace Session

section

variable {surroundings : Surroundings} {session final : Session} {turns : List Turn}

/-- A session proceeds until its input is used up or the shell has taken a line that is no text. -/
theorem Proceeds.ends (proceeds : Proceeds surroundings session turns final) :
    final.streams.pending = [] ∨
      ∃ turn, turns.getLast? = some turn ∧ Text.decode? turn.line = none := by
  induction proceeds with
  | used finished => exact .inl finished
  | unreadable next noText => exact .inr ⟨_, rfl, noText⟩
  | blank next text blank later ih =>
    refine ih.imp_right ?_
    rintro ⟨turn, last, noText⟩
    exact ⟨turn, by rw [List.getLast?_cons, last]; rfl, noText⟩
  | command next text command executed later ih =>
    refine ih.imp_right ?_
    rintro ⟨turn, last, noText⟩
    exact ⟨turn, by rw [List.getLast?_cons, last]; rfl, noText⟩

variable (quiet : surroundings.filter = Log.Filter.ofSetting none)

include quiet

theorem exists_proceeds {history entered : List String}
    (runs : session.run? surroundings history = some (final, entered)) :
    ∃ turns, Proceeds surroundings session turns final := by
  induction session using run_induction generalizing history with
  | used session finished =>
    rw [run?_of_used finished] at runs
    cases runs
    exact ⟨[], .used finished⟩
  | unreadable session bytes rest next noText =>
    rw [run?_of_unreadable next noText] at runs
    cases runs
    exact ⟨_, .unreadable next noText⟩
  | blank session bytes rest line next text blank ih =>
    rw [run?_of_blank quiet next text blank] at runs
    obtain ⟨turns, later⟩ := ih (session.leaving rest) (Nat.le_refl _) runs
    exact ⟨_, .blank next text blank later⟩
  | command session bytes rest line next text command ih =>
    rw [run?_of_command quiet next text command] at runs
    obtain ⟨after, executed, runs⟩ := Option.bind_eq_some_iff.mp runs
    obtain ⟨turns, later⟩ := ih after (length_le_of_executeLine quiet executed) runs
    exact ⟨_, .command next text command executed later⟩

/-- The lines of an input are those of the turns and then those that no one has taken. -/
theorem Proceeds.accounts (proceeds : Proceeds surroundings session turns final) :
    Line.splitRaw session.streams.pending =
      turns.flatMap Turn.lines ++ Line.splitRaw final.streams.pending := by
  induction proceeds with
  | used finished => rfl
  | unreadable next noText =>
    rw [Line.splitRaw_of_takeRaw? next, streams_report]
    rfl
  | blank next text blank later ih =>
    rw [Line.splitRaw_of_takeRaw? next, List.flatMap_cons, List.append_assoc, ← ih]
    rfl
  | @command session after final bytes rest line turns next text command executed later ih =>
    rw [executeLine_eq_perform quiet] at executed
    have taken : Line.splitRaw rest =
        (Task.ofLine surroundings.files line).linesTaken surroundings.patience rest ++
          Line.splitRaw after.streams.pending := (accounts_of_perform executed).1
    rw [Line.splitRaw_of_takeRaw? next, List.flatMap_cons, List.append_assoc, ← ih, taken,
      Turn.lines, List.cons_append]

end

/-- Sessions go through their input line by line and carry nothing from one line to the next. -/
structure Orderly (surroundings : Surroundings) : Prop where
  /-- Each line is taken once and in order, by the shell or by the program that then runs, until there
  is none left or the shell takes one that is not text. -/
  takes : ∀ input history final entered,
    (start input).run? surroundings history = some (final, entered) →
      ∃ turns, Proceeds surroundings (start input) turns final ∧
        Line.splitRaw input = turns.flatMap Turn.lines ++ Line.splitRaw final.streams.pending ∧
        (final.streams.pending = [] ∨
          ∃ turn, turns.getLast? = some turn ∧ Text.decode? turn.line = none)
  /-- Wherever a session stands, whatever it has written and whatever has failed, it goes on as a new
  session does that has the rest of the input before it. -/
  fresh : ∀ (session : Session) history, session.run? surroundings history =
    ((start session.streams.pending).run? surroundings []).map fun (final, entered) =>
      (session.followedBy final, entered ++ history)
  used : ∀ (session : Session) history, session.streams.pending = [] →
    session.run? surroundings history = some (session, history)
  unreadable : ∀ (session : Session) history bytes rest,
    Line.takeRaw? session.streams.pending = some (bytes, rest) → Text.decode? bytes = none →
      session.run? surroundings history =
        some ((session.leaving rest).report surroundings [.unreadableLine notText], history)
  blank : ∀ (session : Session) history bytes rest line,
    Line.takeRaw? session.streams.pending = some (bytes, rest) → Text.decode? bytes = some line →
      Text.isBlank line.toList = true →
        session.run? surroundings history = (session.leaving rest).run? surroundings history
  /-- However the line goes that is taken as a command, the session goes on behind it. -/
  command : ∀ (session : Session) history bytes rest line,
    Line.takeRaw? session.streams.pending = some (bytes, rest) → Text.decode? bytes = some line →
      ¬Text.isBlank line.toList = true → session.run? surroundings history =
        ((session.leaving rest).executeLine surroundings line).bind fun after =>
          after.run? surroundings (line :: history)
  /-- A line that is no command, or whose source or file is at fault, adds its error to the
  diagnostics and nothing to the output. -/
  refuses : ∀ (session : Session) line error, Task.ofLine surroundings.files line = .refuse error →
    session.executeLine surroundings line =
      some ⟨session.streams, session.diagnostics ++ (error.message ++ "\n")⟩
  displays : ∀ (session : Session) line text, Task.ofLine surroundings.files line = .display text →
    session.executeLine surroundings line = some (session.print text)
  /-- A program that fails adds its error to the diagnostics and leaves the output as it is then. -/
  fails : ∀ (session : Session) line program machine fault,
    Task.ofLine surroundings.files line = .run program →
      program.run? surroundings.patience (Machine.fresh session.streams) =
        some ⟨machine, some fault⟩ →
          session.executeLine surroundings line = some ⟨machine.console, session.diagnostics ++
            ((CommandError.program (.execution fault)).message ++ "\n")⟩
  succeeds : ∀ (session : Session) line program machine,
    Task.ofLine surroundings.files line = .run program →
      program.run? surroundings.patience (Machine.fresh session.streams) = some ⟨machine, none⟩ →
        session.executeLine surroundings line =
          some (print "\n" ⟨machine.console, session.diagnostics⟩)

/-- Sessions at the default level are orderly, whatever there is on the input and in the files. -/
theorem runs_orderly (files : FileReader) (patience : Nat) :
    Orderly ⟨files, .ofSetting none, patience⟩ where
  takes := by
    intro input history final entered runs
    obtain ⟨turns, proceeds⟩ := exists_proceeds rfl runs
    exact ⟨turns, proceeds, proceeds.accounts rfl, proceeds.ends⟩
  fresh := run?_eq_followedBy rfl
  used _ _ finished := run?_of_used finished
  unreadable _ _ _ _ next noText := run?_of_unreadable next noText
  blank _ _ _ _ _ next text blank := run?_of_blank rfl next text blank
  command _ _ _ _ _ next text command := run?_of_command rfl next text command
  refuses := by
    intro session line error refused
    rw [executeLine_eq_perform rfl, refused]
    rfl
  displays := by
    intro session line text displayed
    rw [executeLine_eq_perform rfl, displayed]
    rfl
  fails := by
    intro session line program machine fault asked ends
    rw [executeLine_eq_perform rfl, asked, perform, ends]
    rfl
  succeeds := by
    intro session line program machine asked ends
    rw [executeLine_eq_perform rfl, asked, perform, ends]
    rfl

end Session

end TapeMachine.Shell
