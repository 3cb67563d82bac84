import TapeMachine.Proofs.LineTaking
import TapeMachine.Shell.Session

/-! # What a command line asks for

At the default level nothing that a command reports is shown. What a line does then comes down to
one of three things: it is refused with an error, it displays a text, or it runs a program, and all
of them go on from what the session has written before.
-/

namespace TapeMachine.Shell

/-- What there is to do for a line. -/
inductive Task where
  | refuse (error : CommandError)
  | display (text : String)
  | run (program : Program)

namespace Task

/-- Runs a source, if it compiles. -/
def ofSource (source : Source) : Task :=
  match compile source with
  | .error error => .refuse (.program (.compile error))
  | .ok program => .run program

/-- What there is to do for a command. -/
def ofCommand (files : FileReader) : Command → Task
  | .run source => .ofSource (Text.encode source)
  | .showOperations source =>
    match compile (Text.encode source) with
    | .error error => .refuse (.program (.compile error))
    | .ok program => .display (if program.isEmpty then "(no operations)\n" else program.listing)
  | .showSymbols source =>
    .display (String.ofList ((Source.symbols (Text.encode source)).map Symbol.toChar) ++ "\n")
  | .load path =>
    match files path with
    | .error error => .refuse (.unreadable path error)
    | .ok source => .ofSource source
  | .help => .display (Command.helpText ++ "\n")

/-- What there is to do for a line, which may be no command at all. -/
def ofLine (files : FileReader) (line : String) : Task :=
  match Command.ofLine line with
  | .error failure => .refuse (.parse failure)
  | .ok command => .ofCommand files command

/-- The lines that the program of a task takes from an input. -/
def linesTaken (patience : Nat) (task : Task) (input : List UInt8) : List Line :=
  match task with
  | .refuse _ | .display _ => []
  | .run program => program.linesTaken patience input

end Task

/-- The session behind an attempt, with its error if it failed. -/
def Attempt.settle : Attempt → Session
  | ⟨session, none⟩ => session
  | ⟨session, some error⟩ => session.complain (error.message ++ "\n")

/-- Of too little weight to be shown by default. -/
def IsMinor (event : Log.Event) : Prop :=
  Log.Level.warn.verbosity < event.level.verbosity

theorem isMinor_of_debug {event : Log.Event} (level : event.level = .debug) : IsMinor event := by
  rw [IsMinor, level]
  decide

theorem isMinor_of_info {event : Log.Event} (level : event.level = .info) : IsMinor event := by
  rw [IsMinor, level]
  decide

/-- Nothing that is reported of a source is of any weight. -/
theorem isMinor_of_mem_compileEvents {source : Source} {result : Except CompileError Program}
    {event : Log.Event} (reported : event ∈ compileEvents source result) : IsMinor event := by
  cases result with
  | error error => cases reported
  | ok program =>
    obtain rfl := List.mem_singleton.mp reported
    exact isMinor_of_debug rfl

theorem isMinor_of_mem_events {source : Source} {run : SourceRun Streams} {event : Log.Event}
    (reported : event ∈ run.events source) : IsMinor event := by
  cases run with
  | rejected error machine => cases reported
  | ended program ending =>
    obtain compiled | halted := List.mem_append.mp reported
    · exact isMinor_of_mem_compileEvents compiled
    · obtain ⟨machine, fault⟩ := ending
      cases fault with
      | none =>
        obtain rfl := List.mem_singleton.mp halted
        exact isMinor_of_debug rfl
      | some error => cases halted

namespace Session

/-- The session behind a program: a line feed if it has succeeded, else its fault. -/
def settle (diagnostics : String) : Ending Streams → Session
  | ⟨machine, none⟩ => print "\n" ⟨machine.console, diagnostics⟩
  | ⟨machine, some fault⟩ =>
    complain ((CommandError.program (.execution fault)).message ++ "\n")
      ⟨machine.console, diagnostics⟩

/-- Does what there is to do for a line. -/
def perform (patience : Nat) (task : Task) (session : Session) : Option Session :=
  match task with
  | .refuse error => some (session.complain (error.message ++ "\n"))
  | .display text => some (session.print text)
  | .run program =>
    (program.run? patience (Machine.fresh session.streams)).map (settle session.diagnostics)

/-- The session with something else left of its input. -/
def leaving (rest : List UInt8) (session : Session) : Session :=
  ⟨⟨rest, session.streams.written⟩, session.diagnostics⟩

/-- What a session has written, and then what another writes that goes on where it stands. -/
def followedBy (session later : Session) : Session :=
  ⟨⟨later.streams.pending, session.streams.written ++ later.streams.written⟩,
    session.diagnostics ++ later.diagnostics⟩

section

variable (session : Session)

@[simp] theorem followedBy_start (rest : List UInt8) :
    session.followedBy (start rest) = session.leaving rest := by
  simp [followedBy, start, leaving, Streams.ofInput]

@[simp] theorem leaving_pending : session.leaving session.streams.pending = session := rfl

theorem followedBy_leaving (later : Session) (rest : List UInt8) :
    session.followedBy (later.leaving rest) = (session.followedBy later).leaving rest := rfl

theorem followedBy_assoc (later last : Session) :
    (session.followedBy later).followedBy last = session.followedBy (later.followedBy last) := by
  simp only [followedBy, Array.append_assoc, String.append_assoc]

theorem print_followedBy (later : Session) (text : String) :
    (session.followedBy later).print text = session.followedBy (later.print text) := by
  have written : (session.streams.written ++ later.streams.written).appendList (Text.encode text) =
      session.streams.written ++ later.streams.written.appendList (Text.encode text) := by
    apply Array.toList_inj.mp
    simp
  simp only [followedBy, print, Streams.writeAll, written]

theorem complain_followedBy (later : Session) (text : String) :
    (session.followedBy later).complain text = session.followedBy (later.complain text) := by
  simp only [followedBy, complain, String.append_assoc]

end

@[simp] theorem streams_report (surroundings : Surroundings) (events : List Log.Event)
    (session : Session) : (session.report surroundings events).streams = session.streams := rfl

theorem report_followedBy (surroundings : Surroundings) (events : List Log.Event)
    (session later : Session) : (session.followedBy later).report surroundings events =
      session.followedBy (later.report surroundings events) :=
  session.complain_followedBy later _

/-- A program settles the same after something else. -/
theorem settle_followedBy {session : Session} {ending ending' : Ending Streams}
    (fault : ending'.fault = ending.fault)
    (behind : ending.machine.console.Behind session.streams.written ending'.machine.console) :
    settle session.diagnostics ending' = session.followedBy (settle "" ending) := by
  have same : (⟨ending'.machine.console, session.diagnostics⟩ : Session) =
      session.followedBy ⟨ending.machine.console, ""⟩ := by
    rw [behind]
    simp only [followedBy, String.append_empty]
  obtain ⟨machine, _⟩ := ending
  obtain ⟨machine', cause⟩ := ending'
  obtain rfl := fault
  cases cause with
  | none =>
    simp only [settle, same]
    exact session.print_followedBy _ "\n"
  | some error =>
    simp only [settle, same]
    exact session.complain_followedBy _ _

/-- A task does the same after something else. -/
theorem perform_followedBy (patience : Nat) (task : Task) (session : Session) :
    session.perform patience task =
      ((start session.streams.pending).perform patience task).map session.followedBy := by
  cases task with
  | refuse error =>
    simp only [perform, Option.map_some, ← complain_followedBy, followedBy_start,
      leaving_pending]
  | display text =>
    simp only [perform, Option.map_some, ← print_followedBy, followedBy_start, leaving_pending]
  | run program =>
    simp only [perform]
    obtain ⟨never, never'⟩ | ⟨ending, ending', ends, ends', fault, behind⟩ :=
      program.run?_behind patience session.streams
    · rw [start, never, never']
      rfl
    · rw [start, ends, ends']
      exact congrArg some (settle_followedBy fault behind)

/-- What is left of the input are the lines behind those that the program has taken. -/
theorem accounts_of_perform {patience : Nat} {task : Task} {session after : Session}
    (performs : session.perform patience task = some after) :
    Line.splitRaw session.streams.pending = task.linesTaken patience session.streams.pending ++
        Line.splitRaw after.streams.pending ∧
      after.streams.pending.length ≤ session.streams.pending.length := by
  cases task with
  | refuse error =>
    cases performs
    exact ⟨rfl, Nat.le_refl _⟩
  | display text =>
    cases performs
    exact ⟨rfl, Nat.le_refl _⟩
  | run program =>
    obtain ⟨ending, ends, rfl⟩ := Option.map_eq_some_iff.mp performs
    have same : (settle session.diagnostics ending).streams.pending =
        ending.machine.console.pending := by
      obtain ⟨machine, fault⟩ := ending
      cases fault <;> rfl
    rw [same]
    exact Program.accounts_of_run? ends

section

variable {surroundings : Surroundings}
  (quiet : surroundings.filter = Log.Filter.ofSetting none)

include quiet

theorem shows_eq (event : Log.Event) :
    surroundings.filter.shows event = decide (event.level.verbosity ≤ Log.Level.warn.verbosity) := by
  rw [quiet]
  simp [Log.Filter.ofSetting, Log.Filter.warnings, Log.Filter.shows, Log.Filter.deciding?,
    Log.Directive.speaksOf]

/-- Events of no weight leave no trace. -/
theorem report_eq_self {events : List Log.Event} (minor : ∀ event ∈ events, IsMinor event)
    (session : Session) : session.report surroundings events = session := by
  have none : events.filter surroundings.filter.shows = [] := by
    rw [List.filter_eq_nil_iff]
    intro event listed
    rw [shows_eq quiet, decide_eq_true_iff]
    exact Nat.not_le_of_lt (minor event listed)
  simp [report, none, complain]

theorem runSource_eq_perform (source : Source) (session : Session) :
    ((session.runSource surroundings source).map endLine).map Attempt.settle =
      session.perform surroundings.patience (.ofSource source) := by
  have minor : ∀ run : SourceRun Streams, ∀ event ∈ run.events source, IsMinor event :=
    fun _ _ => isMinor_of_mem_events
  obtain ⟨streams, diagnostics⟩ := session
  simp only [runSource, SourceRun.run?, Task.ofSource]
  cases compiled : compile source with
  | error error =>
    simp only [Option.map_some, report_eq_self quiet (minor _)]
    rfl
  | ok program =>
    simp only [perform, Option.map_map]
    congr 1
    funext ending
    simp only [Function.comp, report_eq_self quiet (minor _)]
    obtain ⟨machine, fault⟩ := ending
    cases fault <;> rfl

theorem execute_eq_perform (command : Command) (session : Session) :
    (session.execute surroundings command).map Attempt.settle =
      session.perform surroundings.patience (.ofCommand surroundings.files command) := by
  have minor : ∀ event ∈ [Log.Event.executing command.describe], IsMinor event :=
    List.forall_mem_singleton.mpr (isMinor_of_debug rfl)
  simp only [execute, report_eq_self quiet minor]
  cases command with
  | run source => exact runSource_eq_perform quiet (Text.encode source) session
  | showOperations source =>
    have minor : ∀ event ∈ compileEvents (Text.encode source) (compile (Text.encode source)),
        IsMinor event := fun _ => isMinor_of_mem_compileEvents
    simp only [showOperations, report_eq_self quiet minor, Task.ofCommand]
    cases compile (Text.encode source) <;> rfl
  | showSymbols source => rfl
  | load path =>
    simp only [runFile, Task.ofCommand]
    cases surroundings.files path with
    | error error => rfl
    | ok source =>
      have minor : ∀ event ∈ [Log.Event.runningProgram path source.length], IsMinor event :=
        List.forall_mem_singleton.mpr (isMinor_of_info rfl)
      simp only [report_eq_self quiet minor]
      exact runSource_eq_perform quiet source session
  | help => rfl

/-- A line is executed as its task says. -/
theorem executeLine_eq_perform (line : String) (session : Session) :
    session.executeLine surroundings line =
      session.perform surroundings.patience (.ofLine surroundings.files line) := by
  unfold executeLine Task.ofLine
  cases Command.ofLine line with
  | error failure => rfl
  | ok command => exact execute_eq_perform quiet command session

end

end Session

end TapeMachine.Shell
