import TapeMachine.Command
import TapeMachine.Console.Streams
import TapeMachine.Files
import TapeMachine.Log.Filter
import TapeMachine.Program.Listing
import TapeMachine.SourceRun
import TapeMachine.Text.Encoding

/-! # Shell sessions

A session reads command lines from the same stream that its programs read, so a line goes to
whichever asks for it first. A command that fails is reported among the diagnostics and the session
goes on. Each program starts on a blank tape: streams, diagnostics and the history of lines are all
that a session carries from one command to the next.

A session ends with its input, or at a line that is not text.
-/

namespace TapeMachine.Shell

/-- What a session depends on and does not change. -/
structure Surroundings where
  files : FileReader
  filter : Log.Filter
  /-- How many steps each program may take. -/
  patience : Nat

/-- Why a command failed. -/
inductive CommandError where
  | parse (failure : ReadFailure)
  | program (error : SourceError)
  | unreadable (path : String) (error : FileError)
  deriving DecidableEq

namespace CommandError

/-- The text that reports the error. -/
def message : CommandError → String
  | .parse failure => "Parse error: " ++ failure.message
  | .program error => error.message
  | .unreadable path error => "Failed to read " ++ path ++ ": " ++ error.message

end CommandError

/-- The streams of a session and what it has written to its diagnostics so far. -/
structure Session where
  streams : Streams
  diagnostics : String
  deriving DecidableEq

/-- A session after a command, and the error if the command failed. -/
structure Attempt where
  session : Session
  error : Option CommandError

namespace Session

/-- A session that has all of `input` before it. -/
def start (input : List UInt8) : Session := ⟨.ofInput input, ""⟩

/-- Writes text to the output. -/
def print (text : String) (session : Session) : Session :=
  { session with streams := session.streams.writeAll (Text.encode text) }

/-- Writes text to the diagnostics. -/
def complain (text : String) (session : Session) : Session :=
  { session with diagnostics := session.diagnostics ++ text }

/-- Logs the events that the filter shows. -/
def report (surroundings : Surroundings) (events : List Log.Event) (session : Session) : Session :=
  session.complain (String.join ((events.filter surroundings.filter.shows).map Log.Event.line))

/-- Runs a source on a blank tape and on the streams of the session. -/
def runSource (surroundings : Surroundings) (source : Source) (session : Session) :
    Option Attempt :=
  match session with
  | ⟨streams, diagnostics⟩ =>
    (SourceRun.run? surroundings.patience source (Machine.fresh streams)).map fun run =>
      let error := run.error?.map .program
      let events := run.events source
      let session : Session := ⟨run.machine.console, diagnostics⟩
      ⟨session.report surroundings events, error⟩

/-- Runs the program in a file. -/
def runFile (surroundings : Surroundings) (path : String) (session : Session) : Option Attempt :=
  match surroundings.files path with
  | .error error => some ⟨session, some (.unreadable path error)⟩
  | .ok source =>
    (session.report surroundings [.runningProgram path source.length]).runSource surroundings source

/-- Prints the listing of a source; an empty program has a line of its own. -/
def showOperations (surroundings : Surroundings) (source : Source) (session : Session) : Attempt :=
  let result := compile source
  let session := session.report surroundings (compileEvents source result)
  match result with
  | .error error => ⟨session, some (.program (.compile error))⟩
  | .ok program =>
    ⟨session.print (if program.isEmpty then "(no operations)\n" else program.listing), none⟩

/-- Prints the symbols of a source on one line. -/
def showSymbols (source : Source) (session : Session) : Session :=
  session.print (String.ofList (source.symbols.map Symbol.toChar) ++ "\n")

/-- Ends the output line after a program that ran to its end. -/
def endLine (attempt : Attempt) : Attempt :=
  match attempt with
  | ⟨session, none⟩ => ⟨session.print "\n", none⟩
  | failed => failed

/-- Executes a command. -/
def execute (surroundings : Surroundings) (command : Command) (session : Session) :
    Option Attempt :=
  let session := session.report surroundings [.executing command.describe]
  match command with
  | .run source => (session.runSource surroundings (Text.encode source)).map endLine
  | .showOperations source => some (session.showOperations surroundings (Text.encode source))
  | .showSymbols source => some ⟨session.showSymbols (Text.encode source), none⟩
  | .load path => (session.runFile surroundings path).map endLine
  | .help => some ⟨session.print (Command.helpText ++ "\n"), none⟩

/-- Executes a line and puts its error, if it fails, on a line of the diagnostics. -/
def executeLine (surroundings : Surroundings) (line : String) (session : Session) :
    Option Session :=
  match Command.ofLine line with
  | .error failure => some (session.complain ((CommandError.parse failure).message ++ "\n"))
  | .ok command =>
    (session.execute surroundings command).map fun
      | ⟨session, none⟩ => session
      | ⟨session, some error⟩ => session.complain (error.message ++ "\n")

/-- What decoding says of bytes that are no text. -/
def notText : String := "stream did not contain valid UTF-8"

/-- Reads and executes up to `lines` lines. The history, latest line first, takes every line that is
not blank. -/
def runLines (surroundings : Surroundings) : Nat → Session → List String →
    Option (Session × List String)
  | 0, session, history => some (session, history)
  | lines + 1, ⟨⟨pending, written⟩, diagnostics⟩, history =>
    match Line.takeRaw? pending with
    | none => some (⟨⟨pending, written⟩, diagnostics⟩, history)
    | some (bytes, rest) =>
      let session : Session := ⟨⟨rest, written⟩, diagnostics⟩
      match Text.decode? bytes with
      | none => some (session.report surroundings [.unreadableLine notText], history)
      | some line =>
        if Text.isBlank line.toList then runLines surroundings lines session history
        else
          (session.executeLine surroundings line).bind fun session =>
            runLines surroundings lines session (line :: history)

/-- Reads and executes all lines. No line is shorter than a byte, so there are no more of them than
bytes of input. -/
def run? (surroundings : Surroundings) (session : Session) (history : List String) :
    Option (Session × List String) :=
  session.runLines surroundings session.streams.pending.length history

end Session

end TapeMachine.Shell
