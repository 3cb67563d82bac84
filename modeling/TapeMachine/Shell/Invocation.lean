import TapeMachine.Shell.Arguments
import TapeMachine.Shell.Session

/-! # Invocations

An invocation of the program is its arguments, its environment and its input; the files it finds are
given apart. Its outcome is what it writes and how it exits. The shell keeps a history of its lines
in a file; writing that file is left to the caller, who says how it went with `Outcome.settle`.
-/

namespace TapeMachine.Shell

/-- What the program is started with. -/
structure Invocation where
  arguments : List String
  input : List UInt8
  /-- The path of the history that the environment names. -/
  historySetting : Option String
  /-- The log filter that the environment names. -/
  logSetting : Option String
  deriving DecidableEq

/-- What becomes of an invocation. -/
structure Outcome where
  exitCode : UInt8
  output : List UInt8
  diagnostics : String
  /-- A file that is still to be written, by its path and its content. -/
  unsaved : Option (String × List UInt8)
  deriving DecidableEq

namespace Outcome

/-- The successful outcome of a session. -/
def ofSession (session : Session) : Outcome :=
  ⟨0, session.streams.written.toList, session.diagnostics, none⟩

/-- Exits with a failure after reporting it. -/
def fail (reason : String) (outcome : Outcome) : Outcome :=
  { outcome with
    exitCode := 1
    diagnostics := outcome.diagnostics ++ "Failure: " ++ reason ++ "\n" }

/-- The outcome once the unsaved file has been written, or could not be. -/
def settle (saved : Except FileError Unit) (outcome : Outcome) : Outcome :=
  match saved with
  | .ok () => { outcome with unsaved := none }
  | .error error => ({ outcome with unsaved := none }).fail error.message

end Outcome

/-- The lines of a history file. -/
def historyOfText (text : String) : List String :=
  ((text.splitOn "\n").filter (!·.isEmpty)).reverse

/-- A history file with these lines, the latest of which comes first here and last in the file. -/
def historyText (history : List String) : String :=
  String.join (history.reverse.map fun line => String.ofList (Text.trimEnd line.toList) ++ "\n")

/-- The history to start with. One that cannot be read or is not text counts as empty. -/
def loadHistory (surroundings : Surroundings) (path : String) (session : Session) :
    Session × List String :=
  let without (error : String) : Session × List String :=
    (session.report surroundings [.withoutHistory path error], [])
  match surroundings.files path with
  | .error error => without error.message
  | .ok content =>
    match Text.decode? content with
    | some text => (session, historyOfText text)
    | none => without Session.notText

namespace Outcome

/-- Runs a program file; a failure of any kind is that of the invocation. -/
def ofRun? (surroundings : Surroundings) (path : String) (session : Session) : Option Outcome :=
  (session.runFile surroundings path).map fun
    | ⟨session, none⟩ => .ofSession session
    | ⟨session, some error⟩ => (Outcome.ofSession session).fail error.message

/-- Shows what a program file holds. -/
def ofDisplay (surroundings : Surroundings) (display : Display) (path : String)
    (session : Session) : Outcome :=
  match surroundings.files path, display with
  | .error error, _ => (Outcome.ofSession session).fail error.message
  | .ok source, .operations =>
    match session.showOperations surroundings source with
    | ⟨session, none⟩ => .ofSession session
    | ⟨session, some error⟩ => (Outcome.ofSession session).fail error.message
  | .ok source, .symbols => .ofSession (session.showSymbols source)

/-- Runs the shell; a history with any line in it is to be saved at the end. -/
def ofShell? (surroundings : Surroundings) (path : String) (session : Session) : Option Outcome :=
  let (session, history) := loadHistory surroundings path session
  (session.run? surroundings history).map fun (session, history) =>
    let outcome := Outcome.ofSession session
    if history.isEmpty then outcome
    else { outcome with unsaved := some (path, Text.encode (historyText history)) }

end Outcome

/-- Performs a job in a session that has just begun. -/
def Job.run? (surroundings : Surroundings) (session : Session) : Job → Option Outcome
  | .runFile path => Outcome.ofRun? surroundings path session
  | .showFile display path => some (.ofDisplay surroundings display path session)
  | .shell path => Outcome.ofShell? surroundings path session

/-- What `--version` prints. -/
def versionText : String := "bfvm 0.1.0\n"

/-- How the program is called. -/
def usageText : String := "Usage: bfvm [OPTIONS] [FILE]\n"

/-- What `--help` prints. -/
def helpText : String :=
  "Compiles and runs tape machine programs\n\n" ++ usageText ++
  "\nArguments:\n" ++
  "  [FILE]  Program to run. Starts the interactive shell when omitted\n" ++
  "\nOptions:\n" ++
  "      --ops             Print the compiled operations instead of running the program\n" ++
  "      --symbols         Print the recognized instruction symbols instead of running it\n" ++
  "      --history <PATH>  History file of the interactive shell [env: BFVM_HISTORY=]\n" ++
  "  -h, --help            Print help\n" ++
  "  -V, --version         Print version\n"

namespace Invocation

/-- What the command line asks for. -/
def request (invocation : Invocation) : Request :=
  .ofArguments invocation.arguments invocation.historySetting

/-- Whether the input can matter: for the shell, and for a program file that asks for input. -/
def usesInput (files : FileReader) (invocation : Invocation) : Bool :=
  match invocation.request with
  | .job (.shell _) => true
  | .job (.runFile path) =>
    match files path with
    | .ok source => (Source.symbols source).contains (.act .input)
    | .error _ => false
  | _ => false

/-- The path that a line of the shell would load, if it were read by the shell. -/
def loadPath? (bytes : Line) : Option String := do
  let line ← Text.decode? bytes
  match Command.ofLine line with
  | .ok (.load path) => some path
  | _ => none

/-- The paths that may be read: that of the program, or those of the history and of all that the
input may ask the shell to load. -/
def paths (invocation : Invocation) : List String :=
  match invocation.request with
  | .job (.runFile path) => [path]
  | .job (.showFile _ path) => [path]
  | .job (.shell history) => history :: (Line.splitRaw invocation.input).filterMap loadPath?
  | _ => []

/-- What becomes of an invocation, if each of its programs ends within `patience` steps. -/
def run? (patience : Nat) (files : FileReader) (invocation : Invocation) : Option Outcome :=
  let session := Session.start invocation.input
  match invocation.request with
  | .job job => job.run? ⟨files, .ofSetting invocation.logSetting, patience⟩ session
  | .version => some (.ofSession (session.print versionText))
  | .help => some (.ofSession (session.print helpText))
  | .misuse => some ⟨2, [], usageText, none⟩

/-- What becomes of an invocation in a directory, and the directory afterwards. -/
def runIn? (patience : Nat) (directory : Directory) (invocation : Invocation) :
    Option (Outcome × Directory) :=
  (invocation.run? patience directory.read).map fun outcome =>
    match outcome.unsaved with
    | none => (outcome, directory)
    | some (path, content) =>
      match directory.write path content with
      | .ok directory => (outcome.settle (.ok ()), directory)
      | .error error => (outcome.settle (.error error), directory)

end Invocation

end TapeMachine.Shell
