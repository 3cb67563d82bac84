/-! # Command line arguments

Arguments are read from left to right, and the first that is wrong decides. `--version` and `--help`
take effect where they stand. What belongs together is checked at the end: showing operations or
symbols needs a file, and only one of the two can be shown.
-/

namespace TapeMachine.Shell

/-- What a program file is taken for instead of being run. -/
inductive Display where
  | operations
  | symbols
  deriving DecidableEq

/-- What the command line asks for. -/
inductive Job where
  | runFile (path : String)
  | showFile (display : Display) (path : String)
  /-- Start the shell, with its history at that path. -/
  | shell (history : String)
  deriving DecidableEq

/-- What has been read from the command line so far. -/
structure Options where
  file : Option String
  operations : Bool
  symbols : Bool
  history : Option String
  deriving DecidableEq

/-- What becomes of a command line. -/
inductive Request where
  | job (job : Job)
  | version
  | help
  | misuse
  deriving DecidableEq

namespace Options

/-- What is known before the first argument. -/
def initial : Options := ⟨none, false, false, none⟩

/-- Takes an argument as the program file; there is one at most, and its name is not empty. -/
def addFile? (options : Options) (path : String) : Option Options :=
  if options.file.isSome ∨ path.isEmpty then none else some { options with file := some path }

/-- Takes the path of the history; there is one at most, and it is not empty. -/
def addHistory? (options : Options) (path : String) : Option Options :=
  if options.history.isSome ∨ path.isEmpty then none
  else some { options with history := some path }

/-- Takes a wish to show something; each may be uttered once. -/
def addDisplay? (options : Options) : Display → Option Options
  | .operations => if options.operations then none else some { options with operations := true }
  | .symbols => if options.symbols then none else some { options with symbols := true }

/-- The path of the history where the options and the environment name none. -/
def defaultHistory : String := "history.txt"

/-- The job that the options make up. The path of the history is taken from the environment if no
option names it. -/
def request (options : Options) (historyVariable : Option String) : Request :=
  match options.history.or historyVariable with
  | some "" => .misuse
  | history =>
    match options.file, options.operations, options.symbols with
    | some path, false, false => .job (.runFile path)
    | some path, true, false => .job (.showFile .operations path)
    | some path, false, true => .job (.showFile .symbols path)
    | none, false, false => .job (.shell (history.getD defaultHistory))
    | _, _, _ => .misuse

end Options

/-- One argument by its form. -/
inductive Argument where
  /-- `--` -/
  | separator
  /-- `--name` or `--name=value` -/
  | long (name : String) (value : Option String)
  /-- `-letters` -/
  | short (letters : List Char)
  | plain (text : String)
  deriving DecidableEq

namespace Argument

/-- Whether an argument has the form of an option; a single dash has not. -/
def isOption (text : String) : Bool :=
  text.toList.head? == some '-' && text != "-"

/-- The form of an argument. -/
def ofString (text : String) : Argument :=
  match text.toList with
  | ['-'] => .plain text
  | ['-', '-'] => .separator
  | '-' :: '-' :: body =>
    let name := String.ofList (body.takeWhile (· != '='))
    match body.dropWhile (· != '=') with
    | [] => .long name none
    | _ :: value => .long name (some (String.ofList value))
  | '-' :: letters => .short letters
  | _ => .plain text

end Argument

/-- Reads the arguments that stand behind the separator: all of them are files. -/
def readFiles (options : Options) : List String → Option Options
  | [] => some options
  | path :: rest => (options.addFile? path).bind (readFiles · rest)

/-- Goes on with the options there are, if the last argument could be added to them. -/
def Request.andThen (options : Option Options) (continuation : Options → Request) : Request :=
  match options with
  | some options => continuation options
  | none => .misuse

/-- Reads the arguments behind the options found before them. -/
def readArguments (historyVariable : Option String) (options : Options) :
    List String → Request
  | [] => options.request historyVariable
  | text :: rest =>
    match Argument.ofString text with
    | .separator => Request.andThen (readFiles options rest) (·.request historyVariable)
    | .long "ops" none =>
      Request.andThen (options.addDisplay? .operations) (readArguments historyVariable · rest)
    | .long "symbols" none =>
      Request.andThen (options.addDisplay? .symbols) (readArguments historyVariable · rest)
    | .long "history" (some path) =>
      Request.andThen (options.addHistory? path) (readArguments historyVariable · rest)
    | .long "history" none =>
      match rest with
      | path :: rest =>
        if Argument.isOption path then .misuse
        else Request.andThen (options.addHistory? path) (readArguments historyVariable · rest)
      | [] => .misuse
    | .long "version" none => .version
    | .long "help" none => .help
    | .short ('V' :: _) => .version
    | .short ('h' :: _) => .help
    | .plain path =>
      Request.andThen (options.addFile? path) (readArguments historyVariable · rest)
    | _ => .misuse

/-- The request that a command line makes. -/
def Request.ofArguments (arguments : List String) (historyVariable : Option String) : Request :=
  readArguments historyVariable .initial arguments

end TapeMachine.Shell
