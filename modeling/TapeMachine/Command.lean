import TapeMachine.Reader.Failure

/-! # Shell commands

A line of the shell is a command: a word that begins with a colon and its argument, or program text
to be run. A word and its argument need no blank between them, and any blanks there are dropped. The
text of a line that does not begin with a colon is taken as it is.

`:load` wants an argument that is not blank; without one the line is no command at all.
-/

namespace TapeMachine

/-- What a line of the shell asks for. -/
inductive Command where
  | run (source : String)
  | showOperations (source : String)
  | showSymbols (source : String)
  | load (path : String)
  | help
  deriving DecidableEq

namespace Command

/-- The command with its argument between quotes, as diagnostics show it. -/
def describe : Command → String
  | .run source => "Run(" ++ Text.quoted source ++ ")"
  | .showOperations source => "ShowOperations(" ++ Text.quoted source ++ ")"
  | .showSymbols source => "ShowSymbols(" ++ Text.quoted source ++ ")"
  | .load path => "Load(" ++ Text.quoted path ++ ")"
  | .help => "Help"

/-- What `:help` prints, apart from the line feed at its end. -/
def helpText : String :=
  ":run <source>   compile and run a program (same as entering the source alone)\n" ++
  ":ops <source>   show compiled operations\n" ++
  ":lex <source>   show recognized instruction symbols\n" ++
  ":load <path>    run a program from a file\n" ++
  ":help           show this message"

/-- The rest of a line without the separators in front of it. -/
def argument : Reader String :=
  Reader.dropThen Reader.separators (Reader.map String.ofList Reader.everything)

/-- An argument that is not blank. -/
def pathArgument : Reader String :=
  Reader.satisfying (fun path => !Text.isBlank path.toList) argument

/-- Program text: anything that does not look like a mistyped command. -/
def bareSource : Reader String :=
  Reader.satisfying (fun source => source.toList.head? != some ':')
    (Reader.map String.ofList Reader.everything)

/-- A command word and its argument. -/
def word (characters : String) (arguments : Reader Command) : Reader Command :=
  Reader.dropThen (Reader.literal characters.toList) arguments

/-- The command words in the order in which they are tried, and program text last. -/
def reader : Reader Command :=
  Reader.alternatives [
    word ":run" (argument.map .run),
    word ":ops" (argument.map .showOperations),
    word ":lex" (argument.map .showSymbols),
    word ":load" (pathArgument.map .load),
    word ":help" (Reader.separators.map fun _ => .help),
    bareSource.map .run]

/-- Reads a whole line as a command. -/
def parse (line : String) : Except ReadFailure Command :=
  reader.readAll "command" describe line.toList

/-- Reads a line as the shell does, without the white space at its ends. -/
def ofLine (line : String) : Except ReadFailure Command :=
  parse (String.ofList (Text.trim line.toList))

end Command

end TapeMachine
