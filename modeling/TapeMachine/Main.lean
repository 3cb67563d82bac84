import TapeMachine.Shell.Invocation

/-! # The command line program

Everything the program does is decided by `Invocation.run?`; here its arguments, its environment,
its input and the files it may read are gathered, and its outcome is carried out. The input is read
to its end first, and only if it can matter.
-/

namespace TapeMachine.Shell

/-- The cause of a failed system call. -/
def fileError : IO.Error → FileError
  | .noFileOrDirectory _ code reason => .ofCode code reason
  | .inappropriateType _ code reason => .ofCode code reason
  | .invalidArgument _ code reason => .ofCode code reason
  | .permissionDenied _ code reason => .ofCode code reason
  | .resourceExhausted _ code reason => .ofCode code reason
  | .otherError code reason => .ofCode code reason
  | error => .other error.toString

/-- Reads a file. A path that no file can have is refused before the system sees it. -/
def readFile (path : String) : IO (Except FileError (List UInt8)) := do
  if path.toList.contains '\x00' then return .error .nameHasZero
  try
    return .ok (← IO.FS.readBinFile path).data.toList
  catch error => return .error (fileError error)

/-- Writes a file, under the same condition. -/
def writeFile (path : String) (content : List UInt8) : IO (Except FileError Unit) := do
  if path.toList.contains '\x00' then return .error .nameHasZero
  try
    IO.FS.writeBinFile path ⟨content.toArray⟩
    return .ok ()
  catch error => return .error (fileError error)

/-- Reads all paths that are not in the table yet. -/
def readPaths (paths : List String) (table : List (String × Except FileError (List UInt8))) :
    IO (List (String × Except FileError (List UInt8))) :=
  paths.foldlM (fun table path => do
    if (table.lookup path).isSome then return table
    return (path, ← readFile path) :: table) table

/-- The files as they were when the table was made. -/
def fileReader (table : List (String × Except FileError (List UInt8))) : FileReader := fun path =>
  (table.lookup path).getD (.error .notFound)

/-- Reads a stream to its end. -/
partial def readStream (stream : IO.FS.Stream) (found : ByteArray) : IO ByteArray := do
  let bytes ← stream.read 65536
  if bytes.isEmpty then return found
  readStream stream (found ++ bytes)

/-- Writes the file that an outcome leaves unsaved. -/
def save (outcome : Outcome) : IO Outcome := do
  match outcome.unsaved with
  | none => return outcome
  | some (path, content) => return outcome.settle (← writeFile path content)

end TapeMachine.Shell

open TapeMachine TapeMachine.Shell in
def main (arguments : List String) : IO UInt32 := do
  let bare : Invocation :=
    ⟨arguments, [], ← IO.getEnv "BFVM_HISTORY", ← IO.getEnv "RUST_LOG"⟩
  let table ← readPaths bare.paths []
  let input ←
    if bare.usesInput (fileReader table) then readStream (← IO.getStdin) .empty else pure .empty
  let invocation := { bare with input := input.data.toList }
  let table ← readPaths invocation.paths table
  match invocation.run? Program.longPatience (fileReader table) with
  | none => return 1
  | some outcome =>
    let outcome ← save outcome
    let output ← IO.getStdout
    output.write ⟨outcome.output.toArray⟩
    output.flush
    IO.eprint outcome.diagnostics
    return outcome.exitCode.toUInt32
