/-! # Files as the program sees them

The program reads whole files and writes one, its history. `FileError` lists the ways in which that
fails. `Directory` is a working directory that holds plain files only: a path is walked through it
component by component. Outside of it there are the usual directories at the root, the file
`/dev/null`, which is always empty, and no other file.
-/

namespace TapeMachine

/-- Why a file could not be read or written. -/
inductive FileError where
  | notFound
  | notDirectory
  | isDirectory
  | nameTooLong
  | nameHasZero
  | other (reason : String)
  deriving DecidableEq

namespace FileError

/-- The text that reports the error, with the number that the system has for it. -/
def message : FileError → String
  | .notFound => "No such file or directory (os error 2)"
  | .notDirectory => "Not a directory (os error 20)"
  | .isDirectory => "Is a directory (os error 21)"
  | .nameTooLong => "File name too long (os error 36)"
  | .nameHasZero => "file name contained an unexpected NUL byte"
  | .other reason => reason

/-- The cause behind a system error number, which may be given with either sign. -/
def ofCode (code : UInt32) (reason : String) : FileError :=
  match min code (0 - code) with
  | 2 => .notFound
  | 20 => .notDirectory
  | 21 => .isDirectory
  | 36 => .nameTooLong
  | _ => .other reason

end FileError

/-- The content of every path, or why it cannot be read. -/
abbrev FileReader := String → Except FileError (List UInt8)

/-- A working directory with its files. -/
structure Directory where
  files : List (String × List UInt8)
  deriving DecidableEq

namespace Directory

/-- Where a walk along a path stands. -/
inductive Place where
  /-- In the working directory itself. -/
  | here
  /-- In the root directory. -/
  | root
  /-- In the directory of devices. -/
  | devices
  /-- In some other directory outside of the working directory. -/
  | outside
  /-- At the file that is always empty. -/
  | null
  /-- At a name in the working directory, which a file may bear or not. -/
  | entry (name : String)
  /-- At a name outside the working directory, which nothing bears. -/
  | missing
  deriving DecidableEq

/-- The directories in the root directory, that of devices apart. -/
def rootNames : List String :=
  ["bin", "boot", "etc", "home", "lib", "media", "mnt", "opt", "proc", "root", "run", "sbin", "srv",
    "sys", "tmp", "usr", "var"]

/-- The longest name that a file can have, in bytes. -/
def nameLimit : Nat := 255

/-- The longest path that can be walked, in bytes. -/
def pathLimit : Nat := 4095

/-- The content of the file with that name, if there is one. -/
def content? (directory : Directory) (name : String) : Option (List UInt8) :=
  directory.files.lookup name

/-- Takes a name in a directory that leads to `found` if there is anything by that name. -/
def enterName (component : String) (found : Option Place) : Except FileError Place :=
  if component.utf8ByteSize > nameLimit then .error .nameTooLong else .ok (found.getD .missing)

/-- Takes one component of a path. -/
def enter (directory : Directory) (place : Place) (component : String) : Except FileError Place :=
  match place with
  | .missing => .error .notFound
  | .null => .error .notDirectory
  | .entry name =>
    if (directory.content? name).isSome then .error .notDirectory else .error .notFound
  | .here =>
    if component = "." then .ok .here
    else if component = ".." then .ok .outside
    else enterName component (some (.entry component))
  | .root =>
    if component = "." ∨ component = ".." then .ok .root
    else if component = "dev" then .ok .devices
    else enterName component (if rootNames.contains component then some .outside else none)
  | .devices =>
    if component = "." then .ok .devices
    else if component = ".." then .ok .root
    else enterName component (if component = "null" then some .null else none)
  | .outside =>
    if component = "." ∨ component = ".." then .ok .outside else enterName component none

/-- The place that a path leads to, and whether the path insists on a directory by ending in a
slash. Repeated slashes count as one. -/
def resolve (directory : Directory) (path : String) : Except FileError (Place × Bool) :=
  let characters := path.toList
  let components := characters.splitBy fun first second => first != '/' && second != '/'
  let names := (components.filter fun component => component.head? != some '/').map String.ofList
  let start := if characters.head? = some '/' then Place.root else Place.here
  if characters.contains '\x00' then .error .nameHasZero
  else if characters.isEmpty then .error .notFound
  else if path.utf8ByteSize > pathLimit then .error .nameTooLong
  else do
    let place ← names.foldlM directory.enter start
    return (place, characters.getLast? = some '/')

/-- The content of the file at `path`. -/
def read (directory : Directory) : FileReader := fun path => do
  match ← directory.resolve path with
  | (.entry name, insists) =>
    match directory.content? name with
    | some content => if insists then .error .notDirectory else .ok content
    | none => .error .notFound
  | (.missing, _) => .error .notFound
  | (.null, insists) => if insists then .error .notDirectory else .ok []
  | _ => .error .isDirectory

/-- The directory after `content` has been written to the file at `path`, which is made if there is
none. A file outside leaves no trace here. -/
def write (directory : Directory) (path : String) (content : List UInt8) :
    Except FileError Directory := do
  match ← directory.resolve path with
  | (.entry name, false) =>
    return ⟨(name, content) :: directory.files.filter fun (other, _) => other != name⟩
  | (.missing, false) | (.null, false) => return directory
  | _ => .error .isDirectory

/-- The names of the files in increasing order. -/
def names (directory : Directory) : List String :=
  (directory.files.map Prod.fst).mergeSort fun first second => first ≤ second

end Directory

end TapeMachine
