import MarkupTidy.Host.Path
import MarkupTidy.Text.Quote

/-!
# Host/Effects — what the program asks of the machine it runs on

The program reads and writes files, reads its input, writes its output and error streams, and
asks where it is working, where home is, for itself and for other users, and what time it is. `Machine m` gives these to programs
in a monad `m`; a program written against it runs on a real machine and equally on a model of
one (`Host/World`), which is where its behaviour can be reasoned about.

A file that cannot be read or written tells why: it is missing, it is a directory, or a
directory on its way is a file.
-/

namespace MarkupTidy.Host

open MarkupTidy.Text

/-- What a path names. -/
inductive Entry where
  | file
  | directory
  | missing
  deriving DecidableEq, Repr

/-- Why a file could not be opened. -/
inductive DiskFault where
  /-- Neither the file nor, when writing, the directory to hold it exists. -/
  | missing
  /-- The path names a directory. -/
  | isDirectory
  /-- A directory on the way to the path is a file. -/
  | notDirectory
  deriving DecidableEq, Repr

/-- A file that could not be opened, and why. -/
structure DiskError where
  fault : DiskFault
  path : Path
  deriving DecidableEq, Repr

/-- The number and words of a fault, as the operating system reports them. -/
def DiskFault.describe : DiskFault → String
  | .missing => "[Errno 2] No such file or directory"
  | .isDirectory => "[Errno 21] Is a directory"
  | .notDirectory => "[Errno 20] Not a directory"

/-- The report of a file that could not be opened. -/
def DiskError.message (e : DiskError) : String :=
  e.fault.describe ++ ": " ++ quoted e.path.render

/-- The machine a program runs on. -/
class Machine (m : Type → Type) where
  /-- What a path names. -/
  entry : Path → m Entry
  /-- A file's text, as stored. -/
  read : Path → m (Except DiskError String)
  /-- Replaces a file's text, making the file when it is missing. -/
  write : Path → String → m (Except DiskError Unit)
  /-- Adds text at the end of a file, making the file when it is missing. -/
  append : Path → String → m (Except DiskError Unit)
  /-- The working directory. -/
  workingDir : m Path
  /-- The home directory. -/
  homeDir : m Path
  /-- The home directory of a user, if the machine knows the user. -/
  userHome : String → m (Option Path)
  /-- All of the program's input. -/
  input : m String
  /-- Writes to the output stream. -/
  out : String → m Unit
  /-- Writes to the error stream. -/
  err : String → m Unit
  /-- The local time, as `YYYY-MM-DD hh:mm:ss,mmm`. -/
  clock : m String

variable {m : Type → Type} [Monad m] [Machine m]

/-- A written path with the home directory its first part `~` or `~user` names put in its
place; `none` when the user is unknown. -/
def expandHome (w : Written) : m (Option Written) := do
  match w.homeUser? with
  | none => return some w
  | some "" => return some (w.fromHome (← Machine.homeDir))
  | some u => return (← Machine.userHome u).map w.fromHome

/-- The absolute path a written path names, on a host; `none` when it starts from the home of
an unknown user. -/
def locate (written : String) : m (Option Path) := do
  let cwd ← Machine.workingDir
  return (← expandHome (Written.parse written)).map (·.resolve cwd)

/-- What a written path names when the machine walks it part by part from where it starts:
each step is taken from a directory, `..` going up and any other part down; a step from anything
but a directory finds nothing. So `missing/..` names nothing, though it resolves to where it
starts. -/
def walk (w : Written) : m Entry := do
  let start ← if w.absolute then pure Path.root else Machine.workingDir
  let rec go : List String → Path → m Entry
    | [], p => Machine.entry p
    | part :: rest, p => do
      if (← Machine.entry p) != .directory then return .missing
      go rest (if part = ".." then p.parent else p.child part)
  go w.parts start

end MarkupTidy.Host
