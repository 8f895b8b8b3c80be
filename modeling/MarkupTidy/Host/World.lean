import MarkupTidy.Host.Effects

/-!
# Host/World — a machine as a value

A world holds files (each a path and its text), directories, the working and home directories,
the input not yet read, what was written to the output and error streams, and the time its
clock shows. Every directory above a file or a listed directory exists, and so does the root.

Running a program in `WorldM`, the state monad over worlds, is running it on that machine: a
write replaces or adds a file, an append extends one, and the streams collect what is written.
Reading a path whose way passes through a file fails as on a real machine, as does writing into
a directory that does not exist.
-/

namespace MarkupTidy.Host

/-- A machine: its files and directories, and its streams. -/
structure World where
  files : List (Path × String)
  dirs : List Path
  cwd : Path
  home : Path
  users : List (String × Path)
  input : String
  out : String
  err : String
  clock : String
  deriving Inhabited

namespace World

/-- The text of the file at a path, if there is one. -/
def fileAt? (w : World) (p : Path) : Option String :=
  (w.files.find? fun f => f.1 = p).map (·.2)

/-- Whether a path is a directory: the root, a listed directory, or above a file or a listed
directory. -/
def isDirectory (w : World) (p : Path) : Bool :=
  p.names.isEmpty || w.dirs.any (fun d => p.names.isPrefixOf d.names) ||
    w.files.any fun f => p.names.isPrefixOf f.1.names && p != f.1

/-- Whether a directory on the way to a path is a file. -/
def throughFile (w : World) (p : Path) : Bool :=
  w.files.any fun f => f.1.names.isPrefixOf p.names && f.1 != p

/-- What a path names in a world. -/
def entry (w : World) (p : Path) : Entry :=
  if (w.fileAt? p).isSome then .file
  else if w.isDirectory p then .directory
  else .missing

/-- Why a path that is no file cannot be opened. -/
def faultAt (w : World) (p : Path) : DiskFault :=
  if w.isDirectory p then .isDirectory
  else if w.throughFile p then .notDirectory
  else .missing

/-- A world with a file's text set, the file added when new. -/
def setFile (w : World) (p : Path) (text : String) : World :=
  if (w.fileAt? p).isSome then
    { w with files := w.files.map fun f => if f.1 = p then (p, text) else f }
  else { w with files := w.files ++ [(p, text)] }

/-- Whether a file may be made at a path: it is no directory, and its directory exists. -/
def canMake (w : World) (p : Path) : Except DiskError Unit :=
  if w.isDirectory p then .error ⟨.isDirectory, p⟩
  else if w.throughFile p then .error ⟨.notDirectory, p⟩
  else if w.isDirectory p.parent then .ok ()
  else .error ⟨.missing, p⟩

/-- A world without the file at a path. -/
def removeFile (w : World) (p : Path) : World :=
  { w with files := w.files.filter fun f => f.1 != p }

/-- A world with a directory made, and the directories above it. -/
def makeDir (w : World) (p : Path) : World :=
  { w with dirs := w.dirs ++ [p] }

/-- The files under a directory, by the names leading to them joined with slashes. -/
def filesUnder (w : World) (dir : Path) : List (String × String) :=
  w.files.filterMap fun (p, text) =>
    match p.within? dir with
    | some [] | none => none
    | some names => some ("/".intercalate names, text)

end World

/-- Programs running on a world. -/
abbrev WorldM := StateM World

instance : Machine WorldM where
  entry p := return (← get).entry p
  read p := do
    let w ← get
    match w.fileAt? p with
    | some text => return .ok text
    | none => return .error ⟨w.faultAt p, p⟩
  write p text := do
    let w ← get
    match w.fileAt? p with
    | some _ => set (w.setFile p text); return .ok ()
    | none =>
      match w.canMake p with
      | .ok () => set (w.setFile p text); return .ok ()
      | .error e => return .error e
  append p text := do
    let w ← get
    match w.fileAt? p with
    | some old => set (w.setFile p (old ++ text)); return .ok ()
    | none =>
      match w.canMake p with
      | .ok () => set (w.setFile p text); return .ok ()
      | .error e => return .error e
  workingDir := return (← get).cwd
  homeDir := return (← get).home
  userHome u := return (← get).users.lookup u
  input := do
    let w ← get
    set { w with input := "" }
    return w.input
  out s := modify fun w => { w with out := w.out ++ s }
  err s := modify fun w => { w with err := w.err ++ s }
  clock := return (← get).clock

end MarkupTidy.Host
