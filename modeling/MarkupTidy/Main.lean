import Std.Time
import MarkupTidy.Cli.Run

/-!
# Main — the `htmlfmt` command

The command line runs on the machine itself: its files, its streams, its working and home
directories and its local time. Whatever stops a run unexpectedly is reported on the error
stream with status 1.
-/

open MarkupTidy MarkupTidy.Host System

/-- Whether a path names a directory on the machine. -/
def isDirectoryOnDisk (p : Path) : IO Bool :=
  FilePath.isDir (FilePath.mk p.render)

/-- Why the machine could not open a file. -/
def faultOf (p : Path) (e : IO.Error) : IO DiskFault := do
  if ← isDirectoryOnDisk p then return .isDirectory
  match e with
  | .noFileOrDirectory .. => return .missing
  | .inappropriateType .. => return .notDirectory
  | _ => return .missing

/-- Runs a file step, catching what the machine refuses. -/
def onMachine {α : Type} (p : Path) (step : IO α) : IO (Except DiskError α) := do
  try return .ok (← step)
  catch e => return .error ⟨← faultOf p e, p⟩

/-- Two digits, or three, with leading zeros. -/
def padded (width : Nat) (n : Int) : String :=
  let s := toString n.toNat
  String.ofList (List.replicate (width - s.length) '0') ++ s

/-- The machine the command runs on. -/
instance : Machine IO where
  entry p := do
    if ← isDirectoryOnDisk p then return .directory
    if ← FilePath.pathExists (FilePath.mk p.render) then return .file
    return .missing
  read p := onMachine p (IO.FS.readFile p.render)
  write p text := onMachine p (IO.FS.writeFile p.render text)
  append p text := onMachine p do
    let h ← IO.FS.Handle.mk p.render .append
    h.putStr text
    h.flush
  workingDir := do
    return (Written.parse (← IO.currentDir).toString).resolve Path.root
  homeDir := do
    match ← IO.getEnv "HOME" with
    | some home => return (Written.parse home).resolve Path.root
    | none => return Path.root
  userHome u := do
    let users ← try IO.FS.readFile "/etc/passwd" catch _ => pure ""
    let homes := (users.splitOn "\n").filterMap fun line =>
      match line.splitOn ":" with
      | name :: _ :: _ :: _ :: _ :: home :: _ =>
        if name = u then some ((Written.parse home).resolve Path.root) else none
      | _ => none
    return homes.head?
  input := do (← IO.getStdin).readToEnd
  out s := do
    let stdout ← IO.getStdout
    stdout.putStr s
    stdout.flush
  err s := do
    let stderr ← IO.getStderr
    stderr.putStr s
    stderr.flush
  clock := do
    let t ← Std.Time.PlainDateTime.now
    return padded 4 t.date.year ++ "-" ++ padded 2 t.date.month.val ++ "-" ++
      padded 2 t.date.day.val ++ " " ++ padded 2 t.time.hour.val ++ ":" ++
      padded 2 t.time.minute.val ++ ":" ++ padded 2 t.time.second.val ++ "," ++
      padded 3 (t.time.nanosecond.val / 1000000)

/-- Runs `htmlfmt` with the words of its command line. -/
def main (args : List String) : IO UInt32 := do
  match ← (Cli.runCommandLine (m := IO) 1 args).run with
  | .ok status => return status.toUInt32
  | .error f =>
    IO.eprintln f.message
    return 1
