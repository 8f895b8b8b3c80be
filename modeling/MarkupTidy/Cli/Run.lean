import MarkupTidy.Cli.Parse
import MarkupTidy.Cli.Commands
import MarkupTidy.Job.Run
import MarkupTidy.Json.Print

/-!
# Cli/Run — running the command line

A command line is read by its grammar; help is shown on the output stream, and a refused line
is reported on the error stream with status 2. Logging is then set up: records go to the error
stream, and to the log file when one is named, which is made at once.

`prettify` and `minify` read the standard input when the path is `-`, with the settings of the
settings file in the working directory (or the one named); the result is printed. Writing,
checking and showing differences need a file. With a file, the result is printed, written back,
checked (status 1 when it would change) or shown as a difference. `validate` prints the issues
of a file, or its report as indented JSON, with status 1 when there are any.

Settings that cannot be had, and a missing file, end a run with status 1 and their words on the
error stream; any other file that cannot be opened adds a hint to run verbosely. What no command
expects stops the run with its failure.
-/

namespace MarkupTidy.Cli

open MarkupTidy.Host MarkupTidy.Markup

variable {m : Type → Type} [Monad m] [Machine m]

/-- A flag's value, false when unset. -/
def Bindings.flag (b : Bindings) (dest : String) : Bool :=
  match b.get? dest with
  | some (.flag v) => v
  | _ => false

/-- A text's value, if set. -/
def Bindings.text? (b : Bindings) (dest : String) : Option String :=
  match b.get? dest with
  | some (.text s) => some s
  | _ => none

/-- A number's value, if set. -/
def Bindings.number? (b : Bindings) (dest : String) : Option Int :=
  match b.get? dest with
  | some (.number n) => some n
  | _ => none

/-- A flag's value, if set. -/
def Bindings.flag? (b : Bindings) (dest : String) : Option Bool :=
  match b.get? dest with
  | some (.flag v) => some v
  | _ => none

/-- Ends a run with a status, writing words to the error stream first. -/
def leave (status : Nat) (words : String) : ExceptT Failure m Nat := do
  if !words.isEmpty then Machine.err (m := m) words
  return status

/-- Prints a line. -/
def printLine (s : String) : ExceptT Failure m Unit := Machine.out (m := m) (s ++ "\n")

/-- The per-call settings a formatting command gives. -/
def overridesOf (command : String) (b : Bindings) : Overrides :=
  if command = "prettify" then
    { indentSize := b.number? "indent_size", useTabs := b.flag? "use_tabs" }
  else { dropsComments := b.flag? "remove_comments" }

/-- Runs a failing step, handing its failure to a handler. -/
def attempt {α : Type} (step : ExceptT Failure m α)
    (handle : Failure → ExceptT Failure m (Except Nat α)) : ExceptT Failure m (Except Nat α) :=
  ExceptT.mk do
    match ← step.run with
    | .ok a => return .ok (.ok a)
    | .error f => (handle f).run

/-- Formats the standard input; called with `depth` calls in use, it loads the settings two
calls deeper. -/
def formatInput (depth : Nat) (logging : Option Logging) (command : String) (b : Bindings) :
    ExceptT Failure m Nat := do
  let cwd ← Machine.workingDir (m := m)
  let written := match b.text? "config" with
    | some p => Written.parse p
    | none => ⟨true, cwd.names⟩
  let settings ← attempt (do
      let s ← loadSettings (depth + 2) written
      liftSettings (s.override (overridesOf command b)))
    fun f => if f.isSettings then do
      let _ ← leave 1 (f.message ++ "\n")
      pure (.error 1) else throw f
  match settings with
  | .error status => return status
  | .ok s =>
    let text ← Machine.input (m := m)
    let output ← if command = "prettify" then layoutText logging s text
      else compactText (m := m) logging s.dropsComments text
    printLine output
    return 0

/-- Formats the file a command line names, with the settings it names; called with `depth` calls
in use, it loads given settings, and formats, two calls deeper. -/
def formatStep (depth : Nat) (logging : Option Logging) (command : String) (b : Bindings) :
    ExceptT Failure m Formatted := do
  let t := if command = "prettify" then Transform.layout else Transform.compaction
  let given ← match b.text? "config" with
    | some p => some <$> loadSettings (depth + 2) (Written.parse p)
    | none => pure none
  runFormat (depth + 2) logging given t ((b.text? "path").getD "-") (b.flag "write")
    (overridesOf command b)

/-- Formats a file, and prints, writes, checks or shows the difference; called with `depth`
calls in use, it loads given settings, and formats, two calls deeper. -/
def formatFile (depth : Nat) (logging : Option Logging) (command : String) (b : Bindings) :
    ExceptT Failure m Nat := do
  let write := b.flag "write"
  let outcome ← attempt (formatStep depth logging command b)
    fun f =>
      if f.isSettings || f.isMissing then do
        let _ ← leave 1 (f.message ++ "\n")
        pure (.error 1)
      else if f.isDisk then do
        let _ ← leave 1 ("htmlfmt " ++ command ++ " failed: " ++ f.message ++
          "\nRun with --verbose for more details.\n")
        pure (.error 1)
      else throw f
  match outcome with
  | .error status => return status
  | .ok r =>
    let cwd ← Machine.workingDir (m := m)
    let shown := r.path.shownFrom cwd
    if b.flag "check" then
      if r.changed then leave 1 (shown ++ " would be reformatted\n") else return 0
    else if b.flag "diff" then
      if !r.diff.isEmpty then Machine.out (m := m) r.diff
      return 0
    else if write then
      printLine (if r.written then "Reformatted " ++ shown else shown ++ " already formatted")
      return 0
    else
      printLine r.output
      return 0

/-- A report as JSON. -/
def reportJson (r : Report) : Json.Value :=
  .obj [("valid", .bool r.valid), ("errors", .arr (r.errors.map .str)),
    ("issues", .arr (r.issues.map fun i =>
      .obj [("code", .str i.code), ("tag", .str i.problem.tag),
        ("expected", match i.expected with | some e => .str e | none => .null),
        ("message", .str i.message), ("offset", .int i.problem.offset),
        ("line", .int i.line)]))]

/-- Checks the standard input or a file, and prints its issues or its report. -/
def validateCommand (logging : Option Logging) (b : Bindings) : ExceptT Failure m Nat := do
  let path := (b.text? "path").getD "-"
  let stdin : ExceptT Failure m (Except Nat (String × Report)) := do
    let text ← Machine.input (m := m)
    let r ← checkText (m := m) logging text
    pure (.ok ("<stdin>", r))
  let file : ExceptT Failure m (String × Report) := do
    let (p, r) ← runValidate logging path
    let cwd ← Machine.workingDir (m := m)
    pure (p.shownFrom cwd, r)
  let checked ← if path = "-" then stdin
    else attempt file fun f =>
      if f.isMissing then do
        let _ ← leave (m := m) 1 (f.message ++ "\n")
        pure (.error 1)
      else throw f
  match checked with
  | .error status => return status
  | .ok (label, r) =>
    if b.flag "json" then printLine ((reportJson r).pretty 0)
    else if r.valid then printLine (label ++ ": no structural errors found")
    else
      for i in r.issues do
        printLine (label ++ ":" ++ toString i.line ++ ": " ++ i.message)
      printLine (label ++ ": " ++ toString r.issues.length ++ " error(s)")
    return if r.valid then 0 else 1

/-- Runs a command line, called with `depth` calls in use: its exit status. A formatting command
runs one call deeper. -/
def runCommandLine (depth : Nat) (words : List String) : ExceptT Failure m Nat := do
  match readLine commandGrammar mainGrammar words with
  | .error (.shown text) =>
    Machine.out (m := m) text
    return 0
  | .error (.refused text) => leave 2 text
  | .ok b =>
    let logFile ← match b.text? "log_file" with
      | some p => do
        let cwd ← Machine.workingDir (m := m)
        let file := (Written.parse p).resolve cwd
        onDisk (Machine.append file "")
        pure (some file)
      | none => pure none
    let logging : Option Logging := some ⟨b.flag "verbose", logFile⟩
    match b.text? "command" with
    | some "prettify" =>
      if (b.text? "path").getD "-" = "-" then
        if b.flag "write" || b.flag "check" || b.flag "diff" then
          leave 2 "htmlfmt prettify: --write, --check and --diff need a file path\n"
        else formatInput (depth + 1) logging "prettify" b
      else formatFile (depth + 1) logging "prettify" b
    | some "minify" =>
      if (b.text? "path").getD "-" = "-" then
        if b.flag "write" || b.flag "check" || b.flag "diff" then
          leave 2 "htmlfmt minify: --write, --check and --diff need a file path\n"
        else formatInput (depth + 1) logging "minify" b
      else formatFile (depth + 1) logging "minify" b
    | some "validate" => validateCommand logging b
    | some "serve" => leave 1 "htmlfmt serve failed: this build does not serve HTTP\n"
    | _ => leave 1 "Unknown command\n"

end MarkupTidy.Cli
