import MarkupTidy.Job.Failure
import MarkupTidy.Host.Log
import MarkupTidy.Text.Lines
import MarkupTidy.Diff.Unified
import MarkupTidy.Markup.Balance
import MarkupTidy.Markup.Compact
import MarkupTidy.Markup.Segment

/-!
# Job/Run — formatting and checking files

A file is laid out, compacted or checked in a few steps. The path is resolved, and must name a
file. The settings are those given to the run or, when none are, those of the settings file
beside the document; per-call settings replace them. The file is read with uniform line ends,
the text is transformed, and the result is compared with what was read: an unchanged text is
left alone, a changed one is written back when asked, and its unified difference is kept.

Settings files are found from a path: a directory holds its own, and any other path looks
beside itself, unless it is a settings file itself. A missing settings file gives the defaults.
-/

namespace MarkupTidy

open MarkupTidy.Host MarkupTidy.Markup MarkupTidy.Text

variable {m : Type → Type} [Monad m] [Machine m]

/-- Runs a host step that may fail to open a file. -/
def onDisk {α : Type} (step : m (Except DiskError α)) : ExceptT Failure m α :=
  ExceptT.mk do return (← step).mapError .disk

/-- A file's text with uniform line ends. -/
def readText (p : Path) : ExceptT Failure m String := do
  return String.uniformLineEnds (← onDisk (Machine.read p))

/-- Lifts a settings step. -/
def liftSettings {α : Type} (e : Except SettingsError α) : ExceptT Failure m α :=
  ExceptT.mk (pure (e.mapError .settings))

/-- The settings file a written path points to: in it when the machine finds a directory
there (`walk`), else beside it unless it is a settings file itself. The name and the parent of
the written path are read off its text. -/
def settingsFile (written : Written) : ExceptT Failure m Path := do
  let cwd ← Machine.workingDir (m := m)
  let some w ← expandHome (m := m) written | throw .noHome
  if (← walk (m := m) w) = .directory then
    return (w.child settingsFileName).resolve cwd
  else if w.name != settingsFileName then
    return (w.parent.child settingsFileName).resolve cwd
  else return w.resolve cwd

/-- The settings a written path points to, loaded by a call made with `depth` calls in use: the
defaults when there is no settings file. The text is read two calls deeper. -/
def loadSettings (depth : Nat) (written : Written) : ExceptT Failure m Settings := do
  let file ← settingsFile (m := m) written
  if (← Machine.entry (m := m) file) = .missing then return {}
  liftSettings (Settings.ofText (depth + 2) (← readText file))

/-- The settings for a document, found by a call made with `depth` calls in use: those given,
or those beside it. -/
def settingsFor (depth : Nat) (given : Option Settings) (p : Path) :
    ExceptT Failure m Settings :=
  match given with
  | some s => pure s
  | none => loadSettings (depth + 1) ⟨true, p.names⟩

/-- The file a written path names; it must be a file. -/
def document (written : String) : ExceptT Failure m Path := do
  let some p ← locate (m := m) written | throw .noHome
  if (← Machine.entry (m := m) p) = .file then return p
  throw (.noDocument p)

/-! ## Transforms -/

/-- The laid-out text, logging how many segments became how many lines. -/
def layoutText (logging : Option Logging) (s : Settings) (text : String) :
    ExceptT Failure m String := do
  let ls ← ExceptT.mk
    (pure (((Indent.ofWidth s.indentSize s.useTabs).lines? text.toList).mapError .tooWide))
  let count := (segments text.toList).length
  record (m := m) logging .debug "prettify"
    ("Prettified " ++ toString count ++ " segments into " ++ toString ls.length ++ " lines")
  return String.ofList (List.intercalate ['\n'] ls)

/-- The compacted text, logging how long it was and is. -/
def compactText (logging : Option Logging) (dropsComments : Bool) (text : String) :
    m String := do
  let out := compact dropsComments text.toList
  record logging .debug "minify" ("Minified " ++ toString text.length ++ " characters down to " ++
    toString out.length)
  return String.ofList out

/-- The report on a text, logging how many tags and issues it has. -/
def checkText (logging : Option Logging) (text : String) : m Report := do
  let r := Report.check text
  record logging .debug "validate" ("Validated " ++ toString r.tagCount ++ " tags, " ++
    toString r.issues.length ++ " issue(s)")
  return r

/-! ## Runs -/

/-- What is done to a document's text. -/
inductive Transform where
  | layout
  | compaction
  deriving DecidableEq, Repr

/-- What formatting a file came to: the path, the new text, whether it differs from the old,
their difference, and whether it was written. -/
structure Formatted where
  path : Path
  output : String
  changed : Bool
  diff : String
  written : Bool
  deriving DecidableEq, Repr

/-- The per-call settings a transform heeds: the layout's for layout, the compaction's for
compaction. -/
def Transform.heeded (t : Transform) (o : Overrides) : Overrides :=
  match t with
  | .layout => { o with dropsComments := none }
  | .compaction => { dropsComments := o.dropsComments }

/-- The text a transform makes. -/
def transformText (logging : Option Logging) (t : Transform) (s : Settings) (text : String) :
    ExceptT Failure m String :=
  match t with
  | .layout => layoutText logging s text
  | .compaction => compactText (m := m) logging s.dropsComments text

/-- The unified difference of two texts, by lines, under a file's name. -/
def textDiff (name old new : String) : String :=
  Diff.unified (linesWithEnds old).toArray (linesWithEnds new).toArray
    (name ++ " (original)") (name ++ " (formatted)")

/-- Formats a file, writing it back when asked and when it changes; called with `depth` calls in
use. -/
def runFormat (depth : Nat) (logging : Option Logging) (given : Option Settings) (t : Transform)
    (written : String) (write : Bool) (o : Overrides) : ExceptT Failure m Formatted := do
  let p ← document written
  let s ← settingsFor (depth + 1) given p
  let s ← liftSettings (s.override (t.heeded o))
  let note := record (m := m) logging
  note .info "orchestrator"
    ((match t with | .layout => "Prettifying " | .compaction => "Minifying ") ++ p.render)
  let before ← readText p
  let output ← transformText logging t s before
  let changed := output != before
  let diff := if changed then textDiff p.name before output else ""
  if !changed then
    note .info "orchestrator" (p.render ++ " already formatted; nothing to do")
    return ⟨p, output, changed, diff, false⟩
  else if write then
    onDisk (Machine.write p output)
    note .info "orchestrator" ("Rewrote " ++ p.render)
    return ⟨p, output, changed, diff, true⟩
  else
    note .debug "orchestrator" (p.render ++ " would change; not writing")
    return ⟨p, output, changed, diff, false⟩

/-- Checks a file's tags. -/
def runValidate (logging : Option Logging) (written : String) :
    ExceptT Failure m (Path × Report) := do
  let p ← document written
  record (m := m) logging .info "orchestrator" ("Validating " ++ p.render)
  let r ← checkText (m := m) logging (← readText p)
  if r.valid then
    record (m := m) logging .info "orchestrator" (p.render ++ " is structurally valid")
  else
    record (m := m) logging .info "orchestrator"
      (p.render ++ " has " ++ toString r.errors.length ++ " structural error(s)")
  return (p, r)

end MarkupTidy
