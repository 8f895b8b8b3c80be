import MarkupTidy.Host.Effects

/-!
# Host/Log — records of what a run does

A run that is set up to log sends each record to the error stream as
`[htmlfmt] LEVEL message`, and, when a log file is named, also appends it to that file as
`time LEVEL source: message`. Records of level `DEBUG` are sent only when the run is verbose;
those of level `INFO` always. A run not set up to log sends nothing.
-/

namespace MarkupTidy.Host

/-- How much a record matters. -/
inductive Level where
  | debug
  | info
  deriving DecidableEq, Repr

/-- The name of a level, as records show it. -/
def Level.label : Level → String
  | .debug => "DEBUG"
  | .info => "INFO"

/-- How a run logs: whether it is verbose, and the file records are also appended to. -/
structure Logging where
  verbose : Bool
  file : Option Path
  deriving DecidableEq, Repr

/-- Whether a record of a level is sent. -/
def Logging.admits (l : Logging) (level : Level) : Bool :=
  l.verbose || level = .info

/-- The name records of a part of the program are sent under. -/
def source (part : String) : String := "htmlfmt." ++ part

/-- Sends a record from a part of the program, when the run logs and admits its level. -/
def record {m : Type → Type} [Monad m] [Machine m] (logging : Option Logging) (level : Level)
    (part : String) (message : String) : m Unit := do
  match logging with
  | some l =>
    if l.admits level then
      Machine.err ("[htmlfmt] " ++ level.label ++ " " ++ message ++ "\n")
      match l.file with
      | some p =>
        let time ← Machine.clock
        let _ ← Machine.append p (time ++ " " ++ level.label ++ " " ++ source part ++ ": " ++
          message ++ "\n")
      | none => pure ()
  | none => pure ()

end MarkupTidy.Host
