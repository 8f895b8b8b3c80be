import MarkupTidy.Settings
import MarkupTidy.Markup.Layout
import MarkupTidy.Host.Effects

/-!
# Job/Failure — why a run stops

A run stops when its settings cannot be had, when what it is asked to work on is no file, when
the indent unit is too long to build, when a file cannot be opened, or when a path starts from
the home of a user the machine does not know.
-/

namespace MarkupTidy

open MarkupTidy.Host MarkupTidy.Markup

/-- Why a run stops. -/
inductive Failure where
  | settings (e : SettingsError)
  | noDocument (path : Path)
  | tooWide (e : TooWide)
  | disk (e : DiskError)
  | noHome
  deriving DecidableEq, Repr

/-- The words a failure reports. -/
def Failure.message : Failure → String
  | .settings e => e.message
  | .noDocument p => "No HTML file found at " ++ p.render
  | .tooWide e => e.message
  | .disk e => e.message
  | .noHome => "Could not determine home directory."

/-- Whether a failure is the settings' own: settings that are not as they must be, or a file
that is no YAML. A literal refused by its type is not. -/
def Failure.isSettings : Failure → Bool
  | .settings (.refused _ _) => false
  | .settings _ => true
  | _ => false

/-- Whether a failure is a missing file: no document at a path, or a file that is not there. -/
def Failure.isMissing : Failure → Bool
  | .noDocument _ => true
  | .disk e => e.fault = .missing
  | _ => false

/-- Whether a failure is a file that could not be opened. -/
def Failure.isDisk : Failure → Bool
  | .disk _ => true
  | _ => false

end MarkupTidy
