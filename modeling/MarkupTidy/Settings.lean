import MarkupTidy.Text.Blank
import MarkupTidy.Text.Integer
import MarkupTidy.Yaml.Value

/-!
# Settings — how the formatters are set up, and how a settings file sets them

The layout's indentation (a width, or a tab) and whether compaction drops comments are the
program's settings. A settings file `.htmlfmt.yml` gives them as a YAML mapping with two optional
sections:

```
prettify:
  indent_size: 4      # an integer, or a text that reads as one
  use_tabs: no        # a boolean, or one of the words true yes 1 false no 0
minify:
  remove_comments: false
```

A blank file, or one whose document is false (null, zero, false, empty), leaves every setting at
its default. Each value is checked in the order the sections are written above, and the first
that does not fit is reported. Settings given on a command line or per call then replace those
of the file one by one.
-/

namespace MarkupTidy

open MarkupTidy.Text MarkupTidy.Yaml

/-- The name of the settings file, looked for in the directory of what is formatted. -/
def settingsFileName : String := ".htmlfmt.yml"

/-- What the formatters are told: the indentation width, whether to indent with tabs, and
whether compaction drops comments. -/
structure Settings where
  indentSize : Nat := 2
  useTabs : Bool := false
  dropsComments : Bool := true
  deriving DecidableEq, Repr

/-- Why settings could not be had. -/
inductive SettingsError where
  /-- The settings file is not YAML, or holds what a safe loader refuses. -/
  | unreadable
  /-- The file's document is not a mapping. -/
  | rootNotMapping
  /-- A section (`prettify`, `minify`) is neither null nor a mapping. -/
  | sectionNotMapping (part : String)
  /-- The indentation width is not an integer. -/
  | widthNotInteger
  /-- The indentation width is below zero. -/
  | negativeWidth (width : Int)
  /-- A switch (`prettify.use_tabs`, `minify.remove_comments`) is not a boolean. -/
  | notBoolean (key : String)
  /-- A literal with an explicit type does not read as its type. -/
  | refused (kind : Refusal) (message : String)
  deriving DecidableEq, Repr

/-- The words of a settings error. -/
def SettingsError.message : SettingsError → String
  | .unreadable => "Failed to parse " ++ settingsFileName
  | .rootNotMapping => settingsFileName ++ " must contain a mapping at the root"
  | .sectionNotMapping s => s ++ " must be a mapping"
  | .widthNotInteger => "prettify.indent_size must be an integer"
  | .negativeWidth w => "indent_size must be zero or positive, got " ++ toString w
  | .notBoolean k => k ++ " must be a boolean"
  | .refused _ m => m

/-- A width, refused when below zero; a width below zero with too many digits to be written in
the refusal cannot even be reported. -/
def checkWidth (w : Int) : Except SettingsError Nat :=
  if w < 0 then
    match decimalText? w with
    | some _ => .error (.negativeWidth w)
    | none => .error (.refused .badValue tooLongToWrite)
  else .ok w.toNat

/-- The integer a value stands for: an integer, or a text that reads as a decimal integer.
A boolean is not an integer here. -/
def integerSetting : Value → Option Int
  | .int n => some n
  | .str s =>
    match readInteger 10 s with
    | .ok n => some n
    | .error _ => none
  | _ => none

/-- The words a switch may be written with, after blanks are trimmed and letters lowered. -/
def switchWord (s : String) : Option Bool :=
  let w := String.ofList ((trim s.toList).map Char.toLower)
  if w = "true" || w = "yes" || w = "1" then some true
  else if w = "false" || w = "no" || w = "0" then some false
  else none

/-- The boolean a value stands for: a boolean, or a text that is one of the switch words. -/
def switchSetting : Value → Option Bool
  | .bool b => some b
  | .str s => switchWord s
  | _ => none

/-- A switch's value, refused when it is no boolean. -/
def requireSwitch (key : String) (v : Value) : Except SettingsError Bool :=
  match switchSetting v with
  | some b => .ok b
  | none => .error (.notBoolean key)

/-- The mapping node of a section: none when the section is absent or null. -/
def sectionNode (d : Document) (root : Nat) (name : String) :
    Except SettingsError (Option Nat) :=
  match d.lookup root name with
  | none | some .null => .ok none
  | some (.mapping n) => .ok (some n)
  | some _ => .error (.sectionNotMapping name)

/-- A setting of a section: the value its key is given, if the section gives it one. -/
def sectionValue (d : Document) (node : Option Nat) (key : String) : Option Value :=
  node.bind fun n => d.lookup n key

/-- A setting read from a section: nothing when the section does not give its key, else the value
it is given, coerced. -/
def readSetting {α : Type} (d : Document) (node : Option Nat) (key : String)
    (coerce : Value → Except SettingsError α) : Except SettingsError (Option α) :=
  match sectionValue d node key with
  | some v => some <$> coerce v
  | none => pure none

/-- The indentation width a value gives: an integer, refused below zero. -/
def widthSetting (v : Value) : Except SettingsError Nat :=
  match integerSetting v with
  | some w => checkWidth w
  | none => throw .widthNotInteger

/-- The settings a loaded document gives, starting from the defaults. -/
def Settings.ofDocument (d : Document) : Except SettingsError Settings := do
  if d.isFalsy d.root then return {}
  let .mapping root := d.root | throw .rootNotMapping
  let layout ← sectionNode d root "prettify"
  let width ← readSetting d layout "indent_size" widthSetting
  let tabs ← readSetting d layout "use_tabs" (requireSwitch "prettify.use_tabs")
  let compaction ← sectionNode d root "minify"
  let drops ← readSetting d compaction "remove_comments" (requireSwitch "minify.remove_comments")
  let s : Settings := {}
  return { indentSize := width.getD s.indentSize, useTabs := tabs.getD s.useTabs,
           dropsComments := drops.getD s.dropsComments }

/-- The settings a settings file's text gives (its line ends already made `\n`), read by a call
at depth `depth`. -/
def Settings.ofText (depth : Nat) (text : String) : Except SettingsError Settings :=
  if (trim text.toList).isEmpty then .ok {}
  else
    match Document.load depth text with
    | .error .malformed => .error .unreadable
    | .error (.refused k m) => .error (.refused k m)
    | .ok d => Settings.ofDocument d

/-- Settings given one by one, each replacing the one it names when it is given. -/
structure Overrides where
  indentSize : Option Int := none
  useTabs : Option Bool := none
  dropsComments : Option Bool := none
  deriving DecidableEq, Repr

/-- Settings with the given overrides applied; a width below zero is refused. -/
def Settings.override (s : Settings) (o : Overrides) : Except SettingsError Settings := do
  let indentSize ← match o.indentSize with
    | some w => checkWidth w
    | none => pure s.indentSize
  return { indentSize, useTabs := o.useTabs.getD s.useTabs,
           dropsComments := o.dropsComments.getD s.dropsComments }

end MarkupTidy
