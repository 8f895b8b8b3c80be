import MarkupTidy.Proofs.Formatting

/-!
# Proofs/CommandLine — what a command line does to the files

A command line that names no log file writes to the output and error streams, reads its input,
and touches at most one file: the document of a `prettify` or `minify` run on a file, rewritten
as that formatting says. Everything else keeps the disk (`SameDisk`: the files, the directories,
the working and home directories and the users).

A program keeps the disk when every world it runs on ends with the same disk (`KeepsDisk`); it
yields a value when, moreover, it returns that value on every world (`Yields`). Both pass
through binds, so a program keeps the disk when each of its steps does.

* `sameDisk_runCommandLine` — a run of a command line ends with the disk `World.afterLine` says:
  the document of a file formatting rewritten as `World.afterFormat` makes it, and no other
  change;
* `run_runCommandLine_of_fileCommand` — the status a file formatting ends with is
  `formatStatus` of what the formatting came to.
-/

namespace MarkupTidy

open MarkupTidy.Host MarkupTidy.Markup MarkupTidy.Text MarkupTidy.Cli

namespace Host.World

/-! ## Worlds with the same disk -/

/-- Two worlds hold the same files and directories and share the working and home directories
and the users; their streams may differ. -/
structure SameDisk (w w' : World) : Prop where
  files : w.files = w'.files
  dirs : w.dirs = w'.dirs
  cwd : w.cwd = w'.cwd
  home : w.home = w'.home
  users : w.users = w'.users

namespace SameDisk

theorem refl (w : World) : SameDisk w w := ⟨rfl, rfl, rfl, rfl, rfl⟩

theorem trans {w₁ w₂ w₃ : World} (h₁ : SameDisk w₁ w₂) (h₂ : SameDisk w₂ w₃) : SameDisk w₁ w₃ :=
  ⟨h₁.1.trans h₂.1, h₁.2.trans h₂.2, h₁.3.trans h₂.3, h₁.4.trans h₂.4, h₁.5.trans h₂.5⟩

variable {w w' : World} (h : SameDisk w w')
include h

theorem symm : SameDisk w' w := ⟨h.1.symm, h.2.symm, h.3.symm, h.4.symm, h.5.symm⟩

theorem sameTree : SameTree w w' := ⟨by simp only [paths, h.files], h.dirs, h.cwd, h.home, h.users⟩

theorem fileAt? (p : Path) : w.fileAt? p = w'.fileAt? p := by
  simp only [World.fileAt?, h.files]

theorem readText (p : Path) : w.readText p = w'.readText p :=
  h.sameTree.readText (h.fileAt? p)

/-- Formatting reads the disk only. -/
theorem format (depth : Nat) (given : Option Settings) (t : Transform) (written : String)
    (write : Bool) (o : Overrides) :
    w.format depth given t written write o = w'.format depth given t written write o := by
  simp only [World.format, h.sameTree.document, h.sameTree.settingsFor (fun q _ => h.fileAt? q),
    h.readText]

theorem setFile (p : Path) (text : String) : SameDisk (w.setFile p text) (w'.setFile p text) := by
  unfold World.setFile
  rw [h.fileAt? p]
  split <;> exact ⟨by simp only [h.files], h.dirs, h.cwd, h.home, h.users⟩

theorem afterFormat (res : Except Failure Formatted) :
    SameDisk (w.afterFormat res) (w'.afterFormat res) := by
  unfold World.afterFormat
  split
  · split
    · exact h.setFile _ _
    · exact h
  · exact h

end SameDisk

theorem sameDisk_logs (w : World) (e : String) : SameDisk w (w.logs e) := ⟨rfl, rfl, rfl, rfl, rfl⟩

/-! ## Formatting by a command line -/

/-- The settings a command line names with `--config`, loaded on a world. -/
def givenSettings (w : World) (depth : Nat) (b : Bindings) : Except Failure (Option Settings) :=
  match b.text? "config" with
  | some p => (w.loadSettings depth (Written.parse p)).map some
  | none => .ok none

/-- What formatting the file a command line names comes to on a world. -/
def formatByLine (w : World) (depth : Nat) (command : String) (b : Bindings) :
    Except Failure Formatted := do
  let given ← w.givenSettings (depth + 2) b
  w.format (depth + 2) given (if command = "prettify" then .layout else .compaction)
    ((b.text? "path").getD "-") (b.flag "write") (overridesOf command b)

end Host.World

/-- The formatting command a command line runs on a file, when it runs one. -/
def Cli.fileCommand? (b : Bindings) : Option String :=
  match b.text? "command" with
  | some "prettify" => if (b.text? "path").getD "-" = "-" then none else some "prettify"
  | some "minify" => if (b.text? "path").getD "-" = "-" then none else some "minify"
  | _ => none

/-- The disk a command line leaves: the document of a file formatting rewritten as that formatting
says, and nothing else changed. -/
def Host.World.afterLine (w : World) (depth : Nat) (words : List String) : World :=
  match readLine commandGrammar mainGrammar words with
  | .ok b =>
    match fileCommand? b with
    | some command => w.afterFormat (w.formatByLine (depth + 1) command b)
    | none => w
  | .error _ => w

/-- Two command lines ask for the same formatting: the same command, path, settings file and
per-call settings. They may differ in what is done with the result, and in their logging. -/
def Cli.SameRequest (b₁ b₂ : Bindings) : Prop :=
  ∀ key ∈ ["command", "path", "config", "indent_size", "use_tabs", "remove_comments"],
    b₂.get? key = b₁.get? key

section SameRequest

variable {b₁ b₂ : Bindings} (h : SameRequest b₁ b₂) {k : String}
  (hk : k ∈ ["command", "path", "config", "indent_size", "use_tabs", "remove_comments"])
include h hk

theorem Cli.SameRequest.text? : b₂.text? k = b₁.text? k := by
  rw [Bindings.text?, Bindings.text?, h k hk]

theorem Cli.SameRequest.number? : b₂.number? k = b₁.number? k := by
  rw [Bindings.number?, Bindings.number?, h k hk]

theorem Cli.SameRequest.flag? : b₂.flag? k = b₁.flag? k := by
  rw [Bindings.flag?, Bindings.flag?, h k hk]

end SameRequest

section SameRequest

variable {b₁ b₂ : Bindings} (h : SameRequest b₁ b₂)
include h

theorem Cli.SameRequest.fileCommand_eq : fileCommand? b₂ = fileCommand? b₁ := by
  rw [Cli.fileCommand?, Cli.fileCommand?, h.text? (by simp), h.text? (k := "path") (by simp)]

theorem Cli.SameRequest.givenSettings_eq (w : World) (depth : Nat) :
    w.givenSettings depth b₂ = w.givenSettings depth b₁ := by
  rw [World.givenSettings, World.givenSettings, h.text? (by simp)]

theorem Cli.SameRequest.overridesOf_eq (command : String) :
    overridesOf command b₂ = overridesOf command b₁ := by
  rw [Cli.overridesOf, Cli.overridesOf, h.number? (by simp), h.flag? (k := "use_tabs") (by simp),
    h.flag? (k := "remove_comments") (by simp)]

/-- A line asking for the same formatting formats the same file the same way, writing as it says. -/
theorem Cli.SameRequest.formatByLine_eq (w : World) (depth : Nat) (command : String) :
    w.formatByLine depth command b₂ = (do
      let given ← w.givenSettings (depth + 2) b₁
      w.format (depth + 2) given (if command = "prettify" then .layout else .compaction)
        ((b₁.text? "path").getD "-") (b₂.flag "write") (overridesOf command b₁)) := by
  rw [World.formatByLine, h.givenSettings_eq, h.overridesOf_eq, h.text? (by simp)]

end SameRequest

theorem Host.World.SameTree.givenSettings {w w' : World} (h : SameTree w w')
    (hcfg : ∀ q : Path, q.name = settingsFileName → w.fileAt? q = w'.fileAt? q)
    (depth : Nat) (b : Bindings) : w.givenSettings depth b = w'.givenSettings depth b := by
  unfold World.givenSettings
  split <;> simp only [h.loadSettings hcfg]

/-- The status a file formatting by a command line ends with: under `--check`, 1 when the file
would change; 1 when the settings, the file or the disk fail; any other failure stops the run. -/
def Cli.formatStatus (b : Bindings) : Except Failure Formatted → Except Failure Nat
  | .ok r => .ok (if b.flag "check" then (if r.changed then 1 else 0) else 0)
  | .error f => if f.isSettings || f.isMissing then .ok 1 else if f.isDisk then .ok 1 else .error f

/-! ## Programs that keep the disk -/

namespace Host.WorldM

open World

/-- A program that leaves the disk of every world as it finds it. -/
def KeepsDisk {α : Type} (x : ExceptT Failure WorldM α) : Prop :=
  ∀ w, SameDisk w (x.run.run w).2

/-- A program that returns `v` on every world, and leaves its disk as it finds it. -/
def Yields {α : Type} (x : ExceptT Failure WorldM α) (v : Except Failure α) : Prop :=
  ∀ w, (x.run.run w).1 = v ∧ SameDisk w (x.run.run w).2

variable {α β : Type}

theorem Yields.keepsDisk {x : ExceptT Failure WorldM α} {v : Except Failure α} (h : Yields x v) :
    KeepsDisk x :=
  fun w => (h w).2

theorem KeepsDisk.bind {x : ExceptT Failure WorldM α} {f : α → ExceptT Failure WorldM β}
    (hx : KeepsDisk x) (hf : ∀ a, KeepsDisk (f a)) : KeepsDisk (x >>= f) := fun w => by
  have hw := hx w
  rw [run_bind]
  rcases hrun : x.run.run w with ⟨_ | a, w'⟩
  · rw [hrun] at hw
    exact hw
  · rw [hrun] at hw
    exact hw.trans (hf a w')

theorem Yields.bind {x : ExceptT Failure WorldM α} {f : α → ExceptT Failure WorldM β} {a : α}
    {v : Except Failure β} (hx : Yields x (.ok a)) (hf : Yields (f a) v) :
    Yields (x >>= f) v := fun w => by
  obtain ⟨hres, hw⟩ := hx w
  rw [run_bind]
  rcases hrun : x.run.run w with ⟨r, w'⟩
  rw [hrun] at hres hw
  subst hres
  exact ⟨(hf w').1, hw.trans (hf w').2⟩

theorem yields_pure (a : α) : Yields (pure a : ExceptT Failure WorldM α) (.ok a) :=
  fun w => ⟨rfl, SameDisk.refl w⟩

theorem keepsDisk_pure (a : α) : KeepsDisk (pure a : ExceptT Failure WorldM α) :=
  (yields_pure a).keepsDisk

theorem keepsDisk_throw (f : Failure) : KeepsDisk (throw f : ExceptT Failure WorldM α) :=
  fun w => SameDisk.refl w

theorem keepsDisk_liftM {x : WorldM α} (hx : ∀ w, SameDisk w (x.run w).2) :
    KeepsDisk (liftM x : ExceptT Failure WorldM α) :=
  fun w => hx w

/-- A program that adds to the error stream only keeps the disk. -/
theorem keepsDisk_of_logs {x : ExceptT Failure WorldM α}
    (hx : ∀ w, ∃ e, (x.run.run w).2 = w.logs e) : KeepsDisk x := fun w => by
  obtain ⟨e, he⟩ := hx w
  rw [he]
  exact sameDisk_logs w e

/-! ## The steps of a command line -/

theorem keepsDisk_out (s : String) :
    KeepsDisk (liftM (Machine.out s : WorldM Unit) : ExceptT Failure WorldM Unit) :=
  keepsDisk_liftM fun _ => ⟨rfl, rfl, rfl, rfl, rfl⟩

theorem keepsDisk_input : KeepsDisk (liftM (Machine.input : WorldM String) : ExceptT Failure WorldM _) :=
  keepsDisk_liftM fun _ => ⟨rfl, rfl, rfl, rfl, rfl⟩

theorem keepsDisk_workingDir :
    KeepsDisk (liftM (Machine.workingDir : WorldM Path) : ExceptT Failure WorldM _) :=
  keepsDisk_liftM fun _ => SameDisk.refl _

theorem yields_printLine (s : String) :
    Yields (printLine s : ExceptT Failure WorldM Unit) (.ok ()) :=
  fun _ => ⟨rfl, ⟨rfl, rfl, rfl, rfl, rfl⟩⟩

theorem yields_leave (status : Nat) (words : String) :
    Yields (leave status words : ExceptT Failure WorldM Nat) (.ok status) := fun w => by
  unfold leave
  split
  · exact ⟨rfl, ⟨rfl, rfl, rfl, rfl, rfl⟩⟩
  · exact ⟨rfl, SameDisk.refl w⟩

theorem keepsDisk_loadSettings (depth : Nat) (written : Written) :
    KeepsDisk (loadSettings depth written : ExceptT Failure WorldM Settings) := fun w => by
  rw [run_loadSettings]
  exact SameDisk.refl w

theorem keepsDisk_liftSettings (e : Except SettingsError α) :
    KeepsDisk (liftSettings e : ExceptT Failure WorldM α) :=
  fun w => SameDisk.refl w

theorem keepsDisk_layoutText {logging : Option Logging} (hlog : ∀ l ∈ logging, l.file = none)
    (s : Settings) (text : String) :
    KeepsDisk (layoutText logging s text : ExceptT Failure WorldM String) := by
  obtain ⟨e, he⟩ := run_layoutText hlog s text
  exact keepsDisk_of_logs fun w => ⟨e, by rw [he]⟩

theorem keepsDisk_compactText {logging : Option Logging} (hlog : ∀ l ∈ logging, l.file = none)
    (d : Bool) (text : String) :
    KeepsDisk (liftM (compactText logging d text : WorldM String) : ExceptT Failure WorldM _) := by
  obtain ⟨e, he⟩ := run_compactText hlog d text
  exact keepsDisk_liftM fun w => by rw [he]; exact sameDisk_logs w e

theorem keepsDisk_checkText {logging : Option Logging} (hlog : ∀ l ∈ logging, l.file = none)
    (text : String) :
    KeepsDisk (liftM (checkText logging text : WorldM Report) : ExceptT Failure WorldM _) := by
  obtain ⟨e, he⟩ := run_checkText hlog text
  exact keepsDisk_liftM fun w => by rw [he]; exact sameDisk_logs w e

theorem keepsDisk_runValidate {logging : Option Logging} (hlog : ∀ l ∈ logging, l.file = none)
    (written : String) :
    KeepsDisk (runValidate logging written : ExceptT Failure WorldM (Path × Report)) :=
  keepsDisk_of_logs fun w => by
    obtain ⟨e, he⟩ := run_runValidate w hlog written
    exact ⟨e, by rw [he]⟩

/-- A step whose failure is handed to a handler runs the step, then the handler on its failure. -/
theorem run_attempt (w : World) (step : ExceptT Failure WorldM α)
    (handle : Failure → ExceptT Failure WorldM (Except Nat α)) :
    (attempt step handle).run.run w = match step.run.run w with
      | (.ok a, w') => (.ok (.ok a), w')
      | (.error f, w') => (handle f).run.run w' := by
  unfold attempt
  simp only [ExceptT.run_mk, StateT.run_bind]
  rcases step.run.run w with ⟨_ | a, w'⟩ <;> rfl

/-- A step whose failure is handed to a handler keeps the disk when both do. -/
theorem keepsDisk_attempt {step : ExceptT Failure WorldM α}
    {handle : Failure → ExceptT Failure WorldM (Except Nat α)} (hstep : KeepsDisk step)
    (hhandle : ∀ f, KeepsDisk (handle f)) : KeepsDisk (attempt step handle) := fun w => by
  have hw := hstep w
  rw [run_attempt]
  rcases hrun : step.run.run w with ⟨_ | a, w'⟩
  · rw [hrun] at hw
    exact hw.trans (hhandle _ w')
  · rw [hrun] at hw
    exact hw

/-- A loop keeps the disk when its body does. -/
theorem keepsDisk_forIn {γ : Type} (l : List γ) (init : α)
    {f : γ → α → ExceptT Failure WorldM (ForInStep α)} (hf : ∀ c b, KeepsDisk (f c b)) :
    KeepsDisk (forIn l init f) := by
  induction l generalizing init with
  | nil => exact keepsDisk_pure init
  | cons c rest ih =>
    rw [List.forIn_cons]
    refine (hf c init).bind fun step => ?_
    cases step with
    | done b => exact keepsDisk_pure b
    | yield b => exact ih b

theorem keepsDisk_formatInput {logging : Option Logging} (hlog : ∀ l ∈ logging, l.file = none)
    (depth : Nat) (command : String) (b : Bindings) :
    KeepsDisk (formatInput depth logging command b : ExceptT Failure WorldM Nat) := by
  unfold formatInput
  refine keepsDisk_workingDir.bind fun cwd => ?_
  refine (keepsDisk_attempt ((keepsDisk_loadSettings _ _).bind fun s => keepsDisk_liftSettings _)
    fun f => ?_).bind fun settings => ?_
  · split
    · exact (yields_leave _ _).keepsDisk.bind fun _ => keepsDisk_pure _
    · exact keepsDisk_throw f
  · cases settings with
    | error status => exact keepsDisk_pure status
    | ok s =>
      refine keepsDisk_input.bind fun text => ?_
      have hprint : ∀ output, KeepsDisk (printLine output >>= fun _ => pure 0 :
          ExceptT Failure WorldM Nat) := fun output =>
        (yields_printLine output).keepsDisk.bind fun _ => keepsDisk_pure 0
      dsimp only
      split
      · exact (keepsDisk_layoutText hlog s text).bind hprint
      · exact (keepsDisk_compactText hlog s.dropsComments text).bind hprint

theorem keepsDisk_validateCommand {logging : Option Logging}
    (hlog : ∀ l ∈ logging, l.file = none) (b : Bindings) :
    KeepsDisk (validateCommand logging b : ExceptT Failure WorldM Nat) := by
  have hprint : ∀ (line : String) (status : Nat), KeepsDisk (printLine line >>= fun _ => pure status :
      ExceptT Failure WorldM Nat) := fun line status =>
    (yields_printLine line).keepsDisk.bind fun _ => keepsDisk_pure status
  unfold validateCommand
  dsimp only
  split <;> refine KeepsDisk.bind ?_ fun checked => ?_
  · exact keepsDisk_input.bind fun text => (keepsDisk_checkText hlog text).bind fun r =>
      keepsDisk_pure _
  rotate_left
  · refine keepsDisk_attempt ((keepsDisk_runValidate hlog _).bind fun _ =>
      keepsDisk_workingDir.bind fun _ => keepsDisk_pure _) fun f => ?_
    split
    · exact (yields_leave _ _).keepsDisk.bind fun _ => keepsDisk_pure _
    · exact keepsDisk_throw f
  -- what is printed of the report, from the standard input or from a file alike
  all_goals
    rcases checked with status | ⟨label, r⟩
    · exact keepsDisk_pure status
    · dsimp only
      split
      · exact hprint _ _
      · split
        · exact hprint _ _
        · exact (keepsDisk_forIn _ _ fun _ _ => (yields_printLine _).keepsDisk.bind fun _ =>
            keepsDisk_pure _).bind fun _ => hprint _ _

@[simp] theorem run_pure (w : World) (a : α) :
    (pure a : ExceptT Failure WorldM α).run.run w = (.ok a, w) := rfl

theorem yields_throw_bind (f : Failure) (rest : α → ExceptT Failure WorldM β) :
    Yields (throw f >>= rest) (.error f) :=
  fun w => ⟨rfl, SameDisk.refl w⟩

theorem yields_out (s : String) :
    Yields (liftM (Machine.out s : WorldM Unit) : ExceptT Failure WorldM Unit) (.ok ()) :=
  fun _ => ⟨rfl, ⟨rfl, rfl, rfl, rfl, rfl⟩⟩

theorem Yields.workingDir_bind {f : Path → ExceptT Failure WorldM β} {v : Except Failure β}
    (hf : ∀ cwd, Yields (f cwd) v) :
    Yields (liftM (Machine.workingDir : WorldM Path) >>= f) v := fun w => by
  rw [run_bind, run_liftM, run_workingDir]
  exact hf w.cwd w

theorem run_map (w : World) (f : α → β) (x : ExceptT Failure WorldM α) :
    (f <$> x).run.run w = match x.run.run w with
      | (.ok a, w') => (.ok (f a), w')
      | (.error e, w') => (.error e, w') := by
  simp only [ExceptT.run_map, StateT.run_map]
  rcases x.run.run w with ⟨_ | a, w'⟩ <;> rfl

/-- A step handed to a handler, and what follows: from the step's run, the handler and the rest
yield the status. -/
theorem run_attempt_bind {γ : Type} {step : ExceptT Failure WorldM γ}
    {handle : Failure → ExceptT Failure WorldM (Except Nat γ)}
    {rest : Except Nat γ → ExceptT Failure WorldM β} {w w₁ : World} {res : Except Failure γ}
    {v : Except Failure β} {w₀ : World} (hstep : step.run.run w = (res, w₁))
    (hw₁ : SameDisk w₀ w₁) (hhandle : ∀ f, res = .error f → Yields (handle f >>= rest) v)
    (hrest : ∀ r, res = .ok r → Yields (rest (.ok r)) v) :
    ((attempt step handle >>= rest).run.run w).1 = v ∧
      SameDisk w₀ ((attempt step handle >>= rest).run.run w).2 := by
  rw [run_bind, run_attempt, hstep]
  cases res with
  | error f =>
    have h := hhandle f rfl w₁
    rw [run_bind] at h
    exact ⟨h.1, hw₁.trans h.2⟩
  | ok r => exact ⟨(hrest r rfl w₁).1, hw₁.trans (hrest r rfl w₁).2⟩

/-- The formatting step returns what `formatByLine` says and leaves the world `afterFormat` makes
of it; its records go to the error stream. -/
theorem run_formatStep (w : World) {logging : Option Logging}
    (hlog : ∀ l ∈ logging, l.file = none) (depth : Nat) (command : String) (b : Bindings) :
    ∃ e, (formatStep depth logging command b : ExceptT Failure WorldM Formatted).run.run w =
      (w.formatByLine depth command b, (w.afterFormat (w.formatByLine depth command b)).logs e) := by
  unfold formatStep
  dsimp only
  cases hc : b.text? "config" with
  | none =>
    obtain ⟨e, he⟩ := run_runFormat w hlog (depth + 2) none
      (if command = "prettify" then .layout else .compaction) ((b.text? "path").getD "-")
      (b.flag "write") (overridesOf command b)
    refine ⟨e, ?_⟩
    simp only [run_bind, run_pure, World.formatByLine, World.givenSettings, hc, except_ok_bind]
    exact he
  | some p =>
    simp only [run_bind, run_map, run_loadSettings]
    cases hl : w.loadSettings (depth + 2) (Written.parse p) with
    | error f =>
      refine ⟨"", ?_⟩
      simp [World.formatByLine, World.givenSettings, hc, hl, World.afterFormat, Except.map]
    | ok s =>
      obtain ⟨e, he⟩ := run_runFormat w hlog (depth + 2) (some s)
        (if command = "prettify" then .layout else .compaction) ((b.text? "path").getD "-")
        (b.flag "write") (overridesOf command b)
      refine ⟨e, ?_⟩
      simp only [World.formatByLine, World.givenSettings, hc, hl, Except.map, except_ok_bind]
      exact he

/-- **A file formatting by a command line ends with `formatStatus` of what the formatting came
to, and leaves the disk as that formatting leaves it.** -/
theorem run_formatFile (w : World) {logging : Option Logging}
    (hlog : ∀ l ∈ logging, l.file = none) (depth : Nat) (command : String) (b : Bindings) :
    ((formatFile depth logging command b : ExceptT Failure WorldM Nat).run.run w).1 =
        formatStatus b (w.formatByLine depth command b) ∧
      SameDisk (w.afterFormat (w.formatByLine depth command b))
        ((formatFile depth logging command b : ExceptT Failure WorldM Nat).run.run w).2 := by
  obtain ⟨e, hstep⟩ := run_formatStep w hlog depth command b
  unfold formatFile
  dsimp only
  refine run_attempt_bind hstep (sameDisk_logs _ e) (fun f hf => ?_) (fun r hr => ?_)
  · -- a failure: words on the error stream and status 1, or the failure itself
    rw [hf]
    simp only [formatStatus]
    by_cases h₁ : (f.isSettings || f.isMissing) = true
    · simp only [h₁, if_true]
      refine Yields.bind (a := .error 1) ?_ (yields_pure 1)
      exact Yields.bind (yields_leave _ _) (yields_pure _)
    · by_cases h₂ : f.isDisk = true
      · simp only [h₁, h₂, Bool.false_eq_true, if_true, if_false]
        refine Yields.bind (a := .error 1) ?_ (yields_pure 1)
        exact Yields.bind (yields_leave _ _) (yields_pure _)
      · simp only [h₁, h₂, Bool.false_eq_true, if_false]
        exact yields_throw_bind f _
  · -- a formatting: the status says whether a checked file would change
    rw [hr]
    simp only [formatStatus]
    refine Yields.workingDir_bind fun cwd => ?_
    by_cases hc : b.flag "check" = true
    · simp only [hc, if_true]
      by_cases hch : r.changed = true
      · simp only [hch, if_true]
        exact yields_leave 1 _
      · simp only [hch, Bool.false_eq_true, if_false]
        exact yields_pure 0
    · simp only [hc, Bool.false_eq_true, if_false]
      split
      · split
        · exact Yields.bind (yields_out _) (yields_pure 0)
        · exact yields_pure 0
      · split
        · exact Yields.bind (yields_printLine _) (yields_pure 0)
        · exact Yields.bind (yields_printLine _) (yields_pure 0)

/-! ## A whole command line -/

/-- A line that formats a file runs the file formatting, with records on the error stream. -/
theorem runCommandLine_of_fileCommand {depth : Nat} {words : List String} {b : Bindings}
    {command : String} (hb : readLine commandGrammar mainGrammar words = .ok b)
    (hlog : b.text? "log_file" = none) (hcmd : fileCommand? b = some command) :
    (runCommandLine depth words : ExceptT Failure WorldM Nat) =
      formatFile (depth + 1) (some ⟨b.flag "verbose", none⟩) command b := by
  unfold runCommandLine
  simp only [hb, hlog, pure_bind]
  unfold fileCommand? at hcmd
  split at hcmd
  · rename_i hc
    split at hcmd
    · cases hcmd
    · rename_i hpath
      cases hcmd
      simp only [hc, hpath, if_false]
  · rename_i hc
    split at hcmd
    · cases hcmd
    · rename_i hpath
      cases hcmd
      simp only [hc, hpath, if_false]
  · cases hcmd

/-- A line that formats no file keeps the disk. -/
theorem keepsDisk_runCommandLine_of_fileCommand_none {depth : Nat} {words : List String}
    {b : Bindings} (hb : readLine commandGrammar mainGrammar words = .ok b)
    (hlog : b.text? "log_file" = none) (hcmd : fileCommand? b = none) :
    KeepsDisk (runCommandLine depth words : ExceptT Failure WorldM Nat) := by
  have hfile : ∀ l ∈ (some ⟨b.flag "verbose", none⟩ : Option Logging), l.file = none := by
    simp
  unfold runCommandLine
  simp only [hb, hlog, pure_bind]
  unfold fileCommand? at hcmd
  split
  · rename_i hc
    simp only [hc] at hcmd
    split
    · split
      · exact (yields_leave _ _).keepsDisk
      · exact keepsDisk_formatInput hfile _ _ _
    · rename_i hpath
      simp [hpath] at hcmd
  · rename_i hc
    simp only [hc] at hcmd
    split
    · split
      · exact (yields_leave _ _).keepsDisk
      · exact keepsDisk_formatInput hfile _ _ _
    · rename_i hpath
      simp [hpath] at hcmd
  · exact keepsDisk_validateCommand hfile b
  · exact (yields_leave _ _).keepsDisk
  · exact (yields_leave _ _).keepsDisk

/-- A line that is refused, or asks for help, keeps the disk. -/
theorem keepsDisk_runCommandLine_of_error {depth : Nat} {words : List String} {stop : Stop}
    (hb : readLine commandGrammar mainGrammar words = .error stop) :
    KeepsDisk (runCommandLine depth words : ExceptT Failure WorldM Nat) := by
  unfold runCommandLine
  simp only [hb]
  cases stop with
  | shown text => exact (keepsDisk_out text).bind fun _ => keepsDisk_pure 0
  | refused text => exact (yields_leave 2 text).keepsDisk

/-- **A line that formats a file ends with the status of that formatting, and leaves the disk as
it leaves it.** -/
theorem run_runCommandLine_of_fileCommand (w : World) {depth : Nat} {words : List String}
    {b : Bindings} {command : String} (hb : readLine commandGrammar mainGrammar words = .ok b)
    (hlog : b.text? "log_file" = none) (hcmd : fileCommand? b = some command) :
    ((runCommandLine depth words : ExceptT Failure WorldM Nat).run.run w).1 =
        formatStatus b (w.formatByLine (depth + 1) command b) ∧
      SameDisk (w.afterFormat (w.formatByLine (depth + 1) command b))
        ((runCommandLine depth words : ExceptT Failure WorldM Nat).run.run w).2 := by
  rw [runCommandLine_of_fileCommand hb hlog hcmd]
  exact run_formatFile w (by simp) _ _ _

/-- **A command line that names no log file leaves the disk `World.afterLine` says.** -/
theorem sameDisk_runCommandLine (w : World) (depth : Nat) (words : List String)
    (hlog : ∀ b, readLine commandGrammar mainGrammar words = .ok b → b.text? "log_file" = none) :
    SameDisk (w.afterLine depth words)
      ((runCommandLine depth words : ExceptT Failure WorldM Nat).run.run w).2 := by
  cases hb : readLine commandGrammar mainGrammar words with
  | error stop =>
    simp only [World.afterLine, hb]
    exact keepsDisk_runCommandLine_of_error hb w
  | ok b =>
    cases hcmd : fileCommand? b with
    | none =>
      simp only [World.afterLine, hb, hcmd]
      exact keepsDisk_runCommandLine_of_fileCommand_none hb (hlog b hb) hcmd w
    | some command =>
      simp only [World.afterLine, hb, hcmd]
      exact (run_runCommandLine_of_fileCommand w hb (hlog b hb) hcmd).2

end Host.WorldM

end MarkupTidy
