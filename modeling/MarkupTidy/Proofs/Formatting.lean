import MarkupTidy.Proofs.Worlds

/-!
# Proofs/Formatting — what formatting a file does to a world

Formatting a file (`runFormat`) looks at the world, transforms a text, and may write one file
back. What it looks at is a value of the world: the document a written path names
(`World.document`), the settings for it (`World.settingsFor`), a file's text with uniform line
ends (`World.readText`). What it makes of them is `World.format`, through the transform of a text
(`Transform.apply`). When its records go to the error stream only:

* `run_runFormat` — the run returns `World.format`, and leaves the world `World.afterFormat`
  makes of it: the document rewritten when the result says it was written, every other file as
  it was; the error stream may grow;
* `run_runValidate` — checking a file leaves its world but for the error stream.
-/

namespace MarkupTidy

open MarkupTidy.Host MarkupTidy.Markup MarkupTidy.Text

@[simp] theorem except_ok_bind {ε α β : Type} (a : α) (f : α → Except ε β) :
    (Except.ok a >>= f) = f a := rfl

@[simp] theorem except_error_bind {ε α β : Type} (e : ε) (f : α → Except ε β) :
    (Except.error e >>= f) = Except.error e := rfl

@[simp] theorem except_map_ok {ε α β : Type} (a : α) (f : α → β) :
    (f <$> (Except.ok a : Except ε α)) = Except.ok (f a) := rfl

@[simp] theorem except_map_error {ε α β : Type} (e : ε) (f : α → β) :
    (f <$> (Except.error e : Except ε α)) = Except.error e := rfl

@[simp] theorem except_mapError_ok {ε ε' α : Type} (a : α) (f : ε → ε') :
    (Except.ok a : Except ε α).mapError f = Except.ok a := rfl

@[simp] theorem except_mapError_error {ε ε' α : Type} (e : ε) (f : ε → ε') :
    (Except.error e : Except ε α).mapError f = Except.error (f e) := rfl

namespace Host.Written

/-- A written path resolves to a path with its last part, when that part does not go up. -/
theorem name_resolve {wr : Written} {n : String} (h : wr.parts.getLast? = some n)
    (hn : n ≠ "..") (cwd : Path) : (wr.resolve cwd).name = n := by
  obtain ⟨init, hparts⟩ := List.getLast?_eq_some_iff.1 h
  simp [resolve, Path.name, hparts, hn]

end Host.Written

namespace Host.World

/-- The document a written path names, on a world: it must be a file. -/
def document (w : World) (written : String) : Except Failure Path :=
  match w.locate written with
  | none => .error .noHome
  | some p => if w.entry p = .file then .ok p else .error (.noDocument p)

/-- A file's text with uniform line ends, on a world. -/
def readText (w : World) (p : Path) : Except Failure String :=
  ((w.read p).mapError .disk).map String.uniformLineEnds

/-- The settings file a written path points to, on a world. -/
def settingsFile (w : World) (written : Written) : Except Failure Path :=
  match w.expandHome written with
  | none => .error .noHome
  | some wr =>
    if w.walk wr = .directory then .ok ((wr.child settingsFileName).resolve w.cwd)
    else if wr.name != settingsFileName then
      .ok ((wr.parent.child settingsFileName).resolve w.cwd)
    else .ok (wr.resolve w.cwd)

/-- The settings a written path points to, on a world. -/
def loadSettings (w : World) (depth : Nat) (written : Written) : Except Failure Settings := do
  let file ← w.settingsFile written
  if w.entry file = .missing then return {}
  (Settings.ofText (depth + 2) (← w.readText file)).mapError .settings

/-- The settings for a document, on a world. -/
def settingsFor (w : World) (depth : Nat) (given : Option Settings) (p : Path) :
    Except Failure Settings :=
  match given with
  | some s => .ok s
  | none => w.loadSettings (depth + 1) ⟨true, p.names⟩

end Host.World

/-- What a transform makes of a text with the given settings. -/
def Transform.apply (t : Transform) (s : Settings) (text : String) : Except Failure String :=
  match t with
  | .layout =>
    (((Indent.ofWidth s.indentSize s.useTabs).lines? text.toList).mapError .tooWide).map
      fun ls => String.ofList (List.intercalate ['\n'] ls)
  | .compaction => .ok (String.ofList (compact s.dropsComments text.toList))

namespace Host.World

@[simp] theorem readText_logs (w : World) (e : String) (p : Path) :
    (w.logs e).readText p = w.readText p := rfl

theorem entry_eq_file_iff {w : World} {p : Path} : w.entry p = .file ↔ (w.fileAt? p).isSome := by
  unfold World.entry
  split
  · simp_all
  · split <;> simp_all

/-- The document a written path names is a file. -/
theorem isSome_of_document {w : World} {written : String} {p : Path}
    (h : w.document written = .ok p) : (w.fileAt? p).isSome := by
  unfold document at h
  split at h
  · cases h
  · split at h
    · rename_i hfile
      cases h
      exact entry_eq_file_iff.1 hfile
    · cases h

/-- What formatting a file comes to on a world. -/
def format (w : World) (depth : Nat) (given : Option Settings) (t : Transform) (written : String)
    (write : Bool) (o : Overrides) : Except Failure Formatted := do
  let p ← w.document written
  let s ← w.settingsFor (depth + 1) given p
  let s ← (s.override (t.heeded o)).mapError .settings
  let before ← w.readText p
  let output ← t.apply s before
  let changed := output != before
  return ⟨p, output, changed, if changed then textDiff p.name before output else "",
    write && changed⟩

/-- The world formatting leaves: the document rewritten when the result was written. -/
def afterFormat (w : World) : Except Failure Formatted → World
  | .ok r => if r.written then w.setFile r.path r.output else w
  | .error _ => w

/-- What checking a file comes to on a world. -/
def validate (w : World) (written : String) : Except Failure (Path × Report) := do
  let p ← w.document written
  let text ← w.readText p
  return (p, Report.check text)

/-! ## What formatting reads -/

/-- A settings file is always named as one: beside a path, in a directory, or the path itself
when it names one. -/
theorem name_of_settingsFile {w : World} {written : Written} {q : Path}
    (h : w.settingsFile written = .ok q) : q.name = settingsFileName := by
  have hname : ∀ (wr : Written) cwd, wr.parts.getLast? = some settingsFileName →
      (wr.resolve cwd).name = settingsFileName := fun wr cwd hlast =>
    Written.name_resolve hlast (by decide) cwd
  unfold settingsFile at h
  split at h
  · cases h
  · rename_i wr _
    split at h
    · cases h
      exact hname _ _ (by simp [Written.child])
    · split at h
      · cases h
        exact hname _ _ (by simp [Written.child])
      · rename_i hset
        cases h
        -- the path is itself a settings file: its last part is the settings file's name
        refine hname _ _ ?_
        have hn : wr.name = settingsFileName := by simpa using hset
        unfold Written.name at hn
        cases hl : wr.parts.getLast? with
        | none => rw [hl] at hn; exact absurd hn (by decide)
        | some n => rw [hl] at hn; rw [← hn]; rfl

section SameTree

variable {w w' : World} (h : SameTree w w')
include h

theorem SameTree.read {p : Path} (hp : w.fileAt? p = w'.fileAt? p) : w.read p = w'.read p := by
  simp only [World.read, hp, h.faultAt p]

theorem SameTree.readText {p : Path} (hp : w.fileAt? p = w'.fileAt? p) :
    w.readText p = w'.readText p := by
  simp only [World.readText, h.read hp]

theorem SameTree.document (written : String) : w.document written = w'.document written := by
  simp only [World.document, h.locate, h.entry]

theorem SameTree.settingsFile (written : Written) :
    w.settingsFile written = w'.settingsFile written := by
  simp only [World.settingsFile, h.expandHome, h.walk, h.cwd]

/-- Worlds with the same tree and the same settings files load the same settings. -/
theorem SameTree.loadSettings
    (hcfg : ∀ q : Path, q.name = settingsFileName → w.fileAt? q = w'.fileAt? q)
    (depth : Nat) (written : Written) :
    w.loadSettings depth written = w'.loadSettings depth written := by
  rw [World.loadSettings, World.loadSettings, ← h.settingsFile]
  cases hf : w.settingsFile written with
  | error e => rfl
  | ok q => simp only [except_ok_bind, h.entry q, h.readText (hcfg q (name_of_settingsFile hf))]

theorem SameTree.settingsFor
    (hcfg : ∀ q : Path, q.name = settingsFileName → w.fileAt? q = w'.fileAt? q)
    (depth : Nat) (given : Option Settings) (p : Path) :
    w.settingsFor depth given p = w'.settingsFor depth given p := by
  cases given with
  | some s => rfl
  | none => exact h.loadSettings hcfg _ _

end SameTree

theorem readText_setFile_self (w : World) (p : Path) (text : String) :
    (w.setFile p text).readText p = .ok (String.uniformLineEnds text) := by
  simp only [readText, World.read, fileAt?_setFile]
  rfl

/-- A text read from a file holds no carriage return. -/
theorem not_mem_of_readText {w : World} {p : Path} {text : String} (h : w.readText p = .ok text) :
    '\r' ∉ text.toList := by
  simp only [readText, World.read] at h
  split at h
  · cases h
    rw [String.uniformLineEnds, String.toList_ofList]
    exact uniformLineEnds_no_return _
  · cases h

/-- **What a formatting that returns did**: it found the document and its settings, read the
text and transformed it, and its result compares the new text with the one read. -/
theorem exists_of_format_eq_ok {w : World} {depth : Nat} {given : Option Settings}
    {t : Transform} {written : String} {write : Bool} {o : Overrides} {r : Formatted}
    (h : w.format depth given t written write o = .ok r) :
    ∃ p s₀ s before output, w.document written = .ok p ∧
      w.settingsFor (depth + 1) given p = .ok s₀ ∧ s₀.override (t.heeded o) = .ok s ∧
      w.readText p = .ok before ∧ t.apply s before = .ok output ∧
      r = ⟨p, output, output != before,
        if output != before then textDiff p.name before output else "",
        write && (output != before)⟩ := by
  unfold format at h
  cases hd : w.document written with
  | error f => simp [hd, except_error_bind] at h
  | ok p =>
    cases hs : w.settingsFor (depth + 1) given p with
    | error f => simp [hd, hs] at h
    | ok s₀ =>
      cases ho : s₀.override (t.heeded o) with
      | error f => simp [hd, hs, ho] at h
      | ok s =>
        cases hr : w.readText p with
        | error f => simp [hd, hs, ho, hr] at h
        | ok before =>
          cases ha : t.apply s before with
          | error f => simp [hd, hs, ho, hr, ha] at h
          | ok output =>
            simp only [hd, hs, ho, hr, ha, except_mapError_ok,
              except_ok_bind] at h
            cases h
            exact ⟨p, s₀, s, before, output, rfl, hs, ho, hr, ha, rfl⟩

/-- Formatting changes no path of the tree: it rewrites the document only, which is a file. -/
theorem sameTree_afterFormat {w : World} {depth : Nat} {given : Option Settings}
    {t : Transform} {written : String} {write : Bool} {o : Overrides} :
    SameTree w (w.afterFormat (w.format depth given t written write o)) := by
  cases hf : w.format depth given t written write o with
  | error f => exact SameTree.refl w
  | ok r =>
    obtain ⟨p, s₀, s, before, output, hd, -, -, -, -, rfl⟩ := exists_of_format_eq_ok hf
    simp only [afterFormat]
    split
    · exact sameTree_setFile (isSome_of_document hd) _
    · exact SameTree.refl w

/-- A formatting that wrote its result holds it at its document; every other file is kept. -/
theorem fileAt?_afterFormat (w : World) (r : Formatted) (q : Path) :
    (w.afterFormat (.ok r)).fileAt? q =
      if r.written = true ∧ q = r.path then some r.output else w.fileAt? q := by
  unfold afterFormat
  by_cases hw : r.written = true
  · simp only [hw, if_true, true_and, fileAt?_setFile]
  · simp only [hw, Bool.false_eq_true, if_false, false_and]

/-- A formatting changes no file but its document. -/
theorem fileAt?_afterFormat_of_ne {w : World} {res : Except Failure Formatted} {q : Path}
    (hq : ∀ r, res = .ok r → q ≠ r.path) : (w.afterFormat res).fileAt? q = w.fileAt? q := by
  cases res with
  | error f => rfl
  | ok r => simp [fileAt?_afterFormat, hq r rfl]

/-- A formatting whose document is no settings file keeps the settings files. -/
theorem fileAt?_afterFormat_of_settings {w : World} {res : Except Failure Formatted}
    (h : ∀ r, res = .ok r → r.path.name ≠ settingsFileName) {q : Path}
    (hq : q.name = settingsFileName) : (w.afterFormat res).fileAt? q = w.fileAt? q :=
  fileAt?_afterFormat_of_ne fun r hr hqr => h r hr (hqr ▸ hq)

end Host.World

/-- What a record adds to the error stream. -/
def recordText (logging : Option Logging) (level : Level) (message : String) : String :=
  match logging with
  | some l => if l.admits level then "[htmlfmt] " ++ level.label ++ " " ++ message ++ "\n" else ""
  | none => ""

namespace Host.WorldM

variable (w : World)

@[simp] theorem run_liftM {ε α : Type} (x : WorldM α) :
    (liftM x : ExceptT ε WorldM α).run.run w = (.ok (x.run w).1, (x.run w).2) := rfl

theorem run_mk_pure {ε α : Type} (x : Except ε α) :
    (ExceptT.mk (pure x) : ExceptT ε WorldM α).run.run w = (x, w) := rfl

theorem run_onDisk {α : Type} (x : WorldM (Except DiskError α)) :
    (onDisk x).run.run w = ((x.run w).1.mapError .disk, (x.run w).2) := rfl

@[simp] theorem run_liftSettings {α : Type} (e : Except SettingsError α) :
    (liftSettings e : ExceptT Failure WorldM α).run.run w = (e.mapError .settings, w) := rfl

theorem run_document (written : String) :
    (document written : ExceptT Failure WorldM Path).run.run w = (w.document written, w) := by
  unfold document World.document
  simp only [run_bind, run_liftM, run_locate]
  cases w.locate written with
  | none => rfl
  | some p =>
    simp only [run_bind, run_liftM, run_entry]
    split <;> rfl

theorem run_readText (p : Path) :
    (readText p : ExceptT Failure WorldM String).run.run w = (w.readText p, w) := by
  unfold readText World.readText
  simp only [run_bind, run_onDisk, run_read]
  cases w.read p <;> rfl

theorem run_settingsFile (written : Written) :
    (settingsFile written : ExceptT Failure WorldM Path).run.run w =
      (w.settingsFile written, w) := by
  unfold settingsFile World.settingsFile
  simp only [run_bind, run_liftM, run_workingDir, run_expandHome]
  cases w.expandHome written with
  | none => rfl
  | some wr =>
    simp only [run_bind, run_liftM, run_walk]
    split
    · rfl
    · split <;> rfl

theorem run_loadSettings (depth : Nat) (written : Written) :
    (loadSettings depth written : ExceptT Failure WorldM Settings).run.run w =
      (w.loadSettings depth written, w) := by
  unfold loadSettings World.loadSettings
  simp only [run_bind, run_settingsFile]
  cases w.settingsFile written with
  | error e => rfl
  | ok file =>
    simp only [run_liftM, run_entry, except_ok_bind]
    by_cases hm : w.entry file = .missing
    · simp only [hm, if_true]
      rfl
    · simp only [hm, if_false, run_bind, run_readText]
      cases w.readText file <;> rfl

theorem run_settingsFor (depth : Nat) (given : Option Settings) (p : Path) :
    (settingsFor depth given p : ExceptT Failure WorldM Settings).run.run w =
      (w.settingsFor depth given p, w) := by
  cases given with
  | some s => rfl
  | none => exact run_loadSettings w _ _

/-- A record sent to the error stream only changes nothing else. -/
theorem run_record {logging : Option Logging} (hlog : ∀ l ∈ logging, l.file = none)
    (level : Level) (part message : String) :
    (record logging level part message : WorldM Unit).run w =
      ((), w.logs (recordText logging level message)) := by
  cases logging with
  | none => simp [record, recordText]; rfl
  | some l =>
    have hfile : l.file = none := hlog l rfl
    by_cases ha : l.admits level = true
    · simp only [record, recordText, ha, if_true, hfile, StateT.run_bind, run_err]
      rfl
    · simp [record, recordText, ha]
      rfl

theorem run_layoutText {logging : Option Logging} (hlog : ∀ l ∈ logging, l.file = none)
    (s : Settings) (text : String) :
    ∃ e, ∀ w, (layoutText logging s text : ExceptT Failure WorldM String).run.run w =
      (Transform.layout.apply s text, w.logs e) := by
  unfold layoutText Transform.apply
  cases (Indent.ofWidth s.indentSize s.useTabs).lines? text.toList with
  | error e => exact ⟨"", fun w => by simp; rfl⟩
  | ok ls =>
    refine ⟨recordText logging .debug ("Prettified " ++ toString (segments text.toList).length ++
      " segments into " ++ toString ls.length ++ " lines"), fun w => ?_⟩
    simp only [run_bind, run_mk_pure, except_mapError_ok, run_liftM,
      run_record _ hlog]
    rfl

theorem run_compactText {logging : Option Logging} (hlog : ∀ l ∈ logging, l.file = none)
    (dropsComments : Bool) (text : String) :
    ∃ e, ∀ w, (compactText logging dropsComments text : WorldM String).run w =
      (String.ofList (compact dropsComments text.toList), w.logs e) := by
  refine ⟨recordText logging .debug ("Minified " ++ toString text.length ++
    " characters down to " ++ toString (compact dropsComments text.toList).length), fun w => ?_⟩
  simp only [compactText, StateT.run_bind, run_record _ hlog]
  rfl

/-- A transform's run returns what the transform makes of the text, and only logs. -/
theorem run_transformText {logging : Option Logging} (hlog : ∀ l ∈ logging, l.file = none)
    (t : Transform) (s : Settings) (text : String) :
    ∃ e, ∀ w, (transformText logging t s text : ExceptT Failure WorldM String).run.run w =
      (t.apply s text, w.logs e) := by
  cases t with
  | layout => exact run_layoutText hlog s text
  | compaction =>
    obtain ⟨e, he⟩ := run_compactText hlog s.dropsComments text
    exact ⟨e, fun w => by simp only [transformText, run_liftM, he]; rfl⟩

theorem run_checkText {logging : Option Logging} (hlog : ∀ l ∈ logging, l.file = none)
    (text : String) :
    ∃ e, ∀ w, (checkText logging text : WorldM Report).run w = (Report.check text, w.logs e) := by
  refine ⟨recordText logging .debug ("Validated " ++ toString (Report.check text).tagCount ++
    " tags, " ++ toString (Report.check text).issues.length ++ " issue(s)"), fun w => ?_⟩
  simp only [checkText, StateT.run_bind, run_record _ hlog]
  rfl

theorem run_runFormat {logging : Option Logging} (hlog : ∀ l ∈ logging, l.file = none)
    (depth : Nat) (given : Option Settings) (t : Transform) (written : String) (write : Bool)
    (o : Overrides) :
    ∃ e, (runFormat depth logging given t written write o :
        ExceptT Failure WorldM Formatted).run.run w =
      (w.format depth given t written write o,
        (w.afterFormat (w.format depth given t written write o)).logs e) := by
  unfold runFormat
  rw [run_bind, run_document]
  cases hd : w.document written with
  | error f => exact ⟨"", by simp [World.format, hd, World.afterFormat]⟩
  | ok p =>
    have hp : (w.fileAt? p).isSome := World.isSome_of_document hd
    dsimp only
    rw [run_bind, run_settingsFor]
    cases hs : w.settingsFor (depth + 1) given p with
    | error f => exact ⟨"", by simp [World.format, hd, hs, World.afterFormat]⟩
    | ok s₀ =>
      dsimp only
      rw [run_bind, run_liftSettings]
      cases ho : s₀.override (t.heeded o) with
      | error f =>
        exact ⟨"", by simp [World.format, hd, hs, ho, World.afterFormat]⟩
      | ok s =>
        simp only [except_mapError_ok]
        rw [run_bind, run_liftM, run_record w hlog]
        dsimp only
        rw [run_bind, run_readText, World.readText_logs]
        cases hr : w.readText p with
        | error f =>
          simp only [World.format, hd, hs, ho, hr, except_mapError_ok,
            except_ok_bind,
            except_error_bind, World.afterFormat]
          exact ⟨_, rfl⟩
        | ok before =>
          obtain ⟨e₂, he₂⟩ := run_transformText hlog t s before
          dsimp only
          rw [run_bind, he₂]
          cases ha : t.apply s before with
          | error f =>
            simp only [World.format, hd, hs, ho, hr, ha, except_mapError_ok, except_ok_bind,
              except_error_bind, World.afterFormat, World.logs_logs]
            exact ⟨_, rfl⟩
          | ok output =>
            dsimp only
            have hf : w.format depth given t written write o = .ok ⟨p, output, output != before,
                if output != before then textDiff p.name before output else "",
                write && (output != before)⟩ := by
              simp only [World.format, hd, hs, ho, hr, ha, except_mapError_ok, except_ok_bind]
              rfl
            rw [hf]
            simp only [World.afterFormat]
            by_cases hc : output = before
            · -- an unchanged text is left alone
              have hc' : (output != before) = false := by simp [hc]
              simp only [hc', Bool.not_false, if_true, Bool.and_false, Bool.false_eq_true, if_false]
              rw [run_bind, run_liftM, run_record _ hlog]
              simp only [World.logs_logs]
              exact ⟨_, rfl⟩
            · have hc' : (output != before) = true := by simp [hc]
              simp only [hc', Bool.not_true, Bool.false_eq_true, if_false, Bool.and_true, if_true]
              cases write with
              | true =>
                simp only [if_true]
                rw [run_bind, run_onDisk, run_write_of_isSome _ (by simpa using hp)]
                simp only [except_mapError_ok]
                rw [run_bind, run_liftM, run_record _ hlog]
                simp only [World.setFile_logs, World.logs_logs]
                exact ⟨_, rfl⟩
              | false =>
                simp only [Bool.false_eq_true, if_false]
                rw [run_bind, run_liftM, run_record _ hlog]
                simp only [World.logs_logs]
                exact ⟨_, rfl⟩

/-- Checking a file returns what `World.validate` makes of the world, and only logs. -/
theorem run_runValidate {logging : Option Logging} (hlog : ∀ l ∈ logging, l.file = none)
    (written : String) :
    ∃ e, (runValidate logging written : ExceptT Failure WorldM (Path × Report)).run.run w =
      (w.validate written, w.logs e) := by
  unfold runValidate
  rw [run_bind, run_document]
  cases hd : w.document written with
  | error f => exact ⟨"", by simp [World.validate, hd]⟩
  | ok p =>
    dsimp only
    rw [run_bind, run_liftM, run_record w hlog]
    dsimp only
    rw [run_bind, run_readText, World.readText_logs]
    cases hr : w.readText p with
    | error f =>
      simp only [World.validate, hd, hr, except_ok_bind, except_error_bind]
      exact ⟨_, rfl⟩
    | ok text =>
      obtain ⟨e₂, he₂⟩ := run_checkText hlog text
      dsimp only
      rw [run_bind, run_liftM, he₂]
      dsimp only
      have hv : w.validate written = .ok (p, Report.check text) := by
        simp only [World.validate, hd, hr, except_ok_bind]
        rfl
      rw [hv]
      -- the last record says whether the report is valid; either way it only logs
      split <;>
      · rw [run_bind, run_liftM, run_record _ hlog]
        simp only [World.logs_logs]
        exact ⟨_, rfl⟩

end Host.WorldM

end MarkupTidy
