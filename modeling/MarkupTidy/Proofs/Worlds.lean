import MarkupTidy.Cli.Run
import MarkupTidy.Host.World

/-!
# Proofs/Worlds — programs run on a machine held as a value

A program in `WorldM` runs on a world (`Host/World`). Each step the host offers has a run lemma:
what it returns and which world it leaves (`run_entry`, `run_read`, `run_write`, …). The steps
that only look at the world return a value of the world, read off by `World.expandHome`,
`World.locate` and `World.walk`. A program in `ExceptT Failure WorldM` runs bind by bind
(`run_bind`).

What a path names depends on where the files are and which directories there are, never on
what the files hold: worlds with the same tree (`SameTree`) name every path alike, and
rewriting a file that is there keeps the tree (`sameTree_setFile`). Records sent to the error
stream only (`World.logs`) keep it too.
-/

namespace MarkupTidy.Host

namespace World

/-! ## Files -/

/-- The paths of a world's files. -/
def paths (w : World) : List Path := w.files.map Prod.fst

theorem isSome_fileAt? {w : World} {p : Path} : (w.fileAt? p).isSome ↔ p ∈ w.paths := by
  simp only [fileAt?, Option.isSome_map, List.find?_isSome, paths, List.mem_map,
    decide_eq_true_eq]

/-- Rewriting the entries at one path: the search for a path finds the new text there, and
the old entry anywhere else. -/
theorem find?_map_update (l : List (Path × String)) (p q : Path) (text : String) :
    ((l.map fun f => if f.1 = p then (p, text) else f).find? fun f => f.1 = q).map Prod.snd =
      if q = p then (l.find? fun f => f.1 = p).map fun _ => text
      else (l.find? fun f => f.1 = q).map Prod.snd := by
  induction l with
  | nil => simp
  | cons f l ih =>
    by_cases hqp : q = p
    · subst hqp
      by_cases hfq : f.1 = q
      · simp [hfq]
      · rw [if_pos rfl] at ih
        rw [List.map_cons, if_neg hfq, List.find?_cons_of_neg (by simpa using hfq),
          List.find?_cons_of_neg (by simpa using hfq), ih, if_pos rfl]
    · rw [if_neg hqp] at ih
      rw [if_neg hqp]
      by_cases hfp : f.1 = p
      · have hfq : ¬ f.1 = q := fun h => hqp (h ▸ hfp)
        rw [List.map_cons, if_pos hfp, List.find?_cons_of_neg (by simpa using Ne.symm hqp),
          List.find?_cons_of_neg (by simpa using hfq), ih]
      · rw [List.map_cons, if_neg hfp]
        by_cases hfq : f.1 = q
        · rw [List.find?_cons_of_pos (by simpa using hfq), List.find?_cons_of_pos (by simpa using hfq)]
        · rw [List.find?_cons_of_neg (by simpa using hfq), List.find?_cons_of_neg (by simpa using hfq), ih]

theorem fileAt?_setFile (w : World) (p q : Path) (text : String) :
    (w.setFile p text).fileAt? q = if q = p then some text else w.fileAt? q := by
  unfold setFile
  split
  · rename_i hp
    simp only [fileAt?, find?_map_update]
    split
    · rename_i hq
      subst hq
      obtain ⟨t, ht⟩ := Option.isSome_iff_exists.1 hp
      simp only [fileAt?, Option.map_eq_some_iff] at ht
      obtain ⟨f, hf, -⟩ := ht
      rw [hf]
      rfl
    · rfl
  · rename_i hp
    have hnone : (w.files.find? fun f => f.1 = p) = none := by
      rw [fileAt?, Option.isSome_map, Bool.not_eq_true, Option.isSome_eq_false_iff] at hp
      exact Option.isNone_iff_eq_none.1 hp
    simp only [fileAt?, List.find?_append]
    by_cases hq : q = p
    · subst hq
      simp [hnone]
    · simp [hq, Ne.symm hq]

/-- Rewriting a file that is there keeps every file where it is. -/
theorem paths_setFile {w : World} {p : Path} (h : (w.fileAt? p).isSome) (text : String) :
    (w.setFile p text).paths = w.paths := by
  simp only [setFile, h, if_true, paths, List.map_map]
  congr 1
  funext f
  by_cases hf : f.1 = p <;> simp [hf]

/-- A world with more written to its error stream. -/
def logs (w : World) (e : String) : World := { w with err := w.err ++ e }

@[simp] theorem logs_logs (w : World) (e e' : String) : (w.logs e).logs e' = w.logs (e ++ e') := by
  simp [logs, String.append_assoc]

@[simp] theorem logs_empty (w : World) : w.logs "" = w := by
  simp [logs]

@[simp] theorem files_logs (w : World) (e : String) : (w.logs e).files = w.files := rfl

@[simp] theorem fileAt?_logs (w : World) (e : String) : (w.logs e).fileAt? = w.fileAt? := rfl

theorem setFile_logs (w : World) (e : String) (p : Path) (text : String) :
    (w.logs e).setFile p text = (w.setFile p text).logs e := by
  rw [setFile, setFile, fileAt?_logs]
  by_cases h : (w.fileAt? p).isSome = true <;> simp [h, logs]

/-! ## Worlds with the same tree -/

/-- Two worlds hold files at the same paths and the same directories, and share the working and
home directories and the users: what a path names is the same in both. -/
structure SameTree (w w' : World) : Prop where
  paths : w.paths = w'.paths
  dirs : w.dirs = w'.dirs
  cwd : w.cwd = w'.cwd
  home : w.home = w'.home
  users : w.users = w'.users

theorem SameTree.refl (w : World) : SameTree w w := ⟨rfl, rfl, rfl, rfl, rfl⟩

theorem SameTree.symm {w w' : World} (h : SameTree w w') : SameTree w' w :=
  ⟨h.1.symm, h.2.symm, h.3.symm, h.4.symm, h.5.symm⟩

theorem SameTree.trans {w₁ w₂ w₃ : World} (h₁ : SameTree w₁ w₂) (h₂ : SameTree w₂ w₃) :
    SameTree w₁ w₃ :=
  ⟨h₁.1.trans h₂.1, h₁.2.trans h₂.2, h₁.3.trans h₂.3, h₁.4.trans h₂.4, h₁.5.trans h₂.5⟩

theorem sameTree_setFile {w : World} {p : Path} (h : (w.fileAt? p).isSome) (text : String) :
    SameTree w (w.setFile p text) := by
  refine ⟨(paths_setFile h text).symm, ?_, ?_, ?_, ?_⟩ <;> (unfold setFile; simp [h])

theorem sameTree_logs (w : World) (e : String) : SameTree w (w.logs e) := ⟨rfl, rfl, rfl, rfl, rfl⟩

/-- A search over the files that looks at their paths only. -/
theorem any_files (w : World) (P : Path → Bool) : w.files.any (fun f => P f.1) = w.paths.any P := by
  simp [paths, List.any_map, Function.comp_def]

section SameTree

variable {w w' : World} (h : SameTree w w')
include h

theorem SameTree.isSome_fileAt? (p : Path) : (w.fileAt? p).isSome = (w'.fileAt? p).isSome := by
  rw [Bool.eq_iff_iff, World.isSome_fileAt?, World.isSome_fileAt?, h.paths]

theorem SameTree.isDirectory (p : Path) : w.isDirectory p = w'.isDirectory p := by
  simp only [World.isDirectory, any_files (P := fun q => p.names.isPrefixOf q.names && p != q),
    h.paths, h.dirs]

theorem SameTree.throughFile (p : Path) : w.throughFile p = w'.throughFile p := by
  simp only [World.throughFile, any_files (P := fun q => q.names.isPrefixOf p.names && q != p),
    h.paths]

theorem SameTree.entry (p : Path) : w.entry p = w'.entry p := by
  simp only [World.entry, h.isSome_fileAt? p, h.isDirectory p]

theorem SameTree.faultAt (p : Path) : w.faultAt p = w'.faultAt p := by
  simp only [World.faultAt, h.isDirectory p, h.throughFile p]

theorem SameTree.canMake (p : Path) : w.canMake p = w'.canMake p := by
  simp only [World.canMake, h.isDirectory, h.throughFile]

end SameTree

/-! ## Looking at a world -/

/-- A written path with the home directory its first part names put in, on a world. -/
def expandHome (w : World) (wr : Written) : Option Written :=
  match wr.homeUser? with
  | none => some wr
  | some "" => some (wr.fromHome w.home)
  | some u => (w.users.lookup u).map wr.fromHome

/-- The absolute path a written path names, on a world. -/
def locate (w : World) (written : String) : Option Path :=
  (w.expandHome (Written.parse written)).map (·.resolve w.cwd)

/-- What a walk along parts from a path finds, on a world. -/
def walkFrom (w : World) : List String → Path → Entry
  | [], p => w.entry p
  | part :: rest, p =>
    if w.entry p != .directory then .missing
    else w.walkFrom rest (if part = ".." then p.parent else p.child part)

/-- What a written path names when walked part by part, on a world. -/
def walk (w : World) (wr : Written) : Entry :=
  w.walkFrom wr.parts (if wr.absolute then Path.root else w.cwd)

/-- A file's text, or why it cannot be read, on a world. -/
def read (w : World) (p : Path) : Except DiskError String :=
  match w.fileAt? p with
  | some text => .ok text
  | none => .error ⟨w.faultAt p, p⟩

section SameTree

variable {w w' : World} (h : SameTree w w')
include h

theorem SameTree.expandHome (wr : Written) : w.expandHome wr = w'.expandHome wr := by
  simp only [World.expandHome, h.home, h.users]

theorem SameTree.locate (written : String) : w.locate written = w'.locate written := by
  simp only [World.locate, h.expandHome, h.cwd]

theorem SameTree.walkFrom (parts : List String) (p : Path) :
    w.walkFrom parts p = w'.walkFrom parts p := by
  induction parts generalizing p with
  | nil => exact h.entry p
  | cons part rest ih => simp only [World.walkFrom, h.entry p, ih]

theorem SameTree.walk (wr : Written) : w.walk wr = w'.walk wr := by
  simp only [World.walk, h.walkFrom, h.cwd]

end SameTree

end World

/-! ## Run lemmas -/

namespace WorldM

open World

variable (w : World)

@[simp] theorem run_entry (p : Path) : (Machine.entry p : WorldM Entry).run w = (w.entry p, w) := rfl

@[simp] theorem run_read (p : Path) : (Machine.read p : WorldM _).run w = (w.read p, w) := by
  simp only [Machine.read, World.read, StateT.run_bind, StateT.run_get, pure_bind]
  cases w.fileAt? p <;> rfl

/-- Writing a file that is there replaces its text. -/
theorem run_write_of_isSome {p : Path} (h : (w.fileAt? p).isSome) (text : String) :
    (Machine.write p text : WorldM _).run w = (.ok (), w.setFile p text) := by
  obtain ⟨t, ht⟩ := Option.isSome_iff_exists.1 h
  simp only [Machine.write, StateT.run_bind, StateT.run_get, pure_bind, ht]
  rfl

@[simp] theorem run_workingDir : (Machine.workingDir : WorldM Path).run w = (w.cwd, w) := rfl

@[simp] theorem run_homeDir : (Machine.homeDir : WorldM Path).run w = (w.home, w) := rfl

@[simp] theorem run_userHome (u : String) :
    (Machine.userHome u : WorldM (Option Path)).run w = (w.users.lookup u, w) := rfl

@[simp] theorem run_err (s : String) : (Machine.err s : WorldM Unit).run w = ((), w.logs s) := rfl

@[simp] theorem run_expandHome (wr : Written) :
    (Host.expandHome wr : WorldM (Option Written)).run w = (w.expandHome wr, w) := by
  unfold Host.expandHome World.expandHome
  split <;> simp_all <;> rfl

@[simp] theorem run_locate (written : String) :
    (Host.locate written : WorldM (Option Path)).run w = (w.locate written, w) := by
  simp [Host.locate, World.locate]
  rfl

theorem run_walk_go (parts : List String) (p : Path) :
    (Host.walk.go parts p : WorldM Entry).run w = (w.walkFrom parts p, w) := by
  induction parts generalizing p with
  | nil => rfl
  | cons part rest ih =>
    simp only [Host.walk.go, walkFrom, StateT.run_bind]
    show (if w.entry p != .directory then _ else _ : WorldM Entry).run w = _
    split
    · rfl
    · exact ih _

@[simp] theorem run_walk (wr : Written) : (Host.walk wr : WorldM Entry).run w = (w.walk wr, w) := by
  unfold Host.walk World.walk
  -- an absolute path walks from the root, any other from the working directory
  cases wr.absolute with
  | true => simp [run_walk_go]
  | false => simp [run_walk_go]; rfl

/-- A run of a program that may fail goes bind by bind, and stops at the first failure. -/
theorem run_bind {ε α β : Type} (x : ExceptT ε WorldM α) (f : α → ExceptT ε WorldM β) :
    (x >>= f).run.run w = match x.run.run w with
      | (.ok a, w') => (f a).run.run w'
      | (.error e, w') => (.error e, w') := by
  simp only [ExceptT.run_bind, StateT.run_bind]
  rcases x.run.run w with ⟨_ | a, w'⟩ <;> rfl

end WorldM

end MarkupTidy.Host
