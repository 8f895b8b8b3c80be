import MarkupTidy.Proofs.CommandLine
import MarkupTidy.Proofs.Relayout
import MarkupTidy.Proofs.Compaction
import MarkupTidy.Proofs.Uncommenting

/-!
# Proofs/Stability — formatting a file twice

A file is read with uniform line ends, so the text a run transforms holds no carriage return.
Neither transform makes one: layout writes the characters of the text, the `<` and `>` its
seams took, indentation and line feeds (`mem_of_mem_layout`), and compaction the characters of
the text and spaces (`mem_or_space_of_mem_compact`). So what a run writes reads back as it was
written (`readText_setFile_of_apply`), and the transforms leave their own output alone
(`Transform.apply_apply`).

* `format_rerun` — on the world a formatting that may write leaves, the same formatting finds
  the file unchanged, as long as the run did not rewrite a settings file: the text it reads is
  the text it wrote, the settings are those it had, and the transform keeps its own output.
* `formatting_stable` — the same for a whole run, and for a command line that writes a file
  followed by one that checks it.
-/

namespace MarkupTidy

open MarkupTidy.Host MarkupTidy.Markup MarkupTidy.Text MarkupTidy.Cli

namespace Markup

/-! ## The characters a transform writes -/

theorem mem_of_mem_intercalate {α : Type} {sep : List α} {ls : List (List α)} {c : α}
    (h : c ∈ sep.intercalate ls) : c ∈ sep ∨ ∃ l ∈ ls, c ∈ l := by
  induction ls with
  | nil => simp at h
  | cons l rest ih =>
    cases rest with
    | nil => exact .inr ⟨l, List.mem_singleton_self l, by simpa using h⟩
    | cons l' rest' =>
      rw [List.intercalate_cons_cons, List.mem_append, List.mem_append] at h
      rcases h with (hl | hsep) | hrest
      · exact .inr ⟨l, List.mem_cons_self, hl⟩
      · exact .inl hsep
      · rcases ih hrest with hsep | ⟨l'', hl'', hc⟩
        · exact .inl hsep
        · exact .inr ⟨l'', List.mem_cons_of_mem _ hl'', hc⟩

/-- Every segment of a text is a piece of it. -/
theorem isInfix_of_mem_segments {s : List Char} : ∀ seg ∈ segments s, seg <:+: s := by
  fun_induction segments s with
  | case1 => simp
  | case2 rest after h _ ih =>
    -- what follows the seam is a suffix of the text
    have hsuf : after <:+ '>' :: rest :=
      (List.suffix_cons '<' after).trans
        (h ▸ (List.dropWhile_suffix isBlank).trans (List.suffix_cons '>' rest))
    exact List.forall_mem_cons.2 ⟨List.nil_infix, fun seg hseg => (ih seg hseg).trans hsuf.isInfix⟩
  | case3 rest _ ih | case4 _ rest _ ih =>
    obtain ⟨first, more, hs, hpre⟩ := exists_segments_eq_cons rest
    rw [hs] at ih ⊢
    rw [segments_prepend_cons]
    refine List.forall_mem_cons.2 ⟨(List.cons_prefix_cons.2 ⟨rfl, hpre⟩).isInfix, ?_⟩
    exact fun seg hseg =>
      (ih seg (List.mem_cons_of_mem _ hseg)).trans (List.suffix_cons _ rest).isInfix

/-- A placed line is made of characters of the segments and the `<` and `>` the seams took. -/
theorem mem_of_mem_placedFrom {depth : Nat} {first : Bool} {segs : List (List Char)}
    {p : Nat × List Char} (hp : p ∈ placedFrom depth first segs) {c : Char} (hc : c ∈ p.2) :
    c = '<' ∨ c = '>' ∨ ∃ seg ∈ segs, c ∈ seg := by
  induction segs generalizing depth first with
  | nil => simp [placedFrom] at hp
  | cons seg rest ih =>
    have hseg : c ∈ trim seg → c = '<' ∨ c = '>' ∨ ∃ seg' ∈ seg :: rest, c ∈ seg' :=
      fun h => .inr (.inr ⟨seg, List.mem_cons_self, (trim_isInfix seg).subset h⟩)
    have hrest : (c = '<' ∨ c = '>' ∨ ∃ seg' ∈ rest, c ∈ seg') →
        c = '<' ∨ c = '>' ∨ ∃ seg' ∈ seg :: rest, c ∈ seg' := by
      rintro (h | h | ⟨seg', hseg', h⟩)
      · exact .inl h
      · exact .inr (.inl h)
      · exact .inr (.inr ⟨seg', List.mem_cons_of_mem _ hseg', h⟩)
    simp only [placedFrom] at hp
    split at hp
    · exact hrest (ih hp)
    · rcases List.mem_cons.1 hp with rfl | hp
      · -- the line itself: the trimmed segment, with the brackets given back
        simp only [List.mem_append] at hc
        rcases hc with hc | hc
        · split at hc
          · exact hseg hc
          · rcases List.mem_cons.1 hc with h | h
            · exact .inl h
            · exact hseg h
        · split at hc
          · simp at hc
          · exact .inr (.inl (List.mem_singleton.1 hc))
      · exact hrest (ih hp)

/-- Indentation is spaces or tabs. -/
theorem mem_of_mem_text {i : Indent} {depth : Nat} {c : Char} (h : c ∈ i.text depth) :
    c = ' ' ∨ c = '\t' := by
  cases i with
  | tab => exact .inr (List.eq_of_mem_replicate h)
  | spaces n => exact .inl (List.eq_of_mem_replicate h)

/-- **Layout writes the characters of the text, the brackets its seams took, indentation and
line feeds, and nothing else.** -/
theorem mem_of_mem_layout {i : Indent} {s out : List Char} (h : layout i s = .ok out) {c : Char}
    (hc : c ∈ out) : c ∈ s ∨ c = '<' ∨ c = '>' ∨ c = '\n' ∨ c = ' ' ∨ c = '\t' := by
  simp only [layout, Indent.lines?] at h
  cases hfits : i.fits ((placed s).map Prod.fst) with
  | error e => simp [hfits] at h
  | ok u =>
    simp only [hfits] at h
    cases h
    rcases mem_of_mem_intercalate hc with hsep | ⟨l, hl, hcl⟩
    · exact .inr (.inr (.inr (.inl (List.mem_singleton.1 hsep))))
    · obtain ⟨p, hp, rfl⟩ := List.mem_map.1 hl
      rcases List.mem_append.1 hcl with hind | hline
      · rcases mem_of_mem_text hind with h | h
        · exact .inr (.inr (.inr (.inr (.inl h))))
        · exact .inr (.inr (.inr (.inr (.inr h))))
      · rcases mem_of_mem_placedFrom hp hline with h | h | ⟨seg, hseg, hcs⟩
        · exact .inr (.inl h)
        · exact .inr (.inr (.inl h))
        · exact .inl ((isInfix_of_mem_segments seg hseg).subset hcs)

/-- Joining tags deletes characters only. -/
theorem joinTags_sublist (s : List Char) : (joinTags s).Sublist s := by
  fun_induction joinTags s with
  | case1 b more hb after h _ ih =>
    -- the blanks between the tags go; what follows the `<` is a suffix of the rest
    have hsuf : '<' :: after <:+ more := h ▸ List.dropWhile_suffix isBlank
    exact ((ih.cons_cons '<').trans (hsuf.sublist.cons b)).cons_cons '>'
  | case2 b more _ _ ih | case3 b more _ ih => exact ih.cons_cons '>'
  | case4 => exact List.Sublist.refl _
  | case5 c rest _ ih => exact ih.cons_cons c

/-- Collapsing runs writes the characters of the text and spaces. -/
theorem mem_or_space_of_mem_collapseRuns {s : List Char} {c : Char} (h : c ∈ collapseRuns s) :
    c ∈ s ∨ c = ' ' := by
  fun_induction collapseRuns s with
  | case1 a b more hab _ ih =>
    rcases List.mem_cons.1 h with h | h
    · exact .inr h
    · rcases ih h with h | h
      · exact .inl (List.mem_cons_of_mem _ (List.mem_cons_of_mem _
          ((List.dropWhile_suffix isBlank).subset h)))
      · exact .inr h
  | case2 a b more _ ih =>
    rcases List.mem_cons.1 h with h | h
    · exact .inl (h ▸ List.mem_cons_self)
    · rcases ih h with h | h
      · exact .inl (List.mem_cons_of_mem _ h)
      · exact .inr h
  | case3 => exact .inl h

theorem mem_or_space_of_mem_tidy {s : List Char} {c : Char} (h : c ∈ tidy s) :
    c ∈ s ∨ c = ' ' := by
  rcases mem_or_space_of_mem_collapseRuns h with h | h
  · exact .inl ((joinTags_sublist s).subset ((trim_isInfix _).subset h))
  · exact .inr h

theorem mem_or_space_of_mem_settle {s : List Char} {c : Char} (h : c ∈ settle s) :
    c ∈ s ∨ c = ' ' := by
  fun_induction settle s with
  | case1 x hx _ ih =>
    rcases ih h with h | h
    · rcases mem_or_space_of_mem_tidy h with h | h
      · exact .inl ((dropComments_sublist x).subset h)
      · exact .inr h
    · exact .inr h
  | case2 x hx => exact .inl h

/-- **Compaction writes the characters of the text and spaces, and nothing else.** -/
theorem mem_or_space_of_mem_compact {d : Bool} {s : List Char} {c : Char}
    (h : c ∈ compact d s) : c ∈ s ∨ c = ' ' := by
  have hpass : ∀ {x}, c ∈ pass d x → c ∈ x ∨ c = ' ' := fun {x} hx => by
    rcases mem_or_space_of_mem_tidy hx with hx | hx
    · cases d
      · exact .inl hx
      · exact .inl ((dropComments_sublist x).subset hx)
    · exact .inr hx
  unfold compact at h
  cases d with
  | false => exact hpass h
  | true =>
    rcases mem_or_space_of_mem_settle h with h | h
    · exact hpass h
    · exact .inr h

end Markup

/-! ## Reading back what was written -/

namespace Text

theorem uniformLineEnds_of_not_mem {cs : List Char} (h : '\r' ∉ cs) : uniformLineEnds cs = cs := by
  fun_induction uniformLineEnds cs with
  | case1 rest ih | case2 rest _ ih => simp at h
  | case3 c rest _ hc ih => rw [ih (fun h' => h (List.mem_cons_of_mem _ h'))]
  | case4 => rfl

/-- A text with no carriage return has uniform line ends already. -/
theorem String.uniformLineEnds_of_not_mem {s : String} (h : '\r' ∉ s.toList) :
    String.uniformLineEnds s = s := by
  rw [String.uniformLineEnds, Text.uniformLineEnds_of_not_mem h, String.ofList_toList]

end Text

theorem Transform.apply_layout (s : Settings) (text : String) :
    Transform.layout.apply s text =
      ((Markup.layout (Indent.ofWidth s.indentSize s.useTabs) text.toList).mapError .tooWide).map
        String.ofList := by
  unfold Transform.apply Markup.layout
  cases (Indent.ofWidth s.indentSize s.useTabs).lines? text.toList <;> rfl

/-- **A transform leaves its own output alone**: laying out a laid-out text gives it back, and
compacting a compact text too. -/
theorem Transform.apply_apply {t : Transform} {s : Settings} {text out : String}
    (h : t.apply s text = .ok out) : t.apply s out = .ok out := by
  cases t with
  | layout =>
    rw [Transform.apply_layout] at h ⊢
    cases hl : Markup.layout (Indent.ofWidth s.indentSize s.useTabs) text.toList with
    | error e => simp [hl, Except.map] at h
    | ok out' =>
      simp only [hl, except_mapError_ok, Except.map, Except.ok.injEq] at h
      subst h
      -- the lines of the laid-out text are the lines of the text
      have hre : Markup.layout (Indent.ofWidth s.indentSize s.useTabs) out' =
          Markup.layout (Indent.ofWidth s.indentSize s.useTabs) text.toList := by
        rw [eq_of_layout_eq_ok hl]
        exact layout_congr (placed_render _ _) _
      rw [String.toList_ofList, hre, hl]
      rfl
  | compaction =>
    simp only [Transform.apply, Except.ok.injEq] at h ⊢
    subst h
    rw [String.toList_ofList, compact_of_compacted (compacted_compact _ _)]

/-- A transform writes no carriage return into a text that has none. -/
theorem Transform.not_mem_apply {t : Transform} {s : Settings} {text out : String}
    (h : t.apply s text = .ok out) (hr : '\r' ∉ text.toList) : '\r' ∉ out.toList := by
  cases t with
  | layout =>
    rw [Transform.apply_layout] at h
    cases hl : Markup.layout (Indent.ofWidth s.indentSize s.useTabs) text.toList with
    | error e => simp [hl, Except.map] at h
    | ok out' =>
      simp only [hl, except_mapError_ok, Except.map, Except.ok.injEq] at h
      subst h
      rw [String.toList_ofList]
      intro hc
      rcases mem_of_mem_layout hl hc with h | h | h | h | h | h
      · exact hr h
      all_goals exact absurd h (by decide)
  | compaction =>
    simp only [Transform.apply, Except.ok.injEq] at h
    subst h
    rw [String.toList_ofList]
    intro hc
    rcases mem_or_space_of_mem_compact hc with h | h
    · exact hr h
    · exact absurd h (by decide)

/-! ## Formatting again -/

namespace Host.World

/-- **Formatting the file a formatting left finds nothing to do**, when that formatting wrote no
settings file: the text read is the text written, the settings are as they were, and the
transform keeps its own output. -/
theorem format_rerun {w : World} {depth : Nat} {given : Option Settings} {t : Transform}
    {written : String} {o : Overrides} {r : Formatted}
    (h : w.format depth given t written true o = .ok r)
    (hcfg : ∀ q : Path, q.name = settingsFileName →
      (w.afterFormat (.ok r)).fileAt? q = w.fileAt? q)
    (write : Bool) :
    (w.afterFormat (.ok r)).format depth given t written write o =
      .ok { r with changed := false, diff := "", written := false } := by
  have htree : SameTree w (w.afterFormat (.ok r)) := h ▸ sameTree_afterFormat
  obtain ⟨p, s₀, s, before, output, hd, hs, ho, hr, ha, rfl⟩ := exists_of_format_eq_ok h
  set w₁ := w.afterFormat (.ok ⟨p, output, output != before,
    if output != before then textDiff p.name before output else "", true && (output != before)⟩)
    with hw₁
  -- the second run reads the text the first one wrote, or found
  have hread : w₁.readText p = .ok output := by
    by_cases hc : output = before
    · subst hc
      simpa [hw₁, afterFormat] using hr
    · have hne : (output != before) = true := by simpa using hc
      simp only [hw₁, afterFormat, hne, Bool.true_and, if_true]
      rw [readText_setFile_self, String.uniformLineEnds_of_not_mem
        (Transform.not_mem_apply ha (not_mem_of_readText hr))]
  have hset : w₁.settingsFor (depth + 1) given p = .ok s₀ := by
    rw [← htree.settingsFor (fun q hq => (hcfg q hq).symm), hs]
  simp only [World.format, ← htree.document, hd, hset, ho, hread, Transform.apply_apply ha,
    except_mapError_ok, except_ok_bind, bne_self_eq_false,
      Bool.false_eq_true, if_false,
    Bool.and_false]
  rfl

end Host.World

namespace Host.WorldM

open World

/-- **Formatting a file twice**: after a formatting that may write returns, the same formatting on
the world it left returns the same path and text, unchanged, with no difference and nothing
written, and leaves the files as they are, unless the first rewrote a settings file. -/
theorem run_runFormat_rerun {logging : Option Logging} (hlog : ∀ l ∈ logging, l.file = none)
    {depth : Nat} {given : Option Settings} {t : Transform} {written : String} {o : Overrides}
    {w w₁ : World} {r : Formatted}
    (h₁ : (runFormat depth logging given t written true o :
      ExceptT Failure WorldM Formatted).run.run w = (.ok r, w₁))
    (hcfg : ∀ q : Path, q.name = settingsFileName → w₁.fileAt? q = w.fileAt? q) (write : Bool) :
    ∃ e, (runFormat depth logging given t written write o :
        ExceptT Failure WorldM Formatted).run.run w₁ =
      (.ok { r with changed := false, diff := "", written := false }, w₁.logs e) := by
  obtain ⟨e₁, he₁⟩ := run_runFormat w hlog depth given t written true o
  rw [he₁, Prod.mk.injEq] at h₁
  obtain ⟨hf, rfl⟩ := h₁
  rw [hf] at hcfg ⊢
  have hrerun := format_rerun hf (fun q hq => by simpa using hcfg q hq) write
  obtain ⟨e₂, he₂⟩ := run_runFormat ((w.afterFormat (.ok r)).logs e₁) hlog depth given t
    written write o
  refine ⟨e₂, ?_⟩
  rw [he₂, (sameDisk_logs _ e₁).symm.format, hrerun]
  rfl

/-- **Checking after writing**: a command line that formats a file and writes it, and exits with
status 0, followed by one asking for the same formatting with `--check`, exits with status 0
and leaves the disk as it is, unless the first rewrote a settings file. -/
theorem run_runCommandLine_check_after_write {depth : Nat} {words₁ words₂ : List String}
    {b₁ b₂ : Bindings} {command : String} {w w₁ : World}
    (hb₁ : readLine commandGrammar mainGrammar words₁ = .ok b₁)
    (hb₂ : readLine commandGrammar mainGrammar words₂ = .ok b₂)
    (hlog₁ : b₁.text? "log_file" = none) (hlog₂ : b₂.text? "log_file" = none)
    (hcmd : fileCommand? b₁ = some command) (hsame : SameRequest b₁ b₂)
    (hwrite : b₁.flag "write" = true) (hcheck : b₂.flag "check" = true)
    (h₁ : (runCommandLine depth words₁ : ExceptT Failure WorldM Nat).run.run w = (.ok 0, w₁))
    (hcfg : ∀ q : Path, q.name = settingsFileName → w₁.fileAt? q = w.fileAt? q) :
    ((runCommandLine depth words₂ : ExceptT Failure WorldM Nat).run.run w₁).1 = .ok 0 ∧
      SameDisk w₁ ((runCommandLine depth words₂ : ExceptT Failure WorldM Nat).run.run w₁).2 := by
  obtain ⟨hs₁, hd₁⟩ := run_runCommandLine_of_fileCommand w hb₁ hlog₁ hcmd
  rw [h₁] at hs₁ hd₁
  -- the first formatting returned: every failure ends with another status or stops the run
  obtain ⟨r₁, hr₁⟩ : ∃ r₁, w.formatByLine (depth + 1) command b₁ = .ok r₁ := by
    cases hf : w.formatByLine (depth + 1) command b₁ with
    | ok r => exact ⟨r, rfl⟩
    | error f =>
      rw [hf] at hs₁
      simp only [formatStatus] at hs₁
      split at hs₁
      · cases hs₁
      · split at hs₁ <;> cases hs₁
  rw [hr₁] at hd₁
  unfold World.formatByLine at hr₁
  cases hg : w.givenSettings (depth + 1 + 2) b₁ with
  | error f => simp [hg] at hr₁
  | ok given =>
    simp only [hg, except_ok_bind, hwrite] at hr₁
    -- the first run left the disk `afterFormat` makes, with the settings files as they were
    have htree : SameTree w w₁ := (hr₁ ▸ sameTree_afterFormat).trans hd₁.sameTree
    have hcfg' : ∀ q : Path, q.name = settingsFileName →
        (w.afterFormat (.ok r₁)).fileAt? q = w.fileAt? q :=
      fun q hq => (hd₁.fileAt? q).trans (hcfg q hq)
    have hf₂ : w₁.formatByLine (depth + 1) command b₂ =
        .ok { r₁ with changed := false, diff := "", written := false } := by
      rw [hsame.formatByLine_eq, ← htree.givenSettings (fun q hq => (hcfg q hq).symm), hg,
        except_ok_bind, ← hd₁.format, format_rerun hr₁ hcfg']
    obtain ⟨hs₂, hd₂⟩ := run_runCommandLine_of_fileCommand w₁ hb₂ hlog₂
      (hsame.fileCommand_eq.trans hcmd)
    rw [hf₂] at hs₂ hd₂
    refine ⟨?_, hd₂⟩
    rw [hs₂]
    simp [formatStatus, hcheck]

/-- **Formatting is stable.** After a formatting that may write returns, the same formatting,
writing or not, finds nothing to change, writes nothing and shows no difference; and a command
line that formats a file with `--write` and exits with 0, followed by one asking for the same
formatting with `--check`, exits with 0 and keeps the disk. Both hold as long as the first run
left the settings files as they were. -/
theorem formatting_stable :
    (∀ {logging : Option Logging}, (∀ l ∈ logging, l.file = none) →
      ∀ {depth : Nat} {given : Option Settings} {t : Transform} {written : String}
        {o : Overrides} {w w₁ : World} {r : Formatted},
      (runFormat depth logging given t written true o :
        ExceptT Failure WorldM Formatted).run.run w = (.ok r, w₁) →
      (∀ q : Path, q.name = settingsFileName → w₁.fileAt? q = w.fileAt? q) →
      ∀ write : Bool, ∃ e, (runFormat depth logging given t written write o :
        ExceptT Failure WorldM Formatted).run.run w₁ =
          (.ok { r with changed := false, diff := "", written := false }, w₁.logs e)) ∧
    (∀ {depth : Nat} {words₁ words₂ : List String} {b₁ b₂ : Bindings} {command : String}
        {w w₁ : World},
      readLine commandGrammar mainGrammar words₁ = .ok b₁ →
      readLine commandGrammar mainGrammar words₂ = .ok b₂ →
      b₁.text? "log_file" = none → b₂.text? "log_file" = none →
      fileCommand? b₁ = some command → SameRequest b₁ b₂ →
      b₁.flag "write" = true → b₂.flag "check" = true →
      (runCommandLine depth words₁ : ExceptT Failure WorldM Nat).run.run w = (.ok 0, w₁) →
      (∀ q : Path, q.name = settingsFileName → w₁.fileAt? q = w.fileAt? q) →
      ((runCommandLine depth words₂ : ExceptT Failure WorldM Nat).run.run w₁).1 = .ok 0 ∧
        SameDisk w₁ ((runCommandLine depth words₂ : ExceptT Failure WorldM Nat).run.run w₁).2) :=
  ⟨fun hlog => fun h₁ hcfg write => run_runFormat_rerun hlog h₁ hcfg write,
    fun hb₁ hb₂ hlog₁ hlog₂ hcmd hsame hwrite hcheck h₁ hcfg =>
      run_runCommandLine_check_after_write hb₁ hb₂ hlog₁ hlog₂ hcmd hsame hwrite hcheck h₁ hcfg⟩

/-- A page `/a` that layout changes: laying it out and writing it, then laying it out again,
finds nothing to do; and `prettify a --write` followed by `prettify a --check` exits with 0. -/
theorem formatting_stable_page :
    (∃ r w₁, (runFormat 0 none none .layout "a" true {} : ExceptT Failure WorldM Formatted).run.run
        ⟨[(⟨["a"]⟩, "<p><b>x</b></p>")], [], ⟨[]⟩, ⟨[]⟩, [], "", "", "", ""⟩ = (.ok r, w₁) ∧
      r.written = true ∧
      ∃ e, (runFormat 0 none none .layout "a" true {} :
        ExceptT Failure WorldM Formatted).run.run w₁ =
          (.ok { r with changed := false, diff := "", written := false }, w₁.logs e)) ∧
    ∃ w₁, (runCommandLine 0 ["prettify", "a", "--write"] : ExceptT Failure WorldM Nat).run.run
        ⟨[(⟨["a"]⟩, "<p><b>x</b></p>")], [], ⟨[]⟩, ⟨[]⟩, [], "", "", "", ""⟩ = (.ok 0, w₁) ∧
      ((runCommandLine 0 ["prettify", "a", "--check"] :
        ExceptT Failure WorldM Nat).run.run w₁).1 = .ok 0 := by
  set page : World := ⟨[(⟨["a"]⟩, "<p><b>x</b></p>")], [], ⟨[]⟩, ⟨[]⟩, [], "", "", "", ""⟩
  have hname : (⟨["a"]⟩ : Path).name ≠ settingsFileName := by decide
  constructor
  · -- the formatting rewrites the page, and no settings file
    have hlog : ∀ l ∈ (none : Option Logging), l.file = none := by simp
    obtain ⟨e, he⟩ := run_runFormat page hlog 0 none .layout "a" true {}
    have hpath : (page.format 0 none .layout "a" true {}).toOption.map
        (fun r => (r.path, r.written)) = some (⟨["a"]⟩, true) := by decide +kernel
    cases hf : page.format 0 none .layout "a" true {} with
    | error f => rw [hf] at hpath; cases hpath
    | ok r =>
      rw [hf] at he hpath
      simp only [Except.toOption, Option.map_some, Option.some.injEq, Prod.mk.injEq] at hpath
      have hcfg : ∀ q : Path, q.name = settingsFileName →
          ((page.afterFormat (.ok r)).logs e).fileAt? q = page.fileAt? q := fun q hq => by
        rw [World.fileAt?_logs]
        refine fileAt?_afterFormat_of_settings (fun r' hr' => ?_) hq
        cases hr'
        rw [hpath.1]
        exact hname
      exact ⟨r, _, he, hpath.2, formatting_stable.1 hlog he hcfg true⟩
  · -- the command line rewrites the page, and no settings file
    set b₁ : Bindings := [("write", .flag true), ("path", .text "a"), ("use_tabs", .none),
      ("indent_size", .none), ("diff", .flag false), ("check", .flag false),
      ("write", .flag false), ("config", .none), ("path", .text "-"), ("command", .text "prettify"),
      ("command", .none), ("log_file", .none), ("verbose", .flag false)]
    have hb₁ : readLine commandGrammar mainGrammar ["prettify", "a", "--write"] = .ok b₁ := by
      decide +kernel
    have hb₂ : readLine commandGrammar mainGrammar ["prettify", "a", "--check"] =
        .ok (("check", .flag true) :: b₁.tail) := by decide +kernel
    have hstatus : ((runCommandLine 0 ["prettify", "a", "--write"] :
        ExceptT Failure WorldM Nat).run.run page).1 = .ok 0 := by decide +kernel
    have hdoc : (page.formatByLine 1 "prettify" b₁).toOption.map (·.path) = some ⟨["a"]⟩ := by
      decide +kernel
    have hlog : ∀ b, readLine commandGrammar mainGrammar ["prettify", "a", "--write"] = .ok b →
        b.text? "log_file" = none := fun b hb => by
      rw [hb₁] at hb
      cases hb
      decide
    rcases hrun : (runCommandLine 0 ["prettify", "a", "--write"] :
      ExceptT Failure WorldM Nat).run.run page with ⟨res, w₁⟩
    rw [hrun] at hstatus
    cases hstatus
    have hdisk := sameDisk_runCommandLine page 0 ["prettify", "a", "--write"] hlog
    rw [hrun] at hdisk
    have hcfg : ∀ q : Path, q.name = settingsFileName → w₁.fileAt? q = page.fileAt? q :=
      fun q hq => by
        rw [← hdisk.fileAt? q, World.afterLine, hb₁]
        refine fileAt?_afterFormat_of_settings (fun r hr => ?_) hq
        simp only [hr, Except.toOption, Option.map_some, Option.some.injEq] at hdoc
        rw [hdoc]
        exact hname
    exact ⟨w₁, rfl, (formatting_stable.2 hb₁ hb₂ (by decide) (by decide)
      (show fileCommand? b₁ = some "prettify" by decide) (by unfold SameRequest; decide)
      (by decide) (by decide) hrun hcfg).1⟩

end Host.WorldM

end MarkupTidy
