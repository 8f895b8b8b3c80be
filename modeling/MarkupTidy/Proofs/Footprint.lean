import Mathlib.Tactic.Set
import Mathlib.Data.List.Infix
import MarkupTidy.Proofs.CommandLine
import MarkupTidy.Proofs.Modes

/-!
# Proofs/Footprint — the one file a run may rewrite

A formatting reads its document and the settings, and writes one file at the end: its
document, with the text it made, when it was asked to write and the text changed. A failure
comes before that write, so a failed run leaves every file as it was. Checking a file writes
nothing.

A command line that names no log file writes what its file formatting writes, and nothing
else: under `--check` or `--diff` it does not ask to write (`flag_write_eq_false`), `validate`
formats nothing, and a run that ends with a status other than 0 has written nothing.

* `only_document_rewritten` — what formatting, checking and a whole command line do to the files.
-/

namespace MarkupTidy

open MarkupTidy.Host MarkupTidy.Markup MarkupTidy.Text MarkupTidy.Cli

namespace Host.World

/-- A formatting that wrote nothing leaves the world as it was. -/
theorem afterFormat_of_written_eq_false {w : World} {r : Formatted} (h : r.written = false) :
    w.afterFormat (.ok r) = w := by
  simp [afterFormat, h]

/-- A formatting writes only when asked and when the text changed, and it compares the text it
made with the one it read from its document. -/
theorem written_of_format_eq_ok {w : World} {depth : Nat} {given : Option Settings}
    {t : Transform} {written : String} {write : Bool} {o : Overrides} {r : Formatted}
    (h : w.format depth given t written write o = .ok r) :
    r.written = (write && r.changed) ∧
      ∃ before, w.readText r.path = .ok before ∧ r.changed = (r.output != before) := by
  obtain ⟨p, s₀, s, before, output, -, -, -, hr, -, rfl⟩ := exists_of_format_eq_ok h
  exact ⟨rfl, before, hr, rfl⟩

/-- A formatting by a command line is a formatting with the write flag of the line. -/
theorem exists_format_of_formatByLine {w : World} {depth : Nat} {command : String}
    {b : Bindings} {r : Formatted} (h : w.formatByLine depth command b = .ok r) :
    ∃ given t o, w.format (depth + 2) given t ((b.text? "path").getD "-") (b.flag "write") o =
      .ok r := by
  unfold formatByLine at h
  obtain ⟨given, -, h⟩ := except_bind_eq_ok h
  exact ⟨given, _, _, h⟩

theorem written_of_formatByLine {w : World} {depth : Nat} {command : String} {b : Bindings}
    {r : Formatted} (h : w.formatByLine depth command b = .ok r) :
    r.written = (b.flag "write" && r.changed) ∧
      ∃ before, w.readText r.path = .ok before ∧ r.changed = (r.output != before) := by
  obtain ⟨given, t, o, h⟩ := exists_format_of_formatByLine h
  exact written_of_format_eq_ok h

/-! ## What a command line leaves -/

variable {w : World} {depth : Nat} {words : List String}

theorem sameTree_afterLine : SameTree w (w.afterLine depth words) := by
  unfold afterLine
  split
  · split
    · cases hf : w.formatByLine (depth + 1) _ _ with
      | error f => exact SameTree.refl w
      | ok r =>
        obtain ⟨given, t, o, hformat⟩ := exists_format_of_formatByLine hf
        exact hformat ▸ sameTree_afterFormat
    · exact SameTree.refl w
  · exact SameTree.refl w

/-- A command line that does not ask to write leaves the disk as it was. -/
theorem afterLine_of_write_eq_false {b : Bindings}
    (hb : readLine commandGrammar mainGrammar words = .ok b) (hw : b.flag "write" = false) :
    w.afterLine depth words = w := by
  cases hc : fileCommand? b with
  | none => simp only [afterLine, hb, hc]
  | some command =>
    cases hf : w.formatByLine (depth + 1) command b with
    | error f => simp only [afterLine, hb, hc, hf, afterFormat]
    | ok r =>
      simp only [afterLine, hb, hc, hf]
      refine afterFormat_of_written_eq_false ?_
      rw [(written_of_formatByLine hf).1, hw, Bool.false_and]

/-- A command line that formats no file leaves the disk as it was. -/
theorem afterLine_of_fileCommand_eq_none {b : Bindings}
    (hb : readLine commandGrammar mainGrammar words = .ok b) (hc : fileCommand? b = none) :
    w.afterLine depth words = w := by
  simp only [afterLine, hb, hc]

/-- A file a command line changes is the document of its file formatting, which was asked to
write, found a text other than the one it made, and left that text there. -/
theorem changed_of_afterLine {q : Path}
    (hq : (w.afterLine depth words).fileAt? q ≠ w.fileAt? q) :
    ∃ b command r, readLine commandGrammar mainGrammar words = .ok b ∧
      fileCommand? b = some command ∧ w.formatByLine (depth + 1) command b = .ok r ∧
      r.written = true ∧ q = r.path ∧ (w.afterLine depth words).fileAt? q = some r.output := by
  cases hb : readLine commandGrammar mainGrammar words with
  | error stop => simp [afterLine, hb] at hq
  | ok b =>
    cases hc : fileCommand? b with
    | none => simp [afterLine, hb, hc] at hq
    | some command =>
      cases hf : w.formatByLine (depth + 1) command b with
      | error f => simp [afterLine, hb, hc, hf, afterFormat] at hq
      | ok r =>
        have hafter : w.afterLine depth words = w.afterFormat (.ok r) := by
          simp only [afterLine, hb, hc, hf]
        rw [hafter, fileAt?_afterFormat] at hq ⊢
        split at hq
        · rename_i hwq
          exact ⟨b, command, r, rfl, hc, hf, hwq.1, hwq.2, if_pos hwq⟩
        · exact absurd rfl hq

end Host.World

namespace Host.WorldM

open World

variable {w : World} {depth : Nat} {words : List String}

/-- A formatting leaves its document as it says and every other file as it was; a failed one
leaves the disk as it was. -/
theorem run_runFormat_footprint {logging : Option Logging} (hlog : ∀ l ∈ logging, l.file = none)
    {given : Option Settings} {t : Transform} {written : String} {write : Bool} {o : Overrides}
    {w' : World} {res : Except Failure Formatted}
    (h : (runFormat depth logging given t written write o :
      ExceptT Failure WorldM Formatted).run.run w = (res, w')) :
    SameTree w w' ∧ (∀ f, res = .error f → SameDisk w w') ∧
      ∀ r, res = .ok r → r.written = (write && r.changed) ∧
        (∃ before, w.readText r.path = .ok before ∧ r.changed = (r.output != before)) ∧
        w'.fileAt? r.path = (if r.written then some r.output else w.fileAt? r.path) ∧
        ∀ q, q ≠ r.path → w'.fileAt? q = w.fileAt? q := by
  obtain ⟨e, he⟩ := run_runFormat w hlog depth given t written write o
  rw [he, Prod.mk.injEq] at h
  obtain ⟨rfl, rfl⟩ := h
  refine ⟨sameTree_afterFormat.trans (sameTree_logs _ e), fun f hf => ?_, fun r hr => ?_⟩
  · rw [hf]
    exact sameDisk_logs w e
  · obtain ⟨hw, before, hbefore, hch⟩ := written_of_format_eq_ok hr
    rw [hr]
    refine ⟨hw, ⟨before, hbefore, hch⟩, ?_, fun q hq => ?_⟩
    · simp only [fileAt?_logs, fileAt?_afterFormat, and_true]
    · rw [fileAt?_logs, fileAt?_afterFormat, if_neg fun h => hq h.2]

/-- A command line that ends with a status other than 0, or stops with a failure, has written
nothing: a file formatting that returns ends with 1 only under `--check`, which does not write. -/
theorem sameDisk_of_status_ne_zero
    (hlog : ∀ b, readLine commandGrammar mainGrammar words = .ok b → b.text? "log_file" = none)
    (hs : ((runCommandLine depth words : ExceptT Failure WorldM Nat).run.run w).1 ≠ .ok 0) :
    SameDisk w ((runCommandLine depth words : ExceptT Failure WorldM Nat).run.run w).2 := by
  have hd := sameDisk_runCommandLine w depth words hlog
  suffices hafter : w.afterLine depth words = w by rwa [hafter] at hd
  cases hb : readLine commandGrammar mainGrammar words with
  | error stop => simp only [afterLine, hb]
  | ok b =>
    cases hc : fileCommand? b with
    | none => exact afterLine_of_fileCommand_eq_none hb hc
    | some command =>
      have hstatus : ((runCommandLine depth words : ExceptT Failure WorldM Nat).run.run w).1 =
          formatStatus b (w.formatByLine (depth + 1) command b) :=
        (run_runCommandLine_of_fileCommand w hb (hlog b hb) hc).1
      cases hf : w.formatByLine (depth + 1) command b with
      | error f => simp only [afterLine, hb, hc, hf, afterFormat]
      | ok r =>
        -- a formatting that returns ends with 0 unless a checked file would change
        have hcheck : b.flag "check" = true := by
          rw [hf] at hstatus
          cases hck : b.flag "check" with
          | true => rfl
          | false => exact absurd (by rw [hstatus]; simp [formatStatus, hck]) hs
        exact afterLine_of_write_eq_false hb (flag_write_eq_false hb (.inl hcheck))

/-- What a command line that names no log file does to the files: only the document of its
file formatting changes, to the text the formatting made, and only when it was asked to write
and that text differs from the one read; `--check`, `--diff` and `validate` write nothing, and
neither does a line that ends with a status other than 0. -/
theorem run_runCommandLine_footprint {w' : World} {res : Except Failure Nat}
    (hlog : ∀ b, readLine commandGrammar mainGrammar words = .ok b → b.text? "log_file" = none)
    (h : (runCommandLine depth words : ExceptT Failure WorldM Nat).run.run w = (res, w')) :
    SameTree w w' ∧ (res ≠ .ok 0 → SameDisk w w') ∧
      (∀ b, readLine commandGrammar mainGrammar words = .ok b →
        b.flag "check" = true ∨ b.flag "diff" = true ∨ b.text? "command" = some "validate" →
        SameDisk w w') ∧
      ∀ q, w'.fileAt? q ≠ w.fileAt? q → ∃ b command r,
        readLine commandGrammar mainGrammar words = .ok b ∧ fileCommand? b = some command ∧
        b.flag "write" = true ∧ w.formatByLine (depth + 1) command b = .ok r ∧ q = r.path ∧
        (∃ before, w.readText q = .ok before ∧ r.output ≠ before) ∧
        w'.fileAt? q = some r.output := by
  have hd := sameDisk_runCommandLine w depth words hlog
  rw [h] at hd
  refine ⟨sameTree_afterLine.trans hd.sameTree, fun hs => ?_, fun b hb hmode => ?_,
    fun q hq => ?_⟩
  · have hsame := sameDisk_of_status_ne_zero hlog (by rw [h]; exact hs)
    rwa [h] at hsame
  · -- no mode that checks or shows a difference writes, and checking formats no file
    have hafter : w.afterLine depth words = w := by
      rcases hmode with hm | hm | hm
      · exact afterLine_of_write_eq_false hb (flag_write_eq_false hb (.inl hm))
      · exact afterLine_of_write_eq_false hb (flag_write_eq_false hb (.inr hm))
      · exact afterLine_of_fileCommand_eq_none hb (by simp [fileCommand?, hm])
    rwa [hafter] at hd
  · have hq' : (w.afterLine depth words).fileAt? q ≠ w.fileAt? q := by rwa [hd.fileAt? q]
    obtain ⟨b, command, r, hb, hc, hf, hw, rfl, hat⟩ := changed_of_afterLine hq'
    obtain ⟨hwr, before, hbefore, hch⟩ := written_of_formatByLine hf
    rw [hw, eq_comm, Bool.and_eq_true] at hwr
    refine ⟨b, command, r, hb, hc, hwr.1, hf, rfl, ⟨before, hbefore, ?_⟩, ?_⟩
    · simpa [hwr.2] using hch
    · rw [← hd.fileAt? r.path]
      exact hat

/-- **A run rewrites its document at most.** A formatting leaves every file but its document as
it was, rewrites the document only when asked to write and the text it made differs from the
one it read, with that text, and writes whenever both hold; a failed formatting, and any
checking, leave the disk as it was. A command line that names no log file changes no file but
the document of its file formatting, when that formatting was asked to write, to the text it
made; `--check`, `--diff` and `validate` write nothing, and neither does a line that ends with
a status other than 0. -/
theorem only_document_rewritten :
    (∀ {logging : Option Logging}, (∀ l ∈ logging, l.file = none) →
      ∀ {depth : Nat} {given : Option Settings} {t : Transform} {written : String}
        {write : Bool} {o : Overrides} {w w' : World} {res : Except Failure Formatted},
      (runFormat depth logging given t written write o :
        ExceptT Failure WorldM Formatted).run.run w = (res, w') →
      SameTree w w' ∧ (∀ f, res = .error f → SameDisk w w') ∧
        ∀ r, res = .ok r → r.written = (write && r.changed) ∧
          (∃ before, w.readText r.path = .ok before ∧ r.changed = (r.output != before)) ∧
          w'.fileAt? r.path = (if r.written then some r.output else w.fileAt? r.path) ∧
          ∀ q, q ≠ r.path → w'.fileAt? q = w.fileAt? q) ∧
    (∀ {logging : Option Logging}, (∀ l ∈ logging, l.file = none) → ∀ (written : String) (w : World),
      SameDisk w ((runValidate logging written :
        ExceptT Failure WorldM (Path × Report)).run.run w).2) ∧
    (∀ {depth : Nat} {words : List String} {w w' : World} {res : Except Failure Nat},
      (∀ b, readLine commandGrammar mainGrammar words = .ok b → b.text? "log_file" = none) →
      (runCommandLine depth words : ExceptT Failure WorldM Nat).run.run w = (res, w') →
      SameTree w w' ∧ (res ≠ .ok 0 → SameDisk w w') ∧
        (∀ b, readLine commandGrammar mainGrammar words = .ok b →
          b.flag "check" = true ∨ b.flag "diff" = true ∨ b.text? "command" = some "validate" →
          SameDisk w w') ∧
        ∀ q, w'.fileAt? q ≠ w.fileAt? q → ∃ b command r,
          readLine commandGrammar mainGrammar words = .ok b ∧ fileCommand? b = some command ∧
          b.flag "write" = true ∧ w.formatByLine (depth + 1) command b = .ok r ∧ q = r.path ∧
          (∃ before, w.readText q = .ok before ∧ r.output ≠ before) ∧
          w'.fileAt? q = some r.output) :=
  ⟨fun hlog => fun h => run_runFormat_footprint hlog h,
    fun hlog written w => keepsDisk_runValidate hlog written w,
    fun hlog h => run_runCommandLine_footprint hlog h⟩

/-- On a world holding one page `/a`: laying it out and writing it leaves the text it made at
`/a`, checking it keeps the disk, and so does `prettify a --check`. -/
theorem only_document_rewritten_page :
    (∃ r w', (runFormat 0 none none .layout "a" true {} : ExceptT Failure WorldM Formatted).run.run
        ⟨[(⟨["a"]⟩, "<p><b>x</b></p>")], [], ⟨[]⟩, ⟨[]⟩, [], "", "", "", ""⟩ = (.ok r, w') ∧
      w'.fileAt? ⟨["a"]⟩ = some r.output) ∧
    SameDisk ⟨[(⟨["a"]⟩, "<p><b>x</b></p>")], [], ⟨[]⟩, ⟨[]⟩, [], "", "", "", ""⟩
      ((runValidate none "a" : ExceptT Failure WorldM (Path × Report)).run.run
        ⟨[(⟨["a"]⟩, "<p><b>x</b></p>")], [], ⟨[]⟩, ⟨[]⟩, [], "", "", "", ""⟩).2 ∧
    ∃ res w', (runCommandLine 0 ["prettify", "a", "--check"] :
        ExceptT Failure WorldM Nat).run.run
        ⟨[(⟨["a"]⟩, "<p><b>x</b></p>")], [], ⟨[]⟩, ⟨[]⟩, [], "", "", "", ""⟩ = (res, w') ∧
      SameDisk ⟨[(⟨["a"]⟩, "<p><b>x</b></p>")], [], ⟨[]⟩, ⟨[]⟩, [], "", "", "", ""⟩ w' := by
  set page : World := ⟨[(⟨["a"]⟩, "<p><b>x</b></p>")], [], ⟨[]⟩, ⟨[]⟩, [], "", "", "", ""⟩
  have hnone : ∀ l ∈ (none : Option Logging), l.file = none := by simp
  refine ⟨?_, only_document_rewritten.2.1 hnone "a" page, ?_⟩
  · have hpath : ((runFormat 0 none none .layout "a" true {} :
        ExceptT Failure WorldM Formatted).run.run page).1.toOption.map
          (fun r => (r.path, r.written)) = some (⟨["a"]⟩, true) := by decide +kernel
    rcases hrun : (runFormat 0 none none .layout "a" true {} :
      ExceptT Failure WorldM Formatted).run.run page with ⟨_ | r, w'⟩
    · rw [hrun] at hpath
      cases hpath
    · rw [hrun] at hpath
      simp only [Except.toOption, Option.map_some, Option.some.injEq, Prod.mk.injEq] at hpath
      have hat := ((only_document_rewritten.1 hnone hrun).2.2 r rfl).2.2.1
      rw [hpath.2, if_pos rfl, hpath.1] at hat
      exact ⟨r, w', rfl, hat⟩
  · have hb : readLine commandGrammar mainGrammar ["prettify", "a", "--check"] = .ok
        [("check", .flag true), ("path", .text "a"), ("use_tabs", .none), ("indent_size", .none),
          ("diff", .flag false), ("check", .flag false), ("write", .flag false), ("config", .none),
          ("path", .text "-"), ("command", .text "prettify"), ("command", .none),
          ("log_file", .none), ("verbose", .flag false)] := by decide +kernel
    have hlog : ∀ b, readLine commandGrammar mainGrammar ["prettify", "a", "--check"] = .ok b →
        b.text? "log_file" = none := fun b hb' => by
      rw [hb] at hb'
      cases hb'
      decide
    rcases hrun : (runCommandLine 0 ["prettify", "a", "--check"] :
      ExceptT Failure WorldM Nat).run.run page with ⟨res, w'⟩
    exact ⟨res, w', rfl,
      (only_document_rewritten.2.2 hlog hrun).2.2.1 _ hb (.inl (by decide))⟩

end Host.WorldM

end MarkupTidy
