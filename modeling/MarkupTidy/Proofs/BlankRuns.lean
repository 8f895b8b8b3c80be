import MarkupTidy.Proofs.Squeezing

/-!
# Proofs/BlankRuns — compaction rewrites each run of blanks on its own

A *run* is a maximal stretch of blanks. Each blank pass of compaction decides what a run becomes
from the run and the two characters around it, and keeps every other character: joining tags
deletes a run between a `>` and a `<`, trimming deletes the runs at the two ends of the text, and
collapsing makes a run of two or more blanks one space. A `RunRule` says what a run becomes, and
`RunRule.rewrite` applies it to every run of a text in one pass, left to right.

A rule puts nothing but blanks where a run was, so the runs of a rewritten text are the images of
the old ones, between the same characters, and two rewrites make one, by the composite rule
(`RunRule.rewrite_rewrite`). So:

* `joinTags_eq_rewrite`, `trim_eq_rewrite`, `collapseRuns_eq_rewrite` — each blank pass is a
  rewrite of runs;
* `compact_eq_rewrite` — compaction that keeps comments, and compaction of a text that holds no
  comment, is the single rewrite `RunRule.compacting`: a run at an end of the text or between a `>`
  and a `<` goes, a longer run becomes one space, and a single blank stays as it is, so no two
  words are ever joined.
-/

namespace MarkupTidy.Markup

open MarkupTidy.Text

/-! ## Rules for runs -/

/-- What a run of blanks becomes, given the character before it and the character after it
(`none` at an end of the text). A rule makes nothing of an empty run, and only blanks of a run. -/
@[ext]
structure RunRule where
  image : Option Char → List Char → Option Char → List Char
  image_nil : ∀ before after, image before [] after = []
  blank_image : ∀ before run after, (∀ c ∈ run, isBlank c = true) →
    ∀ c ∈ image before run after, isBlank c = true

namespace RunRule

/-- The rewrite of `s` by `r`, where `before` is the character in front of `s` (`none` at the
start of the text) and `run` the blanks read since that character. -/
def rewriteFrom (r : RunRule) (before : Option Char) (run : List Char) : List Char → List Char
  | [] => r.image before run none
  | c :: rest =>
    if isBlank c then r.rewriteFrom before (run ++ [c]) rest
    else r.image before run (some c) ++ c :: r.rewriteFrom (some c) [] rest

/-- Each run of blanks of a text rewritten by `r`, every other character kept. -/
def rewrite (r : RunRule) (s : List Char) : List Char := r.rewriteFrom none [] s

section Rewriting

variable (r : RunRule) (before : Option Char) (run : List Char)

@[simp] theorem rewriteFrom_nil : r.rewriteFrom before run [] = r.image before run none := rfl

theorem rewriteFrom_cons_of_blank {c : Char} (hc : isBlank c = true) (rest : List Char) :
    r.rewriteFrom before run (c :: rest) = r.rewriteFrom before (run ++ [c]) rest := by
  simp [rewriteFrom, hc]

theorem rewriteFrom_cons_of_not_blank {c : Char} (hc : isBlank c = false) (rest : List Char) :
    r.rewriteFrom before run (c :: rest) =
      r.image before run (some c) ++ c :: r.rewriteFrom (some c) [] rest := by
  simp [rewriteFrom, hc]

theorem blank_append_singleton {run : List Char} (hrun : ∀ c ∈ run, isBlank c = true) {c : Char}
    (hc : isBlank c = true) : ∀ d ∈ run ++ [c], isBlank d = true := by
  simpa [or_imp, forall_and] using ⟨hrun, hc⟩

/-- Blanks go on the run being read. -/
theorem rewriteFrom_blank_append {w : List Char} (hw : ∀ c ∈ w, isBlank c = true)
    (s : List Char) : r.rewriteFrom before run (w ++ s) = r.rewriteFrom before (run ++ w) s := by
  induction w generalizing run with
  | nil => simp
  | cons c w ih =>
    rw [List.cons_append, rewriteFrom_cons_of_blank _ _ _ (hw c (by simp)),
      ih _ fun d hd => hw d (List.mem_cons_of_mem c hd), List.append_assoc, List.singleton_append]

end Rewriting

/-! ## Two rewrites make one -/

/-- The rule that applies `g` to a run and then `f` to what `g` made of it, between the same two
characters. -/
def comp (f g : RunRule) : RunRule where
  image before run after := f.image before (g.image before run after) after
  image_nil before after := by rw [g.image_nil, f.image_nil]
  blank_image before run after h := f.blank_image _ _ _ (g.blank_image _ _ _ h)

/-- The rewrite by `g` keeps every character that is no blank and puts blanks only where runs
were, so `f` meets the runs that `g` made, one for each run of the text, between the same two
characters. The induction is on the text, over any run read so far. -/
theorem rewriteFrom_rewriteFrom (f g : RunRule) (s : List Char) :
    ∀ (before : Option Char) (run : List Char), (∀ c ∈ run, isBlank c = true) →
      f.rewriteFrom before [] (g.rewriteFrom before run s) = (f.comp g).rewriteFrom before run s := by
  induction s with
  | nil =>
    intro before run hrun
    rw [rewriteFrom_nil, ← List.append_nil (g.image _ _ _),
      rewriteFrom_blank_append f _ _ (g.blank_image _ _ _ hrun), List.nil_append, rewriteFrom_nil,
      rewriteFrom_nil]
    rfl
  | cons c rest ih =>
    intro before run hrun
    cases hc : isBlank c with
    | false =>
      rw [rewriteFrom_cons_of_not_blank g _ _ hc,
        rewriteFrom_blank_append f _ _ (g.blank_image _ _ _ hrun), List.nil_append,
        rewriteFrom_cons_of_not_blank f _ _ hc, rewriteFrom_cons_of_not_blank _ _ _ hc,
        ih _ [] (by simp)]
      rfl
    | true =>
      have hrun' := blank_append_singleton hrun hc
      rw [rewriteFrom_cons_of_blank g _ _ hc, rewriteFrom_cons_of_blank _ _ _ hc, ih _ _ hrun']

/-- **Two rewrites of runs make one**, by the composite rule. -/
theorem rewrite_rewrite (f g : RunRule) (s : List Char) :
    f.rewrite (g.rewrite s) = (f.comp g).rewrite s :=
  rewriteFrom_rewriteFrom f g s none [] (by simp)

/-! ## The blank passes -/

/-- Joining tags: a run between a `>` and a `<` goes, every other run stays. -/
def joining : RunRule where
  image before run after := if before = some '>' ∧ after = some '<' then [] else run
  image_nil before after := by split <;> rfl
  blank_image before run after h := by
    split
    · simp
    · exact h

/-- Trimming: the runs at the two ends of the text go, every other run stays. -/
def trimming : RunRule where
  image before run after := if before = none ∨ after = none then [] else run
  image_nil before after := by split <;> rfl
  blank_image before run after h := by
    split
    · simp
    · exact h

/-- Collapsing: a run of two or more blanks becomes one space, a single blank stays. -/
def collapsing : RunRule where
  image _ run _ := if 2 ≤ run.length then [' '] else run
  image_nil before after := by simp
  blank_image before run after h := by
    split
    · simp only [List.mem_singleton, forall_eq]
      decide
    · exact h

/-- Compaction: a run at an end of the text or between a `>` and a `<` goes, a run of two or more
blanks becomes one space, and a single blank stays as it is. -/
def compacting : RunRule where
  image before run after :=
    if before = none ∨ after = none ∨ (before = some '>' ∧ after = some '<') then []
    else if 2 ≤ run.length then [' '] else run
  image_nil before after := by split <;> simp
  blank_image before run after h := by
    split
    · simp
    · split
      · simp only [List.mem_singleton, forall_eq]
        decide
      · exact h

/-- The three blank passes, one after the other, are the rule of compaction. -/
theorem comp_joining : (collapsing.comp trimming).comp joining = compacting := by
  ext : 1
  funext before run after
  simp only [comp, collapsing, trimming, joining, compacting]
  by_cases hend : before = none ∨ after = none
  · rcases hend with rfl | rfl <;> simp
  · by_cases hgap : before = some '>' ∧ after = some '<'
    · simp [hgap]
    · simp [hend, hgap]

end RunRule

open RunRule

/-! ## Joining tags -/

/-- Joining tags after a text with no `>` at its end: the run there stays. -/
theorem joinTags_toList_append_blank (before : Option Char) {run : List Char}
    (hrun : ∀ c ∈ run, isBlank c = true) :
    joinTags (before.toList ++ run) = before.toList ++ run := by
  have hkeep : joinTags run = run := by
    simpa using joinTags_append_of_gt_not_mem (gt_not_mem_of_blank hrun) []
  rcases before with _ | d
  · simpa using hkeep
  · by_cases hd : d = '>'
    · subst hd
      have hno : ∀ after, run.dropWhile isBlank ≠ '<' :: after := by
        simp [List.dropWhile_eq_nil_iff.2 hrun]
      simp [joinTags_gt_of_not_dropWhile hno, hkeep]
    · simp [joinTags_cons_of_ne hd, hkeep]

/-- **Joining tags around one run**: the run goes exactly when a `>` stands before it and a `<`
after it; what follows is joined on its own. -/
theorem joinTags_around_run (before : Option Char) {run : List Char}
    (hrun : ∀ c ∈ run, isBlank c = true) {c : Char} (hc : isBlank c = false) (rest : List Char) :
    joinTags (before.toList ++ run ++ c :: rest) =
      before.toList ++ joining.image before run (some c) ++ joinTags (c :: rest) := by
  have hcopy : joinTags (run ++ c :: rest) = run ++ joinTags (c :: rest) :=
    joinTags_append_of_gt_not_mem (gt_not_mem_of_blank hrun) _
  have hdrop : (run ++ c :: rest).dropWhile isBlank = c :: rest := by
    rw [List.dropWhile_append_of_pos hrun, List.dropWhile_cons_of_neg (by simp [hc])]
  rcases before with _ | d
  · simpa [joining] using hcopy
  · by_cases hd : d = '>'
    · subst hd
      by_cases hlt : c = '<'
      · subst hlt
        simp [joining, joinTags_gt_of_dropWhile hdrop, joinTags_cons_of_ne]
      · have hno : ∀ after, (run ++ c :: rest).dropWhile isBlank ≠ '<' :: after := by
          simp [hdrop, hlt]
        simp [joining, hlt, joinTags_gt_of_not_dropWhile hno, hcopy]
    · simp [joining, hd, joinTags_cons_of_ne hd, hcopy]

/-- Joining tags is the rewrite `joining` of the text after the character `before` and the blanks
`run`. The induction is on the text, one character at a time. -/
theorem joinTags_eq_rewriteFrom (s : List Char) :
    ∀ (before : Option Char) (run : List Char), (∀ c ∈ run, isBlank c = true) →
      joinTags (before.toList ++ run ++ s) = before.toList ++ joining.rewriteFrom before run s := by
  induction s with
  | nil =>
    intro before run hrun
    simpa [joining] using joinTags_toList_append_blank before hrun
  | cons c rest ih =>
    intro before run hrun
    cases hc : isBlank c with
    | false =>
      have hnext := ih (some c) [] (by simp)
      simp only [Option.toList_some, List.append_nil, List.singleton_append] at hnext
      rw [joinTags_around_run before hrun hc, hnext,
        rewriteFrom_cons_of_not_blank _ _ _ hc, List.append_assoc]
    | true =>
      have hrun' := blank_append_singleton hrun hc
      rw [rewriteFrom_cons_of_blank _ _ _ hc, ← ih _ _ hrun']
      simp

/-- **Joining tags rewrites runs**: a run between a `>` and a `<` goes. -/
theorem joinTags_eq_rewrite (s : List Char) : joinTags s = joining.rewrite s := by
  simpa [rewrite] using joinTags_eq_rewriteFrom s none [] (by simp)

/-! ## Trimming -/

/-- Dropping the trailing blanks stops at the last character that is no blank. -/
theorem rdropWhile_append_cons_of_not_blank {c : Char} (hc : isBlank c = false) (x s : List Char) :
    (x ++ c :: s).rdropWhile isBlank = x ++ c :: s.rdropWhile isBlank := by
  simp only [List.rdropWhile, List.reverse_append, List.reverse_cons, List.append_assoc,
    List.singleton_append, dropWhile_append_cons_of_neg hc]
  simp

/-- After a character, trimming only drops the trailing blanks. -/
theorem rewriteFrom_trimming_some (s : List Char) :
    ∀ (c : Char) (run : List Char), (∀ d ∈ run, isBlank d = true) →
      trimming.rewriteFrom (some c) run s = (run ++ s).rdropWhile isBlank := by
  induction s with
  | nil =>
    intro c run hrun
    simp [trimming, List.rdropWhile_eq_nil_iff.2 hrun]
  | cons d rest ih =>
    intro c run hrun
    cases hd : isBlank d with
    | false =>
      rw [rewriteFrom_cons_of_not_blank _ _ _ hd, ih d [] (by simp),
        rdropWhile_append_cons_of_not_blank hd]
      simp [trimming]
    | true =>
      have hrun' := blank_append_singleton hrun hd
      rw [rewriteFrom_cons_of_blank _ _ _ hd, ih c _ hrun']
      simp

/-- At the start of the text, trimming drops the leading blanks too. -/
theorem rewriteFrom_trimming_none (s : List Char) :
    ∀ run : List Char, (∀ d ∈ run, isBlank d = true) →
      trimming.rewriteFrom none run s = trim (run ++ s) := by
  induction s with
  | nil =>
    intro run hrun
    simp [trimming, trim_eq_rdropWhile, List.dropWhile_eq_nil_iff.2 hrun]
  | cons d rest ih =>
    intro run hrun
    cases hd : isBlank d with
    | false =>
      have hdrop : (run ++ d :: rest).dropWhile isBlank = [] ++ d :: rest := by
        rw [List.dropWhile_append_of_pos hrun, List.dropWhile_cons_of_neg (by simp [hd])]
        rfl
      rw [rewriteFrom_cons_of_not_blank _ _ _ hd, rewriteFrom_trimming_some rest d [] (by simp),
        trim_eq_rdropWhile, hdrop, rdropWhile_append_cons_of_not_blank hd]
      simp [trimming]
    | true =>
      have hrun' := blank_append_singleton hrun hd
      rw [rewriteFrom_cons_of_blank _ _ _ hd, ih _ hrun']
      simp

/-- **Trimming rewrites runs**: the runs at the two ends go. -/
theorem trim_eq_rewrite (s : List Char) : trim s = trimming.rewrite s := by
  simpa [rewrite] using (rewriteFrom_trimming_none s [] (by simp)).symm

/-! ## Collapsing -/

/-- Collapsing a run on its own: two or more blanks become one space. -/
theorem collapseRuns_of_blank {w : List Char} (hw : ∀ c ∈ w, isBlank c = true) :
    collapseRuns w = if 2 ≤ w.length then [' '] else w := by
  match w, hw with
  | [], _ => simp [collapseRuns_nil]
  | [a], _ => simp [collapseRuns_of_length_le]
  | a :: b :: more, hw =>
    have hab : (isBlank a && isBlank b) = true := by simp [hw a (by simp), hw b (by simp)]
    have hmore : more.dropWhile isBlank = [] :=
      List.dropWhile_eq_nil_iff.2 fun c hc => hw c (by simp [hc])
    rw [collapseRuns_cons_cons, if_pos hab, hmore, collapseRuns_nil]
    simp

/-- Collapsing is the rewrite `collapsing` of the blanks `run` and the text after them. -/
theorem rewriteFrom_collapsing (s : List Char) :
    ∀ (before : Option Char) (run : List Char), (∀ c ∈ run, isBlank c = true) →
      collapsing.rewriteFrom before run s = collapseRuns (run ++ s) := by
  induction s with
  | nil =>
    intro before run hrun
    simp [collapsing, collapseRuns_of_blank hrun]
  | cons c rest ih =>
    intro before run hrun
    cases hc : isBlank c with
    | false =>
      rw [rewriteFrom_cons_of_not_blank _ _ _ hc, ih _ [] (by simp),
        collapseRuns_append_cons_of_not_blank hc, collapseRuns_of_blank hrun]
      rfl
    | true =>
      have hrun' := blank_append_singleton hrun hc
      rw [rewriteFrom_cons_of_blank _ _ _ hc, ih _ _ hrun']
      simp

/-- **Collapsing rewrites runs**: a run of two or more blanks becomes one space. -/
theorem collapseRuns_eq_rewrite (s : List Char) : collapseRuns s = collapsing.rewrite s := by
  simpa [rewrite] using (rewriteFrom_collapsing s none [] (by simp)).symm

/-! ## Compaction -/

/-- A pass of the blank passes is the rewrite of compaction. -/
theorem tidy_eq_rewrite (s : List Char) : tidy s = compacting.rewrite s := by
  rw [tidy, joinTags_eq_rewrite, trim_eq_rewrite, collapseRuns_eq_rewrite, rewrite_rewrite,
    rewrite_rewrite, comp_joining]

/-- **Compaction rewrites each run of blanks on its own.** Compaction that keeps comments, and
compaction of a text that holds no comment, deletes a run at an end of the text or between a `>`
and a `<`, makes a run of two or more blanks one space, and keeps a single blank as it is. -/
theorem compact_eq_rewrite (html : List Char) :
    compact false html = compacting.rewrite html ∧
      ((∀ body, ¬ commentText body <:+: html) → compact true html = compacting.rewrite html) :=
  ⟨tidy_eq_rewrite html, fun h => (compact_true_of_noComment h).trans (tidy_eq_rewrite html)⟩

/-- A line feed or a tab between two words stays; longer runs become one space, and the runs at
the ends and between a `>` and a `<` go. -/
example : compacting.rewrite " a\tb  c >\n <d> ".toList = "a\tb c ><d>".toList := by decide

/-- A text without `!` holds no comment. -/
theorem noComment_of_bang_not_mem {s : List Char} (h : '!' ∉ s) :
    ∀ body, ¬ commentText body <:+: s :=
  fun body hb => h (hb.subset (show '!' ∈ commentText body by simp [commentText]))

theorem compact_eq_rewrite_spaced :
    (∀ body, ¬ commentText body <:+: "<p> a\tb  c </p>\n <br>".toList) ∧
      compact true "<p> a\tb  c </p>\n <br>".toList =
        compacting.rewrite "<p> a\tb  c </p>\n <br>".toList :=
  have hnone := noComment_of_bang_not_mem (s := "<p> a\tb  c </p>\n <br>".toList) (by decide)
  ⟨hnone, (compact_eq_rewrite _).2 hnone⟩

end MarkupTidy.Markup
