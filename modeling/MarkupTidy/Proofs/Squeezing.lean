import MarkupTidy.Proofs.Ink
import MarkupTidy.Proofs.CompactionTags
import MarkupTidy.Proofs.CleanLayout

/-!
# Proofs/Squeezing — texts alike but for the lengths of their blank runs

*Squeezing* a text makes each run of blanks one space (`squeeze`). What it keeps is what the
compactor's passes look at: the characters that are no blanks, in order, and between each two of
them whether blanks stand there. The marks of a comment and the `>` and `<` of a seam hold no
blank, and the passes keep or delete a run of blanks whole, so:

* `squeeze_dropComments`, `squeeze_joinTags` — deleting comments, or joining tags, sees a text only
  through its squeezed form;
* `squeeze_collapseRuns` — collapsing runs keeps the squeezed form;
* `trim_squeeze` — squeezing and trimming commute;
* `PassesBlanks.trim_trim` — blanks around a text pass through both passes untouched, so trimming
  first changes their output only at its ends.

Two texts are `Alike` when, trimmed, they squeeze to the same text. Both passes take alike texts
to alike texts (`Alike.map`), and the blank passes leave a text alike to it with its tags joined
(`alike_tidy`).
-/

namespace MarkupTidy.Markup

open MarkupTidy.Text

/-! ## Squeezing -/

/-- A space put in front of a text, unless it starts with one already. -/
def consSpace (s : List Char) : List Char :=
  if s.head? = some ' ' then s else ' ' :: s

/-- The text with each run of blanks made one space. -/
def squeeze : List Char → List Char
  | [] => []
  | c :: rest => if isBlank c then consSpace (squeeze rest) else c :: squeeze rest

@[simp] theorem squeeze_nil : squeeze [] = [] := rfl

theorem squeeze_cons_of_blank {c : Char} (hc : isBlank c = true) (s : List Char) :
    squeeze (c :: s) = consSpace (squeeze s) := by
  simp [squeeze, hc]

theorem squeeze_cons_of_not_blank {c : Char} (hc : isBlank c = false) (s : List Char) :
    squeeze (c :: s) = c :: squeeze s := by
  simp [squeeze, hc]

theorem head?_consSpace (s : List Char) : (consSpace s).head? = some ' ' := by
  unfold consSpace
  split <;> simp_all

@[simp] theorem consSpace_consSpace (s : List Char) : consSpace (consSpace s) = consSpace s := by
  rw [consSpace, if_pos (head?_consSpace s)]

theorem consSpace_space_cons (s : List Char) : consSpace (' ' :: s) = ' ' :: s := by
  simp [consSpace]

theorem consSpace_of_head? {s : List Char} (h : s.head? ≠ some ' ') : consSpace s = ' ' :: s := by
  simp [consSpace, h]

theorem consSpace_ne_nil (s : List Char) : consSpace s ≠ [] := fun h => by
  simpa [h] using head?_consSpace s

/-- A space put in front of a text that is not empty goes in front of what it starts with. -/
theorem consSpace_append {s : List Char} (hs : s ≠ []) (t : List Char) :
    consSpace (s ++ t) = consSpace s ++ t := by
  obtain ⟨c, r, rfl⟩ := List.exists_cons_of_ne_nil hs
  by_cases hc : c = ' ' <;> simp [consSpace, hc]

@[simp] theorem squeeze_eq_nil_iff {s : List Char} : squeeze s = [] ↔ s = [] := by
  cases s with
  | nil => simp
  | cons c r =>
    cases hc : isBlank c
    · simp [squeeze_cons_of_not_blank hc]
    · simp [squeeze_cons_of_blank hc, consSpace_ne_nil]

/-- A squeezed text that starts with a character that is no blank starts as the text. -/
theorem eq_cons_of_squeeze_eq_cons {d : Char} (hd : isBlank d = false) {s t : List Char}
    (h : squeeze s = d :: t) : ∃ s', s = d :: s' ∧ squeeze s' = t := by
  cases s with
  | nil => simp at h
  | cons c r =>
    cases hc : isBlank c
    · rw [squeeze_cons_of_not_blank hc, List.cons.injEq] at h
      obtain ⟨rfl, rfl⟩ := h
      exact ⟨r, rfl, rfl⟩
    · -- a squeezed text starting with a blank starts with a space
      have hhead := head?_consSpace (squeeze r)
      rw [← squeeze_cons_of_blank hc, h, List.head?_cons, Option.some.injEq] at hhead
      rw [hhead] at hd
      exact absurd hd (by decide)

/-- The squeezed form of a text decides that of the text with a character in front. -/
theorem squeeze_cons_congr (c : Char) {x y : List Char} (h : squeeze x = squeeze y) :
    squeeze (c :: x) = squeeze (c :: y) := by
  cases hc : isBlank c
  · rw [squeeze_cons_of_not_blank hc, squeeze_cons_of_not_blank hc, h]
  · rw [squeeze_cons_of_blank hc, squeeze_cons_of_blank hc, h]

theorem squeeze_consSpace (s : List Char) : squeeze (consSpace s) = consSpace (squeeze s) := by
  by_cases h : s.head? = some ' '
  · obtain ⟨r, rfl⟩ : ∃ r, s = ' ' :: r := by
      cases s with
      | nil => simp at h
      | cons c r => exact ⟨r, by simp_all⟩
    rw [consSpace_space_cons, squeeze_cons_of_blank (by decide), consSpace_consSpace]
  · rw [consSpace_of_head? h, squeeze_cons_of_blank (by decide)]

@[simp] theorem squeeze_squeeze (s : List Char) : squeeze (squeeze s) = squeeze s := by
  induction s with
  | nil => rfl
  | cons c r ih =>
    cases hc : isBlank c
    · rw [squeeze_cons_of_not_blank hc, squeeze_cons_of_not_blank hc, ih]
    · rw [squeeze_cons_of_blank hc, squeeze_consSpace, ih]

/-- A character that is no blank cuts the squeezing in two. -/
theorem squeeze_append_cons_of_not_blank {c : Char} (hc : isBlank c = false) (x y : List Char) :
    squeeze (x ++ c :: y) = squeeze x ++ c :: squeeze y := by
  induction x with
  | nil => exact squeeze_cons_of_not_blank hc y
  | cons d x ih =>
    cases hd : isBlank d
    · rw [List.cons_append, squeeze_cons_of_not_blank hd, ih, squeeze_cons_of_not_blank hd,
        List.cons_append]
    · rw [List.cons_append, squeeze_cons_of_blank hd, ih, squeeze_cons_of_blank hd]
      by_cases hx : squeeze x = []
      · have hne : (c :: squeeze y).head? ≠ some ' ' := by
          simp only [List.head?_cons, ne_eq, Option.some.injEq]
          exact fun h => absurd (h ▸ hc) (by decide)
        rw [hx, List.nil_append, consSpace_of_head? hne, consSpace_of_head? (by simp)]
        rfl
      · exact consSpace_append hx _

/-- Blanks after a character that is no blank squeeze apart from what comes before. -/
theorem squeeze_append_of_getLast? {x : List Char} (hx : ∀ c ∈ x.getLast?, isBlank c = false)
    (y : List Char) : squeeze (x ++ y) = squeeze x ++ squeeze y := by
  rcases List.eq_nil_or_concat' x with rfl | ⟨x', c, rfl⟩
  · rfl
  · have hc : isBlank c = false := hx c (by simp)
    rw [List.append_assoc, List.singleton_append, squeeze_append_cons_of_not_blank hc,
      squeeze_append_cons_of_not_blank hc, squeeze_nil, List.append_assoc, List.singleton_append]

/-- Blanks in front of a text squeeze to one space. -/
theorem squeeze_blank_append {w : List Char} (hw : ∀ c ∈ w, isBlank c = true) (hne : w ≠ [])
    (z : List Char) : squeeze (w ++ z) = consSpace (squeeze z) := by
  induction w with
  | nil => exact absurd rfl hne
  | cons b w ih =>
    obtain ⟨hb, hw⟩ := List.forall_mem_cons.1 hw
    rw [List.cons_append, squeeze_cons_of_blank hb]
    by_cases hw' : w = []
    · rw [hw', List.nil_append]
    · rw [ih hw hw', consSpace_consSpace]

/-- Blanks squeeze to blanks. -/
theorem squeeze_of_blank {w : List Char} (hw : ∀ c ∈ w, isBlank c = true) :
    ∀ c ∈ squeeze w, isBlank c = true := by
  by_cases hne : w = []
  · simp [hne]
  · have h := squeeze_blank_append hw hne []
    rw [List.append_nil, squeeze_nil] at h
    rw [h, consSpace_of_head? (by simp)]
    simp only [List.mem_singleton, forall_eq]
    decide

/-- What follows the leading blanks is squeezed on its own. -/
theorem dropWhile_squeeze (s : List Char) :
    (squeeze s).dropWhile isBlank = squeeze (s.dropWhile isBlank) := by
  induction s with
  | nil => rfl
  | cons c r ih =>
    cases hc : isBlank c
    · rw [squeeze_cons_of_not_blank hc, List.dropWhile_cons_of_neg (by simp [hc]),
        List.dropWhile_cons_of_neg (by simp [hc]), squeeze_cons_of_not_blank hc]
    · rw [squeeze_cons_of_blank hc, List.dropWhile_cons_of_pos hc, ← ih, consSpace]
      split
      · rfl
      · exact List.dropWhile_cons_of_pos (by decide)

/-- Squeezing keeps the ink. -/
@[simp] theorem ink_squeeze (s : List Char) : ink (squeeze s) = ink s := by
  induction s with
  | nil => rfl
  | cons c r ih =>
    cases hc : isBlank c
    · rw [squeeze_cons_of_not_blank hc, ink_cons_of_not_blank hc, ink_cons_of_not_blank hc, ih]
    · have hink : ∀ x, ink (consSpace x) = ink x := fun x => by
        unfold consSpace
        split
        · rfl
        · rw [ink_cons, show ink [' '] = [] by decide, List.nil_append]
      have hc' : ink [c] = [] := ink_eq_nil_iff.2 (by simp [hc])
      rw [squeeze_cons_of_blank hc, hink, ih, ink_cons, hc', List.nil_append]

/-- A pass that copies a leading space squeezes a text with a space put in front as it squeezes
the text, with a space put in front. -/
theorem squeeze_consSpace_of {f : List Char → List Char} (hf : ∀ z, f (' ' :: z) = ' ' :: f z)
    (y : List Char) : squeeze (f (consSpace y)) = consSpace (squeeze (f y)) := by
  by_cases h : y.head? = some ' '
  · obtain ⟨r, rfl⟩ : ∃ r, y = ' ' :: r := by
      cases y with
      | nil => simp at h
      | cons c r => exact ⟨r, by simp_all⟩
    rw [consSpace_space_cons, hf, squeeze_cons_of_blank (by decide), consSpace_consSpace]
  · rw [consSpace_of_head? h, hf, squeeze_cons_of_blank (by decide)]

/-- A squeezed text that starts with a word of characters that are no blanks starts as the
text. -/
theorem eq_append_of_squeeze_eq_append {p : List Char} (hp : ∀ c ∈ p, isBlank c = false)
    {s t : List Char} (h : squeeze s = p ++ t) : ∃ s', s = p ++ s' ∧ squeeze s' = t := by
  induction p generalizing s with
  | nil => exact ⟨s, rfl, h⟩
  | cons d p ih =>
    obtain ⟨hd, hp'⟩ := List.forall_mem_cons.1 hp
    obtain ⟨s₁, rfl, h₁⟩ := eq_cons_of_squeeze_eq_cons hd h
    obtain ⟨s', rfl, h'⟩ := ih hp' h₁
    exact ⟨s', rfl, h'⟩

/-- A text with blanks after it that starts with a word of characters that are no blanks
starts with that word. -/
theorem eq_append_of_append_blank_eq_append {p : List Char} (hp : ∀ c ∈ p, isBlank c = false)
    {s v t : List Char} (hv : ∀ c ∈ v, isBlank c = true) (h : s ++ v = p ++ t) :
    ∃ s', s = p ++ s' ∧ s' ++ v = t := by
  induction p generalizing s with
  | nil => exact ⟨s, rfl, h⟩
  | cons d p ih =>
    obtain ⟨hd, hp'⟩ := List.forall_mem_cons.1 hp
    cases s with
    | nil =>
      rw [List.nil_append] at h
      have := hv d (by simp [h])
      simp [hd] at this
    | cons e s =>
      rw [List.cons_append, List.cons_append, List.cons.injEq] at h
      obtain ⟨rfl, h⟩ := h
      obtain ⟨s', rfl, h'⟩ := ih hp' h
      exact ⟨s', rfl, h'⟩

/-! ## Collapsing runs -/

/-- Blanks dropped from the front of a text leave the squeezed text with a space in front. -/
theorem consSpace_squeeze_dropWhile (s : List Char) :
    consSpace (squeeze (s.dropWhile isBlank)) = consSpace (squeeze s) := by
  induction s with
  | nil => rfl
  | cons c r ih =>
    cases hc : isBlank c
    · rw [List.dropWhile_cons_of_neg (by simp [hc])]
    · rw [List.dropWhile_cons_of_pos hc, ih, squeeze_cons_of_blank hc, consSpace_consSpace]

/-- **Collapsing runs keeps the squeezed text.** -/
theorem squeeze_collapseRuns (s : List Char) : squeeze (collapseRuns s) = squeeze s := by
  fun_induction collapseRuns s with
  | case1 a b more hab _ ih =>
    simp only [Bool.and_eq_true] at hab
    rw [squeeze_cons_of_blank (by decide), ih, consSpace_squeeze_dropWhile,
      squeeze_cons_of_blank hab.1, squeeze_cons_of_blank hab.2, consSpace_consSpace]
  | case2 a b more _ ih => exact squeeze_cons_congr a ih
  | case3 => rfl

/-! ## Deleting comments -/

/-- Past a character that does not start `-->`, the search for the end of a comment goes on. -/
theorem afterCommentEnd_cons_of_not_close {c : Char} {rest : List Char}
    (h : ∀ after, c = '-' → rest = '-' :: '>' :: after → False) :
    afterCommentEnd (c :: rest) = afterCommentEnd rest := by
  rw [afterCommentEnd.eq_def]
  split <;> simp_all

theorem afterCommentEnd_consSpace (s : List Char) :
    afterCommentEnd (consSpace s) = afterCommentEnd s := by
  unfold consSpace
  split
  · rfl
  · exact afterCommentEnd_cons_of_not_close fun _ h => absurd h (by decide)

/-- The end of a comment is found at the same place in the squeezed text. -/
theorem afterCommentEnd_squeeze (s : List Char) :
    afterCommentEnd (squeeze s) = (afterCommentEnd s).map squeeze := by
  fun_induction afterCommentEnd s with
  | case1 => rfl
  | case2 after =>
    rw [squeeze_cons_of_not_blank (by decide), squeeze_cons_of_not_blank (by decide),
      squeeze_cons_of_not_blank (by decide)]
    rfl
  | case3 c rest hnot ih =>
    cases hc : isBlank c
    · rw [squeeze_cons_of_not_blank hc, ← ih]
      refine afterCommentEnd_cons_of_not_close fun after hc' h => ?_
      obtain ⟨r, rfl, -⟩ := eq_append_of_squeeze_eq_append (p := ['-', '>']) (by simp [isBlank]) h
      exact hnot r hc' rfl
    · rw [squeeze_cons_of_blank hc, afterCommentEnd_consSpace, ih]

@[simp] theorem dropComments_nil : dropComments [] = [] := by
  rw [dropComments.eq_def]

/-- Past a character that does not start `<!--`, deleting comments copies it. -/
theorem dropComments_cons_of_not_open {c : Char} {rest : List Char}
    (h : ∀ body, c = '<' → rest = '!' :: '-' :: '-' :: body → False) :
    dropComments (c :: rest) = c :: dropComments rest := by
  rw [dropComments.eq_def]
  split <;> simp_all

theorem dropComments_cons_of_ne {c : Char} (hc : c ≠ '<') (rest : List Char) :
    dropComments (c :: rest) = c :: dropComments rest :=
  dropComments_cons_of_not_open fun _ h _ => hc h

/-- A comment that a `-->` closes is deleted with what it holds. -/
theorem dropComments_open_of_some {body after : List Char} (h : afterCommentEnd body = some after) :
    dropComments ('<' :: '!' :: '-' :: '-' :: body) = dropComments after := by
  rw [dropComments.eq_def]
  simp only
  split <;> simp_all

/-- A `<!--` that no `-->` closes stays, with all that follows it. -/
theorem dropComments_open_of_none {body : List Char} (h : afterCommentEnd body = none) :
    dropComments ('<' :: '!' :: '-' :: '-' :: body) = '<' :: '!' :: '-' :: '-' :: body := by
  rw [dropComments.eq_def]
  simp only
  split <;> simp_all

theorem squeeze_open (body : List Char) :
    squeeze ('<' :: '!' :: '-' :: '-' :: body) = '<' :: '!' :: '-' :: '-' :: squeeze body := by
  rw [squeeze_cons_of_not_blank (by decide), squeeze_cons_of_not_blank (by decide),
    squeeze_cons_of_not_blank (by decide), squeeze_cons_of_not_blank (by decide)]

/-- **Deleting comments sees a text only through its squeezed form.** A comment's marks hold no
blank, so the same comments are found in the squeezed text, and the blanks between them stay
runs that squeeze alike. -/
theorem squeeze_dropComments (s : List Char) :
    squeeze (dropComments s) = squeeze (dropComments (squeeze s)) := by
  fun_induction dropComments s with
  | case1 body after h _ ih =>
    have h' : afterCommentEnd (squeeze body) = some (squeeze after) := by
      rw [afterCommentEnd_squeeze, h]
      rfl
    rw [squeeze_open, dropComments_open_of_some h', ih]
  | case2 body h =>
    have h' : afterCommentEnd (squeeze body) = none := by
      rw [afterCommentEnd_squeeze, h]
      rfl
    rw [squeeze_open, dropComments_open_of_none h', ← squeeze_open, squeeze_squeeze]
  | case3 => rw [squeeze_nil, dropComments_nil, squeeze_nil]
  | case4 c rest hnot ih =>
    cases hc : isBlank c
    · have hnot' : ∀ body, c = '<' → squeeze rest = '!' :: '-' :: '-' :: body → False :=
        fun body hc' h => by
          obtain ⟨r, rfl, -⟩ :=
            eq_append_of_squeeze_eq_append (p := ['!', '-', '-']) (by simp [isBlank]) h
          exact hnot r hc' rfl
      rw [squeeze_cons_of_not_blank hc, squeeze_cons_of_not_blank hc,
        dropComments_cons_of_not_open hnot', squeeze_cons_of_not_blank hc, ih]
    · rw [squeeze_cons_of_blank hc, squeeze_cons_of_blank hc, ih,
        squeeze_consSpace_of (dropComments_cons_of_ne (by decide))]

/-! ## Joining tags -/

/-- After a `>`, blanks and a `<` are joined to it. -/
theorem joinTags_gt_of_dropWhile {y after : List Char} (h : y.dropWhile isBlank = '<' :: after) :
    joinTags ('>' :: y) = '>' :: '<' :: joinTags after := by
  generalize hs : '>' :: y = s
  fun_cases joinTags s with
  | case1 b more hb after' h' =>
    simp only [List.cons.injEq, true_and] at hs
    subst hs
    rw [List.dropWhile_cons_of_pos hb, h', List.cons.injEq] at h
    rw [h.2]
  | case2 b more hb hno =>
    simp only [List.cons.injEq, true_and] at hs
    subst hs
    rw [List.dropWhile_cons_of_pos hb] at h
    exact absurd h (hno after)
  | case3 b more hb =>
    simp only [List.cons.injEq, true_and] at hs
    subst hs
    rw [List.dropWhile_cons_of_neg (by simp [hb]), List.cons.injEq] at h
    obtain ⟨rfl, rfl⟩ := h
    rw [joinTags_cons_of_ne (by decide)]
  | case4 => simp at hs
  | case5 c rest hno =>
    simp only [List.cons.injEq] at hs
    obtain ⟨rfl, rfl⟩ := hs
    cases y with
    | nil => simp at h
    | cons b more => exact absurd rfl (hno b more rfl)

/-- After a `>` that no blanks and `<` follow, joining tags goes on past it. -/
theorem joinTags_gt_of_not_dropWhile {y : List Char}
    (h : ∀ after, y.dropWhile isBlank ≠ '<' :: after) : joinTags ('>' :: y) = '>' :: joinTags y := by
  generalize hs : '>' :: y = s
  fun_cases joinTags s with
  | case1 b more hb after' h' =>
    simp only [List.cons.injEq, true_and] at hs
    subst hs
    exact absurd (by rw [List.dropWhile_cons_of_pos hb, h']) (h after')
  | case2 b more hb hno | case3 b more hb =>
    simp only [List.cons.injEq, true_and] at hs
    rw [hs]
  | case4 => simp at hs
  | case5 c rest hno =>
    simp only [List.cons.injEq] at hs
    obtain ⟨rfl, rfl⟩ := hs
    rfl

/-- **Joining tags sees a text only through its squeezed form.** A seam is a `>`, blanks and a
`<`, and the squeezed text has the same seams. -/
theorem squeeze_joinTags (s : List Char) : squeeze (joinTags s) = squeeze (joinTags (squeeze s)) := by
  match s with
  | [] => rfl
  | c :: rest =>
    have hgt : ∀ x, squeeze ('>' :: x) = '>' :: squeeze x := squeeze_cons_of_not_blank (by decide)
    have hlt : ∀ x, squeeze ('<' :: x) = '<' :: squeeze x := squeeze_cons_of_not_blank (by decide)
    by_cases hc : c = '>'
    · subst hc
      by_cases hseam : ∃ after, rest.dropWhile isBlank = '<' :: after
      · obtain ⟨after, hafter⟩ := hseam
        have := length_lt_of_dropWhile_blank hafter
        have hsq : (squeeze rest).dropWhile isBlank = '<' :: squeeze after := by
          rw [dropWhile_squeeze, hafter, hlt]
        rw [joinTags_gt_of_dropWhile hafter, hgt rest, joinTags_gt_of_dropWhile hsq, hgt, hlt,
          hgt, hlt, squeeze_joinTags after]
      · have hno : ∀ after, rest.dropWhile isBlank ≠ '<' :: after :=
          fun after h => hseam ⟨after, h⟩
        -- the squeezed text has no seam here either
        have hsq : ∀ after, (squeeze rest).dropWhile isBlank ≠ '<' :: after := fun after h => by
          rw [dropWhile_squeeze] at h
          obtain ⟨r, hr, -⟩ := eq_cons_of_squeeze_eq_cons (by decide) h
          exact hno r hr
        rw [joinTags_gt_of_not_dropWhile hno, hgt rest, joinTags_gt_of_not_dropWhile hsq, hgt,
          hgt, squeeze_joinTags rest]
    · cases hb : isBlank c
      · rw [joinTags_cons_of_ne hc, squeeze_cons_of_not_blank hb, squeeze_cons_of_not_blank hb,
          joinTags_cons_of_ne hc, squeeze_cons_of_not_blank hb, squeeze_joinTags rest]
      · rw [joinTags_cons_of_ne hc, squeeze_cons_of_blank hb, squeeze_cons_of_blank hb,
          squeeze_joinTags rest, squeeze_consSpace_of (joinTags_cons_of_ne (by decide))]
termination_by s.length

/-! ## Blanks around a text -/

/-- Blanks in front of a text hold no comment. -/
theorem dropComments_blank_append {w : List Char} (hw : ∀ c ∈ w, isBlank c = true)
    (z : List Char) : dropComments (w ++ z) = w ++ dropComments z := by
  induction w with
  | nil => rfl
  | cons b w ih =>
    obtain ⟨hb, hw'⟩ := List.forall_mem_cons.1 hw
    rw [List.cons_append, dropComments_cons_of_ne (fun h => absurd (h ▸ hb) (by decide)), ih hw',
      List.cons_append]

/-- The first `-->` of a text is the first of the text with more after it. -/
theorem afterCommentEnd_append_of_some {s after : List Char} (h : afterCommentEnd s = some after)
    (t : List Char) : afterCommentEnd (s ++ t) = some (after ++ t) := by
  fun_induction afterCommentEnd s with
  | case1 => simp at h
  | case2 after' =>
    simp only [Option.some.injEq] at h
    subst h
    rfl
  | case3 c rest hnot ih =>
    -- the `-->` lies in `rest`, so `rest` is too long for its start to reach into `t`
    obtain ⟨pre, rfl⟩ := eq_of_afterCommentEnd h
    rw [List.cons_append, ← ih h]
    refine afterCommentEnd_cons_of_not_close fun a hc ha => ?_
    rcases pre with _ | ⟨x, _ | ⟨y, pre⟩⟩
    · simp at ha
    · simp only [List.cons_append, List.nil_append, List.cons.injEq] at ha
      exact absurd ha.2.1 (by decide)
    · simp only [List.cons_append, List.cons.injEq] at ha
      exact hnot _ hc (by rw [ha.1, ha.2.1]; rfl)

/-- Blanks after a text close no comment. -/
theorem afterCommentEnd_append_blank_of_none {s v : List Char} (h : afterCommentEnd s = none)
    (hv : ∀ c ∈ v, isBlank c = true) : afterCommentEnd (s ++ v) = none := by
  fun_induction afterCommentEnd s with
  | case1 =>
    induction v with
    | nil => rfl
    | cons b v ih =>
      obtain ⟨hb, hv'⟩ := List.forall_mem_cons.1 hv
      rw [List.nil_append, afterCommentEnd_cons_of_not_close fun _ h _ => absurd (h ▸ hb) (by decide)]
      exact ih hv'
  | case2 => simp at h
  | case3 c rest hnot ih =>
    rw [List.cons_append, ← ih h]
    refine afterCommentEnd_cons_of_not_close fun a hc ha => ?_
    obtain ⟨r, rfl, -⟩ :=
      eq_append_of_append_blank_eq_append (p := ['-', '>']) (by simp [isBlank]) hv ha
    exact hnot r hc rfl

/-- Blanks after a text hold no comment and close none. -/
theorem dropComments_append_blank {v : List Char} (hv : ∀ c ∈ v, isBlank c = true)
    (z : List Char) : dropComments (z ++ v) = dropComments z ++ v := by
  fun_induction dropComments z with
  | case1 body after h _ ih =>
    rw [List.cons_append, List.cons_append, List.cons_append, List.cons_append,
      dropComments_open_of_some (afterCommentEnd_append_of_some h v), ih]
  | case2 body h =>
    rw [List.cons_append, List.cons_append, List.cons_append, List.cons_append,
      dropComments_open_of_none (afterCommentEnd_append_blank_of_none h hv)]
  | case3 => simpa using dropComments_blank_append hv []
  | case4 c rest hnot ih =>
    have hnot' : ∀ body, c = '<' → rest ++ v = '!' :: '-' :: '-' :: body → False :=
      fun body hc h => by
        obtain ⟨r, rfl, -⟩ :=
          eq_append_of_append_blank_eq_append (p := ['!', '-', '-']) (by simp [isBlank]) hv h
        exact hnot r hc rfl
    rw [List.cons_append, dropComments_cons_of_not_open hnot', ih, List.cons_append]

/-- Blanks after a text close no seam. -/
theorem joinTags_append_blank {v : List Char} (hv : ∀ c ∈ v, isBlank c = true) (z : List Char) :
    joinTags (z ++ v) = joinTags z ++ v := by
  match z with
  | [] => simpa using joinTags_append_of_gt_not_mem (gt_not_mem_of_blank hv) []
  | c :: rest =>
    by_cases hc : c = '>'
    · subst hc
      by_cases hseam : ∃ after, rest.dropWhile isBlank = '<' :: after
      · obtain ⟨after, hafter⟩ := hseam
        have := length_lt_of_dropWhile_blank hafter
        have hv' : (rest ++ v).dropWhile isBlank = '<' :: (after ++ v) := by
          rw [List.dropWhile_append, hafter]
          rfl
        rw [List.cons_append, joinTags_gt_of_dropWhile hv', joinTags_gt_of_dropWhile hafter,
          joinTags_append_blank hv after]
        rfl
      · have hno : ∀ after, rest.dropWhile isBlank ≠ '<' :: after :=
          fun after h => hseam ⟨after, h⟩
        -- blanks after the text cannot bring a `<` to the front
        have hv' : ∀ after, (rest ++ v).dropWhile isBlank ≠ '<' :: after := fun after h => by
          rw [List.dropWhile_append] at h
          cases hd : rest.dropWhile isBlank with
          | nil => simp [hd, List.dropWhile_eq_nil_iff.2 hv] at h
          | cons d q =>
            simp only [hd, List.isEmpty_cons, Bool.false_eq_true, if_false, List.cons_append,
              List.cons.injEq] at h
            exact hno q (by rw [hd, h.1])
        rw [List.cons_append, joinTags_gt_of_not_dropWhile hv', joinTags_gt_of_not_dropWhile hno,
          joinTags_append_blank hv rest]
        rfl
    · rw [List.cons_append, joinTags_cons_of_ne hc, joinTags_cons_of_ne hc,
        joinTags_append_blank hv rest]
      rfl
termination_by z.length

/-! ## Trimming -/

/-- A text is its leading blanks, its trimmed text, and its trailing blanks. -/
theorem exists_blank_trim_blank (s : List Char) :
    ∃ w v, (∀ c ∈ w, isBlank c = true) ∧ (∀ c ∈ v, isBlank c = true) ∧ s = w ++ trim s ++ v :=
  ⟨s.takeWhile isBlank, (s.dropWhile isBlank).rtakeWhile isBlank,
    fun _ hc => List.mem_takeWhile_imp hc, fun _ hc => List.mem_rtakeWhile_imp hc, by
      rw [trim_eq_rdropWhile, List.append_assoc, List.rdropWhile_append_rtakeWhile,
        List.takeWhile_append_dropWhile]⟩

/-- A trimmed text squeezes to a trimmed text. -/
theorem Trimmed.squeeze {t : List Char} (h : Trimmed t) : Trimmed (squeeze t) := by
  refine ⟨fun c hc => ?_, fun c hc => ?_⟩
  · cases t with
    | nil => simp at hc
    | cons d r =>
      have hd : isBlank d = false := h.1 d rfl
      rw [squeeze_cons_of_not_blank hd] at hc
      simp only [List.head?_cons, Option.mem_def, Option.some.injEq] at hc
      exact hc ▸ hd
  · rcases List.eq_nil_or_concat' t with rfl | ⟨t', d, rfl⟩
    · simp at hc
    · have hd : isBlank d = false := h.2 d (by simp)
      rw [squeeze_append_cons_of_not_blank hd, squeeze_nil] at hc
      simp only [List.getLast?_append, List.getLast?_singleton, Option.some_or,
        Option.mem_def, Option.some.injEq] at hc
      exact hc ▸ hd

/-- **Squeezing and trimming commute.** -/
theorem trim_squeeze (s : List Char) : trim (squeeze s) = squeeze (trim s) := by
  by_cases htrim : trim s = []
  · rw [htrim, squeeze_nil, trim_eq_nil_iff, ink_squeeze, ← trim_eq_nil_iff, htrim]
  obtain ⟨w, v, hw, hv, hs⟩ := exists_blank_trim_blank s
  have ht : Trimmed (trim s) := trimmed_trim s
  have hmid : squeeze (trim s ++ v) = squeeze (trim s) ++ squeeze v :=
    squeeze_append_of_getLast? ht.2 v
  -- the squeezed text is the squeezed trimmed text between blanks
  have hsq : ∃ p, (∀ c ∈ p, isBlank c = true) ∧
      squeeze s = p ++ (squeeze (trim s) ++ squeeze v) := by
    have hs' : squeeze s = squeeze (w ++ (trim s ++ v)) := by rw [← List.append_assoc, ← hs]
    rw [hs']
    by_cases hw' : w = []
    · exact ⟨[], by simp, by rw [hw', List.nil_append, hmid, List.nil_append]⟩
    · have hne : squeeze (trim s) ≠ [] := by simpa using htrim
      obtain ⟨c, r, hcr⟩ := List.exists_cons_of_ne_nil hne
      have hc : isBlank c = false := (Trimmed.squeeze ht).1 c (by simp [hcr])
      have hhead : (squeeze (trim s)).head? ≠ some ' ' := by
        rw [hcr, List.head?_cons, ne_eq, Option.some.injEq]
        exact fun h => absurd (h ▸ hc) (by decide)
      refine ⟨[' '], by simp [isBlank], ?_⟩
      rw [squeeze_blank_append hw hw', hmid, consSpace_append hne, consSpace_of_head? hhead]
      rfl
  obtain ⟨p, hp, hsq⟩ := hsq
  rw [hsq, trim_blank_append hp, trim_append_blank _ (squeeze_of_blank hv),
    trim_eq_self_iff.2 (Trimmed.squeeze ht)]

/-- A pass that copies the blanks in front of a text and after it. -/
structure PassesBlanks (f : List Char → List Char) : Prop where
  front : ∀ {w}, (∀ c ∈ w, isBlank c = true) → ∀ z, f (w ++ z) = w ++ f z
  back : ∀ {v}, (∀ c ∈ v, isBlank c = true) → ∀ z, f (z ++ v) = f z ++ v

theorem passesBlanks_dropComments : PassesBlanks dropComments :=
  ⟨dropComments_blank_append, dropComments_append_blank⟩

theorem passesBlanks_joinTags : PassesBlanks joinTags :=
  ⟨fun hw => joinTags_append_of_gt_not_mem (gt_not_mem_of_blank hw), joinTags_append_blank⟩

/-- Trimming before a pass that copies outer blanks changes its output only at the ends. -/
theorem PassesBlanks.trim_trim {f : List Char → List Char} (hf : PassesBlanks f) (s : List Char) :
    trim (f (trim s)) = trim (f s) := by
  obtain ⟨w, v, hw, hv, hs⟩ := exists_blank_trim_blank s
  generalize trim s = t at hs ⊢
  subst hs
  rw [List.append_assoc, hf.front hw, hf.back hv, trim_blank_append hw, trim_append_blank _ hv]

/-! ## Texts alike -/

/-- Two texts are alike when, trimmed, they squeeze to the same text. -/
def Alike (x y : List Char) : Prop := squeeze (trim x) = squeeze (trim y)

theorem Alike.trans {x y z : List Char} (hxy : Alike x y) (hyz : Alike y z) : Alike x z :=
  Eq.trans hxy hyz

/-- Alike texts hold the same ink. -/
theorem Alike.ink {x y : List Char} (h : Alike x y) : ink x = ink y := by
  rw [← ink_trim x, ← ink_squeeze, h, ink_squeeze, ink_trim]

/-- A pass that copies outer blanks and sees a text only through its squeezed form sees only
what the trimmed text squeezes to. -/
theorem squeeze_trim_of_passesBlanks {f : List Char → List Char} (hf : PassesBlanks f)
    (hsq : ∀ s, squeeze (f s) = squeeze (f (squeeze s))) (x : List Char) :
    squeeze (trim (f x)) = trim (squeeze (f (squeeze (trim x)))) := by
  rw [← hf.trim_trim, ← trim_squeeze, hsq]

/-- Such a pass takes alike texts to alike texts. -/
theorem Alike.map {f : List Char → List Char} (hf : PassesBlanks f)
    (hsq : ∀ s, squeeze (f s) = squeeze (f (squeeze s))) {x y : List Char} (h : Alike x y) :
    Alike (f x) (f y) := by
  unfold Alike at h ⊢
  rw [squeeze_trim_of_passesBlanks hf hsq, squeeze_trim_of_passesBlanks hf hsq, h]

theorem Alike.dropComments {x y : List Char} (h : Alike x y) :
    Alike (dropComments x) (dropComments y) :=
  h.map passesBlanks_dropComments squeeze_dropComments

theorem Alike.joinTags {x y : List Char} (h : Alike x y) : Alike (joinTags x) (joinTags y) :=
  h.map passesBlanks_joinTags squeeze_joinTags

/-- The blank passes leave a text alike to it with its tags joined. -/
theorem alike_tidy (x : List Char) : Alike (tidy x) (joinTags x) := by
  unfold Alike tidy
  rw [trim_eq_self_iff.2 (Trimmed.collapseRuns (trimmed_trim _)), squeeze_collapseRuns]

end MarkupTidy.Markup
