import MarkupTidy.Markup.Compact
import MarkupTidy.Proofs.Trimming

/-!
# Proofs/Compaction — compact texts, and compacting twice

A text is *compact* (`Compacted`) when it neither starts nor ends with a blank, holds no two blanks
in a row (`NoDoubleBlank`), no blanks between a `>` and a `<` (`NoGap`), and, when comments go,
no comment. The compactor's output is compact, and compacting a compact text changes nothing
(`compact_compacted_idem`). On the way:

* joining tags leaves no blanks between a `>` and a `<` (`noGap_joinTags`); trimming keeps that,
  and collapsing runs keeps it while leaving no two blanks in a row (`noGap_collapseRuns`,
  `noDoubleBlank_collapseRuns`);
* a text holds a comment exactly when deleting comments changes it (`dropComments_eq_self_iff`);
  the repeated passes stop only at a text with none, and what they stop at is the output of a
  pass (`settle_tidy`), so no argument about the blank passes and comment delimiters is needed.
-/

namespace MarkupTidy.Markup

open MarkupTidy.Text

/-! ## Comments -/

/-- A comment: `<!--`, any text, `-->`. -/
def commentText (body : List Char) : List Char := ['<', '!', '-', '-'] ++ body ++ ['-', '-', '>']

/-- Where the first `-->` is found, the text is what comes before it, the `-->`, and the rest. -/
theorem eq_of_afterCommentEnd {s after : List Char} (h : afterCommentEnd s = some after) :
    ∃ pre, s = pre ++ ['-', '-', '>'] ++ after := by
  fun_induction afterCommentEnd s with
  | case1 => simp at h
  | case2 after' =>
    simp only [Option.some.injEq] at h
    exact ⟨[], by simp [h]⟩
  | case3 c rest _ ih =>
    obtain ⟨pre, rfl⟩ := ih h
    exact ⟨c :: pre, rfl⟩

/-- Where no `-->` is found, there is none. -/
theorem not_infix_of_afterCommentEnd {s : List Char} (h : afterCommentEnd s = none) :
    ¬ ['-', '-', '>'] <:+: s := by
  fun_induction afterCommentEnd s with
  | case1 => exact fun hx => by simpa using hx.length_le
  | case2 => simp at h
  | case3 c rest hnot ih =>
    intro hx
    rcases List.infix_cons_iff.1 hx with hpre | hx
    · obtain ⟨t, ht⟩ := hpre
      simp only [List.cons_append, List.nil_append, List.cons.injEq] at ht
      obtain ⟨rfl, rfl⟩ := ht
      exact hnot t rfl rfl
    · exact ih h hx

/-- A comment cannot start at a character other than `<`. -/
theorem commentText_infix_of_cons {c : Char} (hc : c ≠ '<') {body l : List Char}
    (h : commentText body <:+: c :: l) : commentText body <:+: l := by
  rcases List.infix_cons_iff.1 h with ⟨t, ht⟩ | h
  · simp [commentText] at ht
    exact absurd ht.1.symm hc
  · exact h

/-- Deleting comments changes a text only by making it shorter. -/
theorem dropComments_eq_self_of_length {s : List Char}
    (h : (dropComments s).length = s.length) : dropComments s = s := by
  fun_induction dropComments s with
  | case1 body after hafter ih =>
    have := length_afterCommentEnd_lt hafter
    have := length_dropComments_le after
    simp at h
    omega
  | case2 => rfl
  | case3 => rfl
  | case4 c rest _ ih => simp only [List.length_cons, Nat.add_right_cancel_iff] at h; rw [ih h]

/-- **A text holds a comment exactly when deleting comments changes it.** The first `<!--` that a
`-->` follows starts one; a first `<!--` that no `-->` follows leaves none, since every later
`-->` would follow it too. -/
theorem dropComments_eq_self_iff {s : List Char} :
    dropComments s = s ↔ ∀ body, ¬ commentText body <:+: s := by
  fun_induction dropComments s with
  | case1 body after hafter ih =>
    obtain ⟨pre, rfl⟩ := eq_of_afterCommentEnd hafter
    have hlen := length_dropComments_le after
    refine ⟨fun h => absurd (congrArg List.length h) (by simp at hlen ⊢; omega), fun h => ?_⟩
    exact absurd ⟨[], after, by simp [commentText]⟩ (h pre)
  | case2 body hnone =>
    refine ⟨fun _ b hb => ?_, fun _ => rfl⟩
    have hend : ['-', '-', '>'] <:+: commentText b := List.suffix_append _ _ |>.isInfix
    rcases List.infix_cons_iff.1 hb with hpre | hb
    · have hpre : b ++ ['-', '-', '>'] <+: body := by simpa [commentText] using hpre
      exact not_infix_of_afterCommentEnd hnone ((List.suffix_append b _).isInfix.trans hpre.isInfix)
    · have hb := commentText_infix_of_cons (by decide) <| commentText_infix_of_cons (by decide) <|
        commentText_infix_of_cons (by decide) hb
      exact not_infix_of_afterCommentEnd hnone (hend.trans hb)
  | case3 => exact ⟨fun _ b hb => by simpa [commentText] using hb.length_le, fun _ => rfl⟩
  | case4 c rest hnot ih =>
    rw [List.cons.injEq, ih]
    simp only [true_and]
    refine ⟨fun h b hb => ?_, fun h b hb => h b (List.infix_cons hb)⟩
    rcases List.infix_cons_iff.1 hb with ⟨t, ht⟩ | hb
    · simp [commentText] at ht
      exact hnot _ ht.1.symm ht.2.symm
    · exact h b hb

/-- A text holds no comment exactly when deleting comments leaves it as it is. -/
theorem hasComment_eq_false_iff {s : List Char} : hasComment s = false ↔ dropComments s = s := by
  have hle := length_dropComments_le s
  refine ⟨fun h => dropComments_eq_self_of_length ?_, fun h => ?_⟩
  · simp [hasComment] at h
    omega
  · simp [hasComment, h]

/-! ## Blank pairs and gaps -/

/-- No two blanks stand next to each other. -/
def NoDoubleBlank (s : List Char) : Prop :=
  ∀ a b, [a, b] <:+: s → isBlank a = false ∨ isBlank b = false

/-- No blanks stand between a `>` and a `<`. -/
def NoGap (s : List Char) : Prop :=
  ∀ w, w ≠ [] → (∀ c ∈ w, isBlank c = true) → ¬ ('>' :: (w ++ ['<'])) <:+: s

/-- A text starts with blanks that a `<` follows: after a `>`, that makes a gap. -/
def GapAhead (s : List Char) : Prop :=
  (∃ b ∈ s.head?, isBlank b = true) ∧ (s.dropWhile isBlank).head? = some '<'

theorem gapAhead_iff {s : List Char} :
    GapAhead s ↔ ∃ w, w ≠ [] ∧ (∀ c ∈ w, isBlank c = true) ∧ w ++ ['<'] <+: s := by
  constructor
  · rintro ⟨⟨b, hb, hblank⟩, hlt⟩
    obtain ⟨r, rfl⟩ := List.head?_eq_some_iff.1 hb
    rw [List.dropWhile_cons_of_pos hblank] at hlt
    obtain ⟨t, ht⟩ := List.head?_eq_some_iff.1 hlt
    refine ⟨b :: r.takeWhile isBlank, by simp, fun c hc => ?_, t, ?_⟩
    · rcases List.mem_cons.1 hc with rfl | hc
      · exact hblank
      · exact List.mem_takeWhile_imp hc
    · simp only [List.cons_append, List.append_assoc, List.nil_append, List.cons.injEq, true_and]
      rw [← ht, List.takeWhile_append_dropWhile]
  · rintro ⟨w, hw, hblank, t, rfl⟩
    obtain ⟨b, w', rfl⟩ := List.exists_cons_of_ne_nil hw
    refine ⟨⟨b, rfl, hblank b (by simp)⟩, ?_⟩
    simp only [List.cons_append, List.append_assoc]
    rw [List.dropWhile_cons_of_pos (hblank b (by simp)),
      List.dropWhile_append_of_pos (fun c hc => hblank c (by simp [hc])),
      List.dropWhile_cons_of_neg (by decide)]
    rfl

/-- Whether a gap lies ahead is read off the first character and the first character that is
no blank. -/
theorem gapAhead_congr {x y : List Char} (h1 : x.head?.map isBlank = y.head?.map isBlank)
    (h2 : (x.dropWhile isBlank).head? = (y.dropWhile isBlank).head?) :
    GapAhead x ↔ GapAhead y := by
  unfold GapAhead
  rw [h2]
  cases hx : x.head? <;> cases hy : y.head? <;> simp_all

theorem noGap_cons_iff {c : Char} {s : List Char} :
    NoGap (c :: s) ↔ (c = '>' → ¬ GapAhead s) ∧ NoGap s := by
  simp only [NoGap, gapAhead_iff, List.infix_cons_iff, List.cons_prefix_cons, not_or]
  constructor
  · intro h
    exact ⟨fun hc ⟨w, hw, hb, hpre⟩ => (h w hw hb).1 ⟨hc.symm, hpre⟩,
      fun w hw hb => (h w hw hb).2⟩
  · rintro ⟨h1, h2⟩ w hw hb
    exact ⟨fun ⟨hc, hpre⟩ => h1 hc.symm ⟨w, hw, hb, hpre⟩, h2 w hw hb⟩

theorem noDoubleBlank_cons_iff {c : Char} {s : List Char} :
    NoDoubleBlank (c :: s) ↔ (isBlank c = true → ∀ b ∈ s.head?, isBlank b = false) ∧
      NoDoubleBlank s := by
  simp only [NoDoubleBlank, List.infix_cons_iff, List.cons_prefix_cons]
  constructor
  · intro h
    refine ⟨fun hc b hb => ?_, fun a b hab => h a b (.inr hab)⟩
    obtain ⟨r, rfl⟩ := List.head?_eq_some_iff.1 hb
    simpa [hc] using h c b (.inl ⟨rfl, by simp⟩)
  · rintro ⟨h1, h2⟩ a b (⟨rfl, hpre⟩ | hab)
    · by_cases ha : isBlank a = true
      · obtain ⟨r, rfl⟩ : ∃ r, s = b :: r := by
          obtain ⟨t, rfl⟩ := hpre
          exact ⟨t, rfl⟩
        exact .inr (h1 ha b rfl)
      · exact .inl (by simpa using ha)
    · exact h2 a b hab

theorem NoGap.of_isInfix {x y : List Char} (hy : NoGap y) (hxy : x <:+: y) : NoGap x :=
  fun w hw hb hgap => hy w hw hb (hgap.trans hxy)

theorem noGap_nil : NoGap [] :=
  fun w _ _ h => by simpa using h.length_le

theorem noDoubleBlank_of_length_le {s : List Char} (h : s.length ≤ 1) : NoDoubleBlank s :=
  fun a b hab => absurd hab.length_le (by simp; omega)

/-! ## Joining tags -/

-- The equations of `joinTags` and `collapseRuns` are read off their unfolding (`eq_def`): the
-- equation lemmas Lean derives for them on demand take many seconds to build.
@[simp] theorem joinTags_nil : joinTags [] = [] := by
  rw [joinTags.eq_def]

/-- Only a `>` can start a gap, so joining tags copies any other character. -/
theorem joinTags_cons_of_ne {c : Char} (h : c ≠ '>') (rest : List Char) :
    joinTags (c :: rest) = c :: joinTags rest := by
  rw [joinTags.eq_def]
  split <;> simp_all

theorem head?_joinTags (s : List Char) : (joinTags s).head? = s.head? := by
  fun_cases joinTags s <;> simp

/-- Joining tags passes over leading blanks: what follows them is joined on its own. -/
theorem dropWhile_joinTags (s : List Char) :
    (joinTags s).dropWhile isBlank = joinTags (s.dropWhile isBlank) := by
  induction s with
  | nil => simp
  | cons c r ih =>
    by_cases hc : isBlank c = true
    · have hne : c ≠ '>' := by rintro rfl; simp [isBlank] at hc
      rw [joinTags_cons_of_ne hne, List.dropWhile_cons_of_pos hc, List.dropWhile_cons_of_pos hc, ih]
    · obtain ⟨t, ht⟩ := List.head?_eq_some_iff.1 ((head?_joinTags (c :: r)).trans rfl)
      rw [List.dropWhile_cons_of_neg hc, ht, List.dropWhile_cons_of_neg hc]

theorem gapAhead_joinTags_iff {s : List Char} : GapAhead (joinTags s) ↔ GapAhead s :=
  gapAhead_congr (by rw [head?_joinTags]) (by rw [dropWhile_joinTags, head?_joinTags])

/-- **Joining tags leaves no blanks between a `>` and a `<`.** A `>` that it keeps is followed
either by a `<` it joined on, or by what the text had after it, which is no gap. -/
theorem noGap_joinTags (s : List Char) : NoGap (joinTags s) := by
  fun_induction joinTags s with
  | case1 b more _ after _ _ ih =>
    refine noGap_cons_iff.2 ⟨fun _ hgap => ?_, noGap_cons_iff.2 ⟨by simp, ih⟩⟩
    obtain ⟨⟨x, hx, hxb⟩, -⟩ := hgap
    simp only [List.head?_cons, Option.mem_def, Option.some.injEq] at hx
    subst hx
    simp [isBlank] at hxb
  | case2 b more hb hnot ih =>
    refine noGap_cons_iff.2 ⟨fun _ hgap => ?_, ih⟩
    obtain ⟨-, hlt⟩ := gapAhead_joinTags_iff.1 hgap
    rw [List.dropWhile_cons_of_pos hb] at hlt
    obtain ⟨t, ht⟩ := List.head?_eq_some_iff.1 hlt
    exact hnot t ht
  | case3 b more hb ih =>
    refine noGap_cons_iff.2 ⟨fun _ hgap => ?_, ih⟩
    obtain ⟨⟨x, hx, hxb⟩, -⟩ := gapAhead_joinTags_iff.1 hgap
    simp only [List.head?_cons, Option.mem_def, Option.some.injEq] at hx
    exact hb (hx ▸ hxb)
  | case4 => exact noGap_nil
  | case5 c rest hnot ih =>
    refine noGap_cons_iff.2 ⟨fun hc hgap => ?_, ih⟩
    cases rest with
    | nil => simp [GapAhead] at hgap
    | cons b more => exact hnot b more hc rfl

/-- Joining tags leaves a text without gaps as it is. -/
theorem joinTags_of_noGap {s : List Char} (h : NoGap s) : joinTags s = s := by
  fun_induction joinTags s with
  | case1 b more hb after hafter _ _ =>
    refine absurd ⟨⟨b, rfl, hb⟩, ?_⟩ ((noGap_cons_iff.1 h).1 rfl)
    rw [List.dropWhile_cons_of_pos hb, hafter]
    rfl
  | case2 _ _ _ _ ih | case3 _ _ _ ih => rw [ih (noGap_cons_iff.1 h).2]
  | case4 => rfl
  | case5 c rest _ ih => rw [ih (noGap_cons_iff.1 h).2]

/-! ## Collapsing runs -/

theorem collapseRuns_cons_cons (a b : Char) (more : List Char) :
    collapseRuns (a :: b :: more) =
      if isBlank a && isBlank b then ' ' :: collapseRuns (more.dropWhile isBlank)
      else a :: collapseRuns (b :: more) := by
  rw [collapseRuns.eq_def]

/-- Collapsing's last case: a text without two characters to look at is at most one long. -/
theorem length_le_one_of_short {s : List Char}
    (h : ∀ (a b : Char) (more : List Char), s = a :: b :: more → False) : s.length ≤ 1 := by
  rcases s with _ | ⟨a, _ | ⟨b, more⟩⟩
  · simp
  · simp
  · exact absurd rfl (h a b more)

theorem collapseRuns_of_length_le {s : List Char} (h : s.length ≤ 1) : collapseRuns s = s := by
  match s, h with
  | [], _ => rw [collapseRuns.eq_def]
  | [a], _ => rw [collapseRuns.eq_def]

/-- A collapsed text starts with a blank exactly when the text does. -/
theorem head?_map_collapseRuns (s : List Char) :
    (collapseRuns s).head?.map isBlank = s.head?.map isBlank := by
  fun_cases collapseRuns s with
  | case1 a b more h =>
    simp only [Bool.and_eq_true] at h
    simp [h.1]
    decide
  | case2 => simp
  | case3 => rfl

/-- A text that starts with no blank keeps its first character. -/
theorem head?_collapseRuns_of_not_blank {s : List Char} (h : ∀ c ∈ s.head?, isBlank c = false) :
    (collapseRuns s).head? = s.head? := by
  fun_cases collapseRuns s with
  | case1 a b more hab =>
    simp only [Bool.and_eq_true] at hab
    simp [hab.1] at h
  | case2 => simp
  | case3 => rfl

theorem collapseRuns_eq_nil_iff {s : List Char} : collapseRuns s = [] ↔ s = [] := by
  have := head?_map_collapseRuns s
  constructor
  · intro h
    rw [h] at this
    cases s <;> simp_all
  · rintro rfl
    exact collapseRuns_of_length_le (by simp)

/-- Collapsing passes over leading blanks: what follows them is collapsed on its own. -/
theorem dropWhile_collapseRuns (s : List Char) :
    (collapseRuns s).dropWhile isBlank = collapseRuns (s.dropWhile isBlank) := by
  fun_induction collapseRuns s with
  | case1 a b more hab _ ih =>
    simp only [Bool.and_eq_true] at hab
    rw [List.dropWhile_cons_of_pos (by decide), ih, List.dropWhile_idempotent,
      List.dropWhile_cons_of_pos hab.1, List.dropWhile_cons_of_pos hab.2]
  | case2 a b more hab ih =>
    by_cases ha : isBlank a = true
    · have hb : isBlank b = false := by simpa [ha] using hab
      rw [List.dropWhile_cons_of_pos ha, ih, List.dropWhile_cons_of_pos ha,
        List.dropWhile_cons_of_neg (by simp [hb])]
    · rw [List.dropWhile_cons_of_neg ha, List.dropWhile_cons_of_neg ha, collapseRuns_cons_cons,
        if_neg hab]
  | case3 s hshort =>
    rw [collapseRuns_of_length_le
      (Nat.le_trans (List.dropWhile_sublist _).length_le (length_le_one_of_short hshort))]

/-- What is left after the leading blanks starts with no blank. -/
theorem isBlank_head?_dropWhile (l : List Char) :
    ∀ c ∈ (l.dropWhile isBlank).head?, isBlank c = false := by
  intro c hc
  obtain ⟨t, ht⟩ := List.head?_eq_some_iff.1 hc
  have := List.head_dropWhile_not isBlank (l := l) (by simp [ht])
  simpa [ht] using this

theorem gapAhead_collapseRuns_iff {s : List Char} : GapAhead (collapseRuns s) ↔ GapAhead s := by
  refine gapAhead_congr (head?_map_collapseRuns s) ?_
  rw [dropWhile_collapseRuns, head?_collapseRuns_of_not_blank (isBlank_head?_dropWhile s)]

/-- **Collapsing leaves no two blanks in a row**: a run of two or more becomes one space, which
the next character, the first after the run, cannot join. -/
theorem noDoubleBlank_collapseRuns (s : List Char) : NoDoubleBlank (collapseRuns s) := by
  fun_induction collapseRuns s with
  | case1 a b more _ _ ih =>
    refine noDoubleBlank_cons_iff.2 ⟨fun _ c hc => ?_, ih⟩
    rw [head?_collapseRuns_of_not_blank (isBlank_head?_dropWhile more)] at hc
    exact isBlank_head?_dropWhile more c hc
  | case2 a b more hab ih =>
    refine noDoubleBlank_cons_iff.2 ⟨fun ha c hc => ?_, ih⟩
    have hb : isBlank b = false := by simpa [ha] using hab
    have := head?_map_collapseRuns (b :: more)
    rw [hc] at this
    simpa [hb] using this
  | case3 s hshort => exact noDoubleBlank_of_length_le (length_le_one_of_short hshort)

/-- **Collapsing makes no gap**: it changes only how long a run of blanks is, never whether one
stands between a `>` and a `<`. -/
theorem noGap_collapseRuns {s : List Char} (h : NoGap s) : NoGap (collapseRuns s) := by
  fun_induction collapseRuns s with
  | case1 a b more _ _ ih =>
    refine noGap_cons_iff.2 ⟨fun hsp => absurd hsp (by decide), ih (h.of_isInfix ?_)⟩
    exact ((List.dropWhile_suffix isBlank).trans (List.suffix_cons _ _) |>.trans
      (List.suffix_cons _ _)).isInfix
  | case2 a b more _ ih =>
    obtain ⟨hgap, htail⟩ := noGap_cons_iff.1 h
    exact noGap_cons_iff.2 ⟨fun ha hg => hgap ha (gapAhead_collapseRuns_iff.1 hg), ih htail⟩
  | case3 => exact h

/-- Dropping leading characters keeps the last one when it is not dropped. -/
theorem getLast?_dropWhile {p : Char → Bool} {l : List Char}
    (h : ∀ c ∈ l.getLast?, p c = false) : (l.dropWhile p).getLast? = l.getLast? := by
  induction l with
  | nil => rfl
  | cons x l ih =>
    by_cases hx : p x = true
    · cases l with
      | nil => simp_all
      | cons y l =>
        rw [List.dropWhile_cons_of_pos hx, List.getLast?_cons_cons] at *
        exact ih h
    · rw [List.dropWhile_cons_of_neg hx]

/-- A text that ends with no blank keeps its last character. -/
theorem getLast?_collapseRuns {s : List Char} (h : ∀ c ∈ s.getLast?, isBlank c = false) :
    (collapseRuns s).getLast? = s.getLast? := by
  fun_induction collapseRuns s with
  | case1 a b more _ _ ih =>
    have hmore : more ≠ [] := by rintro rfl; simp_all
    obtain ⟨m, ms, rfl⟩ := List.exists_cons_of_ne_nil hmore
    simp only [List.getLast?_cons_cons] at h ⊢
    have hd : ((m :: ms).dropWhile isBlank).getLast? = (m :: ms).getLast? := getLast?_dropWhile h
    have hne : collapseRuns ((m :: ms).dropWhile isBlank) ≠ [] := by
      rw [Ne, collapseRuns_eq_nil_iff]
      intro hnil
      rw [hnil] at hd
      exact List.cons_ne_nil m ms (List.getLast?_eq_none_iff.1 hd.symm)
    obtain ⟨y, ys, hy⟩ := List.exists_cons_of_ne_nil hne
    rw [hy, List.getLast?_cons_cons, ← hy, ih (by rw [hd]; exact h), hd]
  | case2 a b more _ ih =>
    rw [List.getLast?_cons_cons] at h
    have hne : collapseRuns (b :: more) ≠ [] := by simp [collapseRuns_eq_nil_iff]
    obtain ⟨y, ys, hy⟩ := List.exists_cons_of_ne_nil hne
    rw [hy, List.getLast?_cons_cons, ← hy, ih h, List.getLast?_cons_cons]
  | case3 => rfl

theorem Trimmed.collapseRuns {s : List Char} (h : Trimmed s) : Trimmed (collapseRuns s) :=
  ⟨by rw [head?_collapseRuns_of_not_blank h.1]; exact h.1,
    by rw [getLast?_collapseRuns h.2]; exact h.2⟩

/-- Collapsing leaves a text without two blanks in a row as it is. -/
theorem collapseRuns_of_noDoubleBlank {s : List Char} (h : NoDoubleBlank s) :
    collapseRuns s = s := by
  fun_induction collapseRuns s with
  | case1 a b more hab _ =>
    simp only [Bool.and_eq_true] at hab
    rcases h a b ⟨[], more, rfl⟩ with ha | hb
    · simp [hab.1] at ha
    · simp [hab.2] at hb
  | case2 a b more _ ih => rw [ih (noDoubleBlank_cons_iff.1 h).2]
  | case3 => rfl

/-! ## Compact texts -/

/-- A compact text: no blank at either end, no two blanks in a row, no blanks between a `>` and a
`<`, and, when comments go, no comment. -/
structure Compacted (dropsComments : Bool) (s : List Char) : Prop where
  trimmed : Trimmed s
  noDoubleBlank : NoDoubleBlank s
  noGap : NoGap s
  noComment : dropsComments = true → ∀ body, ¬ commentText body <:+: s

/-- **A pass over the blanks leaves no blank at either end, no two blanks in a row and no gap**:
trimming keeps what joining tags gave, and collapsing keeps both. -/
theorem tidy_spec (s : List Char) :
    Trimmed (tidy s) ∧ NoDoubleBlank (tidy s) ∧ NoGap (tidy s) :=
  ⟨Trimmed.collapseRuns (trimmed_trim _), noDoubleBlank_collapseRuns _,
    noGap_collapseRuns ((noGap_joinTags s).of_isInfix (trim_isInfix _))⟩

/-- A pass over the blanks leaves a text that needs none as it is. -/
theorem tidy_eq_self {s : List Char} (h1 : Trimmed s) (h2 : NoDoubleBlank s) (h3 : NoGap s) :
    tidy s = s := by
  rw [tidy, joinTags_of_noGap h3, trim_eq_self_iff.2 h1, collapseRuns_of_noDoubleBlank h2]

theorem settle_of_hasComment_eq_false {s : List Char} (h : hasComment s = false) :
    settle s = s := by
  rw [settle]
  simp [h]

/-- **The repeated passes stop at the output of a pass, and it holds no comment.** -/
theorem settle_tidy (x : List Char) (hx : ∃ y, x = tidy y) :
    ∃ y, settle x = tidy y ∧ hasComment (settle x) = false := by
  fun_induction settle x with
  | case1 x _ _ ih => exact ih ⟨_, rfl⟩
  | case2 x hc =>
    obtain ⟨y, rfl⟩ := hx
    exact ⟨y, rfl, by simpa using hc⟩

/-- The compactor's output is compact. -/
theorem compacted_compact (dropsComments : Bool) (s : List Char) :
    Compacted dropsComments (compact dropsComments s) := by
  cases dropsComments with
  | false =>
    obtain ⟨h1, h2, h3⟩ := tidy_spec s
    exact ⟨h1, h2, h3, nofun⟩
  | true =>
    obtain ⟨y, hy, hc⟩ := settle_tidy (tidy (dropComments s)) ⟨_, rfl⟩
    have hcompact : compact true s = tidy y := hy
    obtain ⟨h1, h2, h3⟩ := tidy_spec y
    rw [hy] at hc
    rw [hcompact]
    exact ⟨h1, h2, h3, fun _ => dropComments_eq_self_iff.1 (hasComment_eq_false_iff.1 hc)⟩

/-- Compacting a compact text changes nothing. -/
theorem compact_of_compacted {dropsComments : Bool} {s : List Char}
    (h : Compacted dropsComments s) : compact dropsComments s = s := by
  have htidy := tidy_eq_self h.trimmed h.noDoubleBlank h.noGap
  cases dropsComments with
  | false => exact htidy
  | true =>
    have hdrop : dropComments s = s := dropComments_eq_self_iff.2 (h.noComment rfl)
    show settle (tidy (dropComments s)) = s
    rw [hdrop, htidy, settle_of_hasComment_eq_false (hasComment_eq_false_iff.2 hdrop)]

/-- **The compactor's output is compact, so compacting it again changes nothing**: it neither
starts nor ends with a blank, holds no two blanks in a row and no blanks between a `>` and a
`<`, and, when comments go, holds no comment. -/
theorem compact_compacted_idem (dropsComments : Bool) (s : List Char) :
    Compacted dropsComments (compact dropsComments s) ∧
      compact dropsComments (compact dropsComments s) = compact dropsComments s :=
  ⟨compacted_compact dropsComments s, compact_of_compacted (compacted_compact dropsComments s)⟩

end MarkupTidy.Markup
