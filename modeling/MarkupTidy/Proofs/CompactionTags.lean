import MarkupTidy.Proofs.Cutting
import MarkupTidy.Proofs.Compaction

/-!
# Proofs/CompactionTags — compacting keeps the tags

Compaction deletes the blanks between a `>` and a `<`, trims the text and shortens runs of
blanks. None of this changes what the scan reads. The scan is cut after every `>`
(`Proofs.Cutting`), blanks before a piece are stepped over, and inside a piece a run of blanks
still stands between the same two characters, so a `<` starts the same tag, with the same name,
and a tag still ends in `/>` or not.

* `map_shape_scanFrom_joinTags`, `map_shape_scanFrom_trim`, `map_shape_scanFrom_collapseRuns` —
  each blank pass keeps the shapes of the tags;
* `noComment_tidy` — the blank passes make no comment where there was none, so on a text without
  comments compaction that deletes them makes one pass (`compact_true_of_noComment`);
* `compact_keeps_tags` — the compacted text has tags of the same names and kinds in the same
  order, and its check reports the same issues, but for where they are.
-/

namespace MarkupTidy.Markup

open MarkupTidy.Text

/-! ## Blanks -/

theorem lt_not_mem_of_blank {w : List Char} (hw : ∀ c ∈ w, isBlank c = true) : '<' ∉ w :=
  fun h => absurd (hw _ h) (by decide)

theorem gt_not_mem_of_blank {w : List Char} (hw : ∀ c ∈ w, isBlank c = true) : '>' ∉ w :=
  fun h => absurd (hw _ h) (by decide)

/-- Letters and digits are no blanks. -/
theorem isBlank_eq_false_of_isNameChar {c : Char} (h : isNameChar c = true) :
    isBlank c = false := by
  have hrange : 48 ≤ c.toNat ∧ c.toNat ≤ 122 := by
    have hv : c.toNat = c.val.toNat := rfl
    delta isNameChar Char.isAlphanum Char.isAlpha Char.isUpper Char.isLower Char.isDigit at h
    simp only [Bool.or_eq_true, Bool.and_eq_true, decide_eq_true_eq] at h
    rcases h with (⟨h1, h2⟩ | ⟨h1, h2⟩) | ⟨h1, h2⟩ <;>
      simp [UInt32.le_iff_toNat_le] at h1 h2 <;> omega
  unfold isBlank
  generalize c.toNat = n at hrange
  simp
  omega

theorem isNameChar_of_isNameStart {c : Char} (h : isNameStart c = true) : isNameChar c = true := by
  unfold isNameStart at h
  simp [isNameChar, Char.isAlphanum, h]

theorem isNameChar_eq_false_of_blank {c : Char} (h : isBlank c = true) : isNameChar c = false := by
  cases hc : isNameChar c
  · rfl
  · rw [isBlank_eq_false_of_isNameChar hc] at h
    cases h

theorem isNameStart_eq_false_of_blank {c : Char} (h : isBlank c = true) : isNameStart c = false := by
  cases hc : isNameStart c
  · rfl
  · have hn := isNameChar_of_isNameStart hc
    rw [isNameChar_eq_false_of_blank h] at hn
    cases hn

/-- A `<` followed by a blank starts no tag. -/
theorem lexeme?_lt_blank {d : Char} (hd : isBlank d = true) (rest : List Char) :
    lexeme? ('<' :: d :: rest) = none := by
  have hbang : d ≠ '!' := by rintro rfl; simp [isBlank] at hd
  have hslash : d ≠ '/' := by rintro rfl; simp [isBlank] at hd
  rw [lexeme?_lt_of_ne hbang hslash]
  simp [elementLexeme?, elementBody?, isNameStart_eq_false_of_blank hd]

/-- Leading blanks do not change the shapes of the tags. -/
theorem map_shape_scanFrom_dropWhile (s : List Char) (pos pos' : Nat) :
    (scanFrom (s.dropWhile isBlank) pos).map Tag.shape = (scanFrom s pos').map Tag.shape := by
  have hsplit : s.takeWhile isBlank ++ s.dropWhile isBlank = s := List.takeWhile_append_dropWhile
  have hlt : '<' ∉ s.takeWhile isBlank :=
    lt_not_mem_of_blank fun c hc => List.mem_takeWhile_imp hc
  calc (scanFrom (s.dropWhile isBlank) pos).map Tag.shape
      = (scanFrom (s.dropWhile isBlank) (pos' + (s.takeWhile isBlank).length)).map Tag.shape :=
        map_shape_scanFrom _ _ _
    _ = (scanFrom s pos').map Tag.shape := by
        rw [← scanFrom_append_of_lt_not_mem hlt, hsplit]

/-- **Trimming keeps the shapes of the tags**: leading blanks are stepped over, and trailing ones
hold no `>`. -/
theorem map_shape_scanFrom_trim (s : List Char) (pos pos' : Nat) :
    (scanFrom (trim s) pos).map Tag.shape = (scanFrom s pos').map Tag.shape := by
  have hsplit := List.rdropWhile_append_rtakeWhile (p := isBlank) (l := s.dropWhile isBlank)
  have hgt : '>' ∉ (s.dropWhile isBlank).rtakeWhile isBlank :=
    gt_not_mem_of_blank fun c hc => List.mem_rtakeWhile_imp hc
  rw [trim_eq_rdropWhile, ← scanFrom_append_of_gt_not_mem _ hgt, hsplit,
    map_shape_scanFrom_dropWhile]

/-- A text holding a `>` is cut at its first one. -/
theorem exists_eq_append_gt {s : List Char} (h : '>' ∈ s) :
    ∃ x y, s = x ++ '>' :: y ∧ '>' ∉ x := by
  induction s with
  | nil => simp at h
  | cons c s ih =>
    by_cases hc : c = '>'
    · exact ⟨[], s, by rw [hc]; rfl, by simp⟩
    · obtain ⟨x, y, rfl, hx⟩ := ih (by simpa [Ne.symm hc] using h)
      exact ⟨c :: x, y, rfl, by simp [Ne.symm hc, hx]⟩

/-! ## Joining tags -/

/-- Joining tags copies a text without `>`. -/
theorem joinTags_append_of_gt_not_mem {x : List Char} (hx : '>' ∉ x) (z : List Char) :
    joinTags (x ++ z) = x ++ joinTags z := by
  induction x with
  | nil => rfl
  | cons c x ih =>
    simp only [List.mem_cons, not_or] at hx
    rw [List.cons_append, joinTags_cons_of_ne (Ne.symm hx.1), ih hx.2, List.cons_append]

/-- After a `>`, joining tags drops the blanks before a `<`, or nothing. -/
theorem joinTags_gt (y : List Char) : ∃ w y', y = w ++ y' ∧ (∀ c ∈ w, isBlank c = true) ∧
    joinTags ('>' :: y) = '>' :: joinTags y' := by
  generalize hs : '>' :: y = s
  fun_cases joinTags s with
  | case1 b more hb after h =>
    simp only [List.cons.injEq, true_and] at hs
    subst hs
    refine ⟨b :: more.takeWhile isBlank, '<' :: after, ?_, ?_, ?_⟩
    · rw [List.cons_append, ← h, List.takeWhile_append_dropWhile]
    · intro c hc
      rcases List.mem_cons.1 hc with rfl | hc
      · exact hb
      · exact List.mem_takeWhile_imp hc
    · rw [joinTags_cons_of_ne (by decide)]
  | case2 b more hb hno | case3 b more hb =>
    simp only [List.cons.injEq, true_and] at hs
    exact ⟨[], y, rfl, by simp, by rw [hs]⟩
  | case4 => simp at hs
  | case5 c rest hno =>
    simp only [List.cons.injEq] at hs
    obtain ⟨rfl, rfl⟩ := hs
    exact ⟨[], y, rfl, by simp, rfl⟩

/-- **Joining tags keeps the shapes of the tags.** Up to its first `>` a text is copied, and the
blanks it drops after that `>` would have been stepped over. -/
theorem map_shape_scanFrom_joinTags (s : List Char) (pos pos' : Nat) :
    (scanFrom (joinTags s) pos).map Tag.shape = (scanFrom s pos').map Tag.shape := by
  by_cases hs : '>' ∈ s
  · obtain ⟨x, y, rfl, hx⟩ := exists_eq_append_gt hs
    obtain ⟨w, y', rfl, hw, hj⟩ := joinTags_gt y
    rw [joinTags_append_of_gt_not_mem hx, hj, scanFrom_append_gt x (joinTags y'),
      scanFrom_append_gt x (w ++ y'),
      List.map_append, List.map_append, map_shape_scanFrom (x ++ ['>']) pos pos',
      scanFrom_append_of_lt_not_mem (lt_not_mem_of_blank hw),
      map_shape_scanFrom_joinTags y' _ (pos' + x.length + 1 + w.length)]
  · have hid : joinTags s = s := by
      simpa using joinTags_append_of_gt_not_mem hs []
    rw [hid, map_shape_scanFrom]
termination_by s.length
decreasing_by
  all_goals subst_vars
  all_goals simp only [List.length_append, List.length_cons]
  all_goals omega

/-! ## Collapsing runs -/

theorem collapseRuns_nil : collapseRuns [] = [] :=
  collapseRuns_of_length_le (by simp)

/-- Collapsing copies a character that is no blank. -/
theorem collapseRuns_cons_of_not_blank {c : Char} (hc : isBlank c = false) (s : List Char) :
    collapseRuns (c :: s) = c :: collapseRuns s := by
  cases s with
  | nil => rw [collapseRuns_of_length_le (by simp), collapseRuns_nil]
  | cons b more => rw [collapseRuns_cons_cons, if_neg (by simp [hc])]

/-- **A character that is no blank cuts the collapsing in two**: no run reaches across it. -/
theorem collapseRuns_append_cons_of_not_blank {c : Char} (hc : isBlank c = false)
    (x y : List Char) : collapseRuns (x ++ c :: y) = collapseRuns x ++ c :: collapseRuns y := by
  fun_induction collapseRuns x with
  | case1 a b more hab _ ih =>
    simp only [List.cons_append]
    rw [collapseRuns_cons_cons, if_pos hab, dropWhile_append_cons_of_neg hc, ih]
  | case2 a b more hab ih =>
    simp only [List.cons_append]
    rw [collapseRuns_cons_cons, if_neg hab, ← List.cons_append, ih]
  | case3 s hshort =>
    rcases s with _ | ⟨a, _ | ⟨b, more⟩⟩
    · simp only [List.nil_append, collapseRuns_cons_of_not_blank hc]
    · rw [List.singleton_append, collapseRuns_cons_cons, if_neg (by simp [hc]),
        collapseRuns_cons_of_not_blank hc]
      rfl
    · exact absurd rfl (hshort a b more)

/-- Collapsing makes no character but a space. -/
theorem mem_of_mem_collapseRuns {c : Char} (hc : isBlank c = false) {s : List Char}
    (h : c ∈ collapseRuns s) : c ∈ s := by
  fun_induction collapseRuns s with
  | case1 a b more _ _ ih =>
    rcases List.mem_cons.1 h with rfl | h
    · exact absurd hc (by decide)
    · exact List.mem_cons_of_mem _ (List.mem_cons_of_mem _
        ((List.dropWhile_sublist _).subset (ih h)))
  | case2 a b more _ ih =>
    rcases List.mem_cons.1 h with rfl | h
    · exact List.mem_cons_self
    · exact List.mem_cons_of_mem _ (ih h)
  | case3 => exact h

/-- A piece at the end of a list that is not empty ends with the list's last element. -/
theorem getLast?_of_suffix {l₁ l₂ : List Char} (h : l₁ <:+ l₂) (hne : l₁ ≠ []) :
    l₁.getLast? = l₂.getLast? := by
  obtain ⟨t, rfl⟩ := h
  exact (List.getLast?_append_of_ne_nil _ hne).symm

/-- A collapsed text ends with a blank exactly when the text does. -/
theorem getLast?_map_collapseRuns (s : List Char) :
    (collapseRuns s).getLast?.map isBlank = s.getLast?.map isBlank := by
  fun_induction collapseRuns s with
  | case1 a b more hab _ ih =>
    simp only [Bool.and_eq_true] at hab
    by_cases hd : more.dropWhile isBlank = []
    · -- the run reaches the end: both end with a blank
      have hall : ∀ e ∈ a :: b :: more, isBlank e = true :=
        List.forall_mem_cons.2 ⟨hab.1, List.forall_mem_cons.2 ⟨hab.2,
          by simpa using List.dropWhile_eq_nil_iff.1 hd⟩⟩
      have hlast : (a :: b :: more).getLast? = some ((a :: b :: more).getLast (by simp)) :=
        List.getLast?_eq_some_getLast _
      rw [hd, collapseRuns_nil, hlast, Option.map_some, hall _ (List.getLast_mem _)]
      rfl
    · have hne : collapseRuns (more.dropWhile isBlank) ≠ [] := by
        rwa [Ne, collapseRuns_eq_nil_iff]
      rw [← getLast?_of_suffix (List.suffix_cons _ _) hne, ih,
        getLast?_of_suffix ((List.dropWhile_suffix isBlank).trans
          ((List.suffix_cons _ _).trans (List.suffix_cons _ _))) hd]
  | case2 a b more _ ih =>
    have hne : collapseRuns (b :: more) ≠ [] := by simp [collapseRuns_eq_nil_iff]
    rw [← getLast?_of_suffix (List.suffix_cons _ _) hne, ih,
      getLast?_of_suffix (List.suffix_cons _ _) (List.cons_ne_nil _ _)]
  | case3 => rfl

/-- A collapsed text ends with a character that is no blank exactly when the text does. -/
theorem getLast?_collapseRuns_eq_iff {c : Char} (hc : isBlank c = false) {s : List Char} :
    (collapseRuns s).getLast? = some c ↔ s.getLast? = some c := by
  constructor
  · intro h
    have hmap := getLast?_map_collapseRuns s
    rw [h] at hmap
    rw [← getLast?_collapseRuns (fun d hd => ?_), h]
    cases hs : s.getLast? with
    | none => simp [hs] at hmap
    | some e =>
      rw [hs] at hd
      cases hd
      simpa [hs, hc] using hmap.symm
  · intro h
    rw [getLast?_collapseRuns (by rw [h]; simpa using hc), h]

/-! ## Reading a piece after collapsing -/

/-- The name and kind of what a `<` reads. -/
def lexemeShape (l : Kind × String × List Char) : String × Kind := (l.2.1, l.1)

theorem throughGt_append_of_gt_not_mem {z : List Char} (hz : '>' ∉ z) :
    throughGt (z ++ ['>']) = some (z ++ ['>']) := by
  induction z with
  | nil => simp [throughGt]
  | cons c z ih =>
    simp only [List.mem_cons, not_or] at hz
    simp [throughGt, Ne.symm hz.1, ih hz.2]

theorem takeWhile_append_singleton_of_neg {p : Char → Bool} {c : Char} (hc : p c = false)
    (z : List Char) : (z ++ [c]).takeWhile p = z.takeWhile p := by
  induction z with
  | nil => simp [hc]
  | cons d z ih => simp only [List.cons_append, List.takeWhile_cons, ih]

/-- **An element tag read from a piece that ends at its first `>`** is the whole piece: it is
read when the piece starts with a letter, and its name is the run of letters and digits there. -/
theorem elementLexeme?_chunk (lead : List Char) {b : List Char} (hb : '>' ∉ b) :
    elementLexeme? lead (b ++ ['>']) =
      if b.head?.any isNameStart then
        some (classify (lead ++ b ++ ['>']) (String.ofList ((b.takeWhile isNameChar).map Char.toLower)),
          String.ofList ((b.takeWhile isNameChar).map Char.toLower), lead ++ b ++ ['>'])
      else none := by
  have hgt : isNameChar '>' = false := by decide
  cases b with
  | nil => simp [elementLexeme?, elementBody?, isNameStart]
  | cons c b =>
    have hdrop : '>' ∉ (c :: b).dropWhile isNameChar :=
      fun h => hb ((List.dropWhile_sublist _).subset h)
    by_cases hs : isNameStart c = true
    · have hraw : lead ++ (c :: b).takeWhile isNameChar ++ ((c :: b).dropWhile isNameChar ++ ['>']) =
          lead ++ (c :: b) ++ ['>'] := by
        rw [← List.append_assoc, List.append_assoc lead, List.takeWhile_append_dropWhile]
      simp only [elementLexeme?, elementBody?, List.head?_cons, Option.any_some, List.cons_append,
        hs, if_true]
      rw [← List.cons_append, takeWhile_append_singleton_of_neg hgt,
        dropWhile_append_cons_of_neg hgt, throughGt_append_of_gt_not_mem hdrop]
      simp only [Option.map_some]
      rw [hraw]
    · simp [elementLexeme?, elementBody?, hs]

/-- Whether a text ends in `/>` is read off the character before its last `>`. -/
theorem isSuffixOf_slash_gt (u : List Char) :
    ['/', '>'].isSuffixOf (u ++ ['>']) = (u.getLast? == some '/') := by
  rw [List.isSuffixOf, List.reverse_append]
  cases h : u.reverse with
  | nil =>
    rw [List.reverse_eq_nil_iff] at h
    simp [h, List.isPrefixOf]
  | cons d ds =>
    have hlast : u.getLast? = some d := by
      rw [← List.head?_reverse, h, List.head?_cons]
    simp [List.isPrefixOf, hlast, eq_comm]

/-- A collapsed text starts with a letter exactly when the text does. -/
theorem head?_any_isNameStart_collapseRuns (s : List Char) :
    (collapseRuns s).head?.any isNameStart = s.head?.any isNameStart := by
  fun_cases collapseRuns s with
  | case1 a b more hab =>
    simp only [Bool.and_eq_true] at hab
    simp only [List.head?_cons, Option.any_some, isNameStart_eq_false_of_blank hab.1]
    decide
  | case2 => rfl
  | case3 => rfl

/-- Collapsing keeps a leading run of letters and digits. -/
theorem takeWhile_isNameChar_collapseRuns (s : List Char) :
    (collapseRuns s).takeWhile isNameChar = s.takeWhile isNameChar := by
  fun_induction collapseRuns s with
  | case1 a b more hab _ _ =>
    simp only [Bool.and_eq_true] at hab
    rw [List.takeWhile_cons_of_neg (by decide), List.takeWhile_cons_of_neg
      (by rw [isNameChar_eq_false_of_blank hab.1]; decide)]
  | case2 a b more _ ih => rw [List.takeWhile_cons, List.takeWhile_cons, ih]
  | case3 => rfl

/-- Whether an opening and what follows start with `</` is read off the opening and the first
character after it. -/
theorem isPrefixOf_pair_append_cons {lead : List Char} (hlead : lead ≠ []) (p q c : Char)
    (x y : List Char) : [p, q].isPrefixOf (lead ++ c :: x) = [p, q].isPrefixOf (lead ++ c :: y) := by
  obtain ⟨a, l, rfl⟩ := List.exists_cons_of_ne_nil hlead
  cases l <;> simp [List.isPrefixOf]

theorem classify_congr {r r' : List Char}
    (hs : ['/', '>'].isSuffixOf r = ['/', '>'].isSuffixOf r')
    (hp : ['<', '/'].isPrefixOf r = ['<', '/'].isPrefixOf r') (name : String) :
    classify r name = classify r' name := by
  simp only [classify, hs, hp]

/-- A text and its collapse, read after the same opening up to a `>`, give a tag of the same name
and kind, or none. -/
theorem elementLexeme?_shape_collapseRuns {lead : List Char} (hlead : lead ≠ []) {b : List Char}
    (hb : '>' ∉ b) :
    (elementLexeme? lead (collapseRuns b ++ ['>'])).map lexemeShape =
      (elementLexeme? lead (b ++ ['>'])).map lexemeShape := by
  have hb' : '>' ∉ collapseRuns b := fun h => hb (mem_of_mem_collapseRuns (by decide) h)
  rw [elementLexeme?_chunk lead hb, elementLexeme?_chunk lead hb',
    head?_any_isNameStart_collapseRuns, takeWhile_isNameChar_collapseRuns]
  split
  · next hstart =>
    obtain ⟨c, b', rfl⟩ : ∃ c b', b = c :: b' := by
      cases b with
      | nil => simp at hstart
      | cons c b' => exact ⟨c, b', rfl⟩
    have hc : isBlank c = false :=
      isBlank_eq_false_of_isNameChar (isNameChar_of_isNameStart (by simpa using hstart))
    have hne : collapseRuns (c :: b') ≠ [] := by simp [collapseRuns_eq_nil_iff]
    -- the tag ends in `/>` when the piece ends in `/`, which collapsing keeps
    have hends : ['/', '>'].isSuffixOf (lead ++ collapseRuns (c :: b') ++ ['>']) =
        ['/', '>'].isSuffixOf (lead ++ (c :: b') ++ ['>']) := by
      rw [isSuffixOf_slash_gt, isSuffixOf_slash_gt, List.getLast?_append_of_ne_nil _ hne,
        List.getLast?_append_of_ne_nil _ (List.cons_ne_nil _ _)]
      exact Bool.eq_iff_iff.2 (by simpa using getLast?_collapseRuns_eq_iff (c := '/') (by decide))
    have hopens : ['<', '/'].isPrefixOf (lead ++ collapseRuns (c :: b') ++ ['>']) =
        ['<', '/'].isPrefixOf (lead ++ (c :: b') ++ ['>']) := by
      rw [collapseRuns_cons_of_not_blank hc, List.append_assoc, List.append_assoc,
        List.cons_append, List.cons_append]
      exact isPrefixOf_pair_append_cons hlead _ _ _ _ _
    simp only [Option.map_some, lexemeShape, classify_congr hends hopens]
  · rfl

/-- A collapsed text starts with `!` only when the text does. -/
theorem collapseRuns_ne_bang {b : List Char} (hb : ∀ r, b ≠ '!' :: r) :
    ∀ r, collapseRuns b ≠ '!' :: r := by
  intro r h
  have hmap := head?_map_collapseRuns b
  rw [h] at hmap
  cases b with
  | nil => simp at hmap
  | cons c b =>
    have hc : isBlank c = false := by
      simp only [List.head?_cons, Option.map_some, Option.some.injEq] at hmap
      rw [← hmap]
      decide
    rw [collapseRuns_cons_of_not_blank hc, List.cons.injEq] at h
    exact hb b (by rw [h.1])

/-- **A `<` in a piece and in its collapse reads a tag of the same name and kind, or none.** -/
theorem lexeme?_shape_collapseRuns {x : List Char} (hx : '>' ∉ x) (hbang : ∀ r, x ≠ '!' :: r) :
    (lexeme? ('<' :: (collapseRuns x ++ ['>']))).map lexemeShape =
      (lexeme? ('<' :: (x ++ ['>']))).map lexemeShape := by
  cases x with
  | nil => rw [collapseRuns_nil]
  | cons c b =>
    by_cases hcb : isBlank c = true
    · -- the collapse starts with a blank too, and a `<` before a blank reads nothing
      have hmap := head?_map_collapseRuns (c :: b)
      obtain ⟨d, rest, hd⟩ := List.exists_cons_of_ne_nil
        (show collapseRuns (c :: b) ≠ [] by simp [collapseRuns_eq_nil_iff])
      have hdb : isBlank d = true := by simpa [hd, hcb] using hmap
      rw [hd, List.cons_append, List.cons_append, lexeme?_lt_blank hdb, lexeme?_lt_blank hcb]
    · have hcb : isBlank c = false := by simpa using hcb
      have hxb : '>' ∉ b := fun h => hx (List.mem_cons_of_mem _ h)
      by_cases hs : c = '/'
      · subst hs
        rw [collapseRuns_cons_of_not_blank hcb, List.cons_append, List.cons_append,
          lexeme?_lt_slash, lexeme?_lt_slash]
        exact elementLexeme?_shape_collapseRuns (by simp) hxb
      · have hb : c ≠ '!' := fun h => hbang b (by rw [h])
        rw [collapseRuns_cons_of_not_blank hcb]
        simp only [List.cons_append]
        rw [lexeme?_lt_of_ne hb hs, lexeme?_lt_of_ne hb hs, ← List.cons_append, ← List.cons_append,
          ← collapseRuns_cons_of_not_blank hcb]
        exact elementLexeme?_shape_collapseRuns (by simp) hx

/-- A prefix of `u ++ [>]` that holds a `>`, where `u` holds none, is all of it. -/
theorem eq_of_prefix_of_gt_mem {raw u : List Char} (hpre : raw <+: u ++ ['>']) (hmem : '>' ∈ raw)
    (hu : '>' ∉ u) : raw = u ++ ['>'] := by
  by_cases hlen : raw.length ≤ u.length
  · rw [List.prefix_iff_eq_take, List.take_append_of_le_length hlen] at hpre
    rw [hpre] at hmem
    exact absurd ((List.take_sublist _ _).subset hmem) hu
  · exact hpre.eq_of_length (le_antisymm hpre.length_le (by simp; omega))

/-- A piece that ends at its first `>` scans to the one tag its `<` reads. -/
theorem map_shape_scanFrom_chunk {x : List Char} (hx : '>' ∉ x) (hbang : ∀ r, x ≠ '!' :: r)
    {l : Kind × String × List Char} (h : lexeme? ('<' :: (x ++ ['>'])) = some l) (pos : Nat) :
    (scanFrom ('<' :: (x ++ ['>'])) pos).map Tag.shape = [lexemeShape l] := by
  obtain ⟨k, name, raw⟩ := l
  have hb := append_ne_bang hbang (z := ['>']) (by simp)
  have hraw : raw = '<' :: (x ++ ['>']) :=
    eq_of_prefix_of_gt_mem (u := '<' :: x) (isPrefix_of_lexeme? h) (gt_mem_of_lexeme? hb h)
      (by simpa using hx)
  rw [scanFrom_lt_of_lexeme?_eq_some hb h, hraw]
  simp [Tag.shape, lexemeShape]

/-- What collapsing leaves of a text that starts with a blank: a blank, then the collapse of the
text after some of its leading blanks. -/
theorem collapseRuns_cons_of_blank {c : Char} (hc : isBlank c = true) (b : List Char) :
    ∃ d w z, isBlank d = true ∧ (∀ e ∈ w, isBlank e = true) ∧ b = w ++ z ∧
      collapseRuns (c :: b) = d :: collapseRuns z := by
  cases b with
  | nil => exact ⟨c, [], [], hc, by simp, rfl, by rw [collapseRuns_of_length_le (by simp), collapseRuns_nil]⟩
  | cons e more =>
    by_cases he : isBlank e = true
    · refine ⟨' ', e :: more.takeWhile isBlank, more.dropWhile isBlank, by decide, ?_, ?_, ?_⟩
      · intro x hx
        rcases List.mem_cons.1 hx with rfl | hx
        · exact he
        · exact List.mem_takeWhile_imp hx
      · rw [List.cons_append, List.takeWhile_append_dropWhile]
      · rw [collapseRuns_cons_cons, if_pos (by simp [hc, he])]
    · exact ⟨c, [], e :: more, hc, by simp, rfl,
        by rw [collapseRuns_cons_cons, if_neg (by simp [he])]⟩

/-- **Collapsing a piece that ends at its first `>` keeps the shape of its tag.** The induction
follows the scan through the piece: blanks and other characters are stepped over in both, and at a
`<` both read a tag of the same name and kind, or both read none. -/
theorem map_shape_scanFrom_collapseRuns_chunk {x : List Char} (hx : '>' ∉ x) (pos pos' : Nat) :
    (scanFrom (collapseRuns x ++ ['>']) pos).map Tag.shape =
      (scanFrom (x ++ ['>']) pos').map Tag.shape := by
  match x with
  | [] => rw [collapseRuns_nil]; exact map_shape_scanFrom _ _ _
  | c :: b =>
    have hxb : '>' ∉ b := fun h => hx (List.mem_cons_of_mem _ h)
    by_cases hcb : isBlank c = true
    · obtain ⟨d, w, z, hd, hw, rfl, hcz⟩ := collapseRuns_cons_of_blank hcb b
      have hz : '>' ∉ z := fun h => hxb (List.mem_append_right _ h)
      have hdlt : d ≠ '<' := by rintro rfl; simp [isBlank] at hd
      have hclt : c ≠ '<' := by rintro rfl; simp [isBlank] at hcb
      rw [hcz, List.cons_append, scanFrom_cons_of_ne hdlt, List.cons_append,
        scanFrom_cons_of_ne hclt, List.append_assoc,
        scanFrom_append_of_lt_not_mem (lt_not_mem_of_blank hw)]
      exact map_shape_scanFrom_collapseRuns_chunk hz _ _
    · have hcb : isBlank c = false := by simpa using hcb
      rw [collapseRuns_cons_of_not_blank hcb, List.cons_append, List.cons_append]
      by_cases hlt : c = '<'
      · subst hlt
        by_cases hbang : ∃ r, b = '!' :: r
        · obtain ⟨r, hr⟩ := hbang
          have hcol : collapseRuns b = '!' :: collapseRuns r := by
            rw [hr, collapseRuns_cons_of_not_blank (by decide)]
          rw [hcol, hr, List.cons_append, List.cons_append, scanFrom_lt_bang, scanFrom_lt_bang,
            ← List.cons_append, ← List.cons_append, ← hcol, ← hr]
          exact map_shape_scanFrom_collapseRuns_chunk hxb _ _
        · have hb : ∀ r, b ≠ '!' :: r := fun r h => hbang ⟨r, h⟩
          have hshape := lexeme?_shape_collapseRuns hxb hb
          cases hl : lexeme? ('<' :: (b ++ ['>'])) with
          | none =>
            have hl' : lexeme? ('<' :: (collapseRuns b ++ ['>'])) = none := by
              simpa [hl] using hshape
            rw [scanFrom_lt_of_lexeme?_eq_none (append_ne_bang (collapseRuns_ne_bang hb)
                (by simp)) hl', scanFrom_lt_of_lexeme?_eq_none (append_ne_bang hb (by simp)) hl]
            exact map_shape_scanFrom_collapseRuns_chunk hxb _ _
          | some l =>
            rw [hl] at hshape
            obtain ⟨l', hl', hsh⟩ := Option.map_eq_some_iff.1 hshape
            have hcb' : '>' ∉ collapseRuns b := fun h => hxb (mem_of_mem_collapseRuns (by decide) h)
            rw [map_shape_scanFrom_chunk hcb' (collapseRuns_ne_bang hb) hl',
              map_shape_scanFrom_chunk hxb hb hl, hsh]
      · rw [scanFrom_cons_of_ne hlt, scanFrom_cons_of_ne hlt]
        exact map_shape_scanFrom_collapseRuns_chunk hxb _ _
termination_by x.length
decreasing_by
  all_goals subst_vars
  all_goals simp only [List.length_append, List.length_cons]
  all_goals omega

/-- **Collapsing runs of blanks keeps the shapes of the tags**, piece by piece: no run reaches
across a `>`. -/
theorem map_shape_scanFrom_collapseRuns (s : List Char) (pos pos' : Nat) :
    (scanFrom (collapseRuns s) pos).map Tag.shape = (scanFrom s pos').map Tag.shape := by
  by_cases hs : '>' ∈ s
  · obtain ⟨x, y, rfl, hx⟩ := exists_eq_append_gt hs
    rw [collapseRuns_append_cons_of_not_blank (by decide),
      scanFrom_append_gt (collapseRuns x) (collapseRuns y), scanFrom_append_gt x y,
      List.map_append, List.map_append, map_shape_scanFrom_collapseRuns_chunk hx pos pos',
      map_shape_scanFrom_collapseRuns y _ (pos' + x.length + 1)]
  · rw [scanFrom_of_gt_not_mem hs,
      scanFrom_of_gt_not_mem (fun h => hs (mem_of_mem_collapseRuns (by decide) h))]
termination_by s.length
decreasing_by
  subst_vars
  simp only [List.length_append, List.length_cons]
  omega

/-! ## No new comments

A comment is found by its `<!--` and a later `-->`. Joining tags and collapsing runs keep both
marks where they were: each end part of their output from a `<` or a `-` on is their output on an
end part of the input, and an output that starts with one of the marks' characters comes from an
input that starts with it. Trimming cuts the ends only. -/

/-- A pass over a text that keeps the marks of comments. -/
structure KeepsMarks (f : List Char → List Char) : Prop where
  /-- An end part of the output that starts with no blank is the output on an end part. -/
  suffix : ∀ s t, t <:+ f s → (∀ c ∈ t.head?, isBlank c = false) → ∃ t', t' <:+ s ∧ f t' = t
  /-- An output that starts with a character other than a blank or `>` starts as the input. -/
  peel : ∀ {c t r}, isBlank c = false → c ≠ '>' → f t = c :: r → ∃ t₀, t = c :: t₀ ∧ f t₀ = r
  /-- An output that starts with `>` comes from an input that does. -/
  gt : ∀ {t r}, f t = '>' :: r → ∃ t₀, t = '>' :: t₀

theorem commentText_append (body z : List Char) :
    commentText body ++ z = '<' :: '!' :: '-' :: '-' :: (body ++ '-' :: '-' :: '>' :: z) := by
  simp [commentText]

/-- **A pass that keeps the marks makes no comment**: a comment in its output has its `<!--` and
its `-->` from a comment of the input. -/
theorem KeepsMarks.exists_commentText {f : List Char → List Char} (hf : KeepsMarks f)
    {s body : List Char} (h : commentText body <:+: f s) : ∃ body', commentText body' <:+: s := by
  obtain ⟨a, z, haz⟩ := h
  -- the output from the comment's `<` on comes from an end part `t` of the input
  obtain ⟨t, hts, ht⟩ := hf.suffix s (commentText body ++ z)
    ⟨a, by rw [← List.append_assoc, haz]⟩ (by simp [commentText_append]; decide)
  rw [commentText_append] at ht
  obtain ⟨t₁, rfl, h₁⟩ := hf.peel (by decide) (by decide) ht
  obtain ⟨t₂, rfl, h₂⟩ := hf.peel (by decide) (by decide) h₁
  obtain ⟨t₃, rfl, h₃⟩ := hf.peel (by decide) (by decide) h₂
  obtain ⟨t₄, rfl, h₄⟩ := hf.peel (by decide) (by decide) h₃
  -- the output from the `-->` on comes from an end part of what follows the `<!--`
  obtain ⟨t₅, ⟨u, rfl⟩, h₅⟩ := hf.suffix t₄ ('-' :: '-' :: '>' :: z) ⟨body, h₄.symm⟩
    (by simp; decide)
  obtain ⟨t₆, rfl, h₆⟩ := hf.peel (by decide) (by decide) h₅
  obtain ⟨t₇, rfl, h₇⟩ := hf.peel (by decide) (by decide) h₆
  obtain ⟨t₈, rfl⟩ := hf.gt h₇
  exact ⟨u, (show commentText u <+: _ from ⟨t₈, by simp [commentText]⟩).isInfix.trans hts.isInfix⟩

/-- Every end part of a text with its tags joined is an end part of the text, joined. -/
theorem exists_suffix_joinTags (s : List Char) {t : List Char} (ht : t <:+ joinTags s) :
    ∃ t', t' <:+ s ∧ joinTags t' = t := by
  match s with
  | [] =>
    rw [joinTags_nil, List.suffix_nil] at ht
    exact ⟨[], List.suffix_rfl, by rw [joinTags_nil, ht]⟩
  | c :: rest =>
    by_cases hc : c = '>'
    · subst hc
      obtain ⟨w, y', rfl, _, hj⟩ := joinTags_gt rest
      rw [hj] at ht
      rcases List.suffix_cons_iff.1 ht with rfl | ht
      · exact ⟨_, List.suffix_rfl, hj⟩
      · obtain ⟨t', hts, ht'⟩ := exists_suffix_joinTags y' ht
        exact ⟨t', hts.trans ((List.suffix_append w y').trans (List.suffix_cons _ _)), ht'⟩
    · rw [joinTags_cons_of_ne hc] at ht
      rcases List.suffix_cons_iff.1 ht with rfl | ht
      · exact ⟨_, List.suffix_rfl, joinTags_cons_of_ne hc rest⟩
      · obtain ⟨t', hts, ht'⟩ := exists_suffix_joinTags rest ht
        exact ⟨t', hts.trans (List.suffix_cons _ _), ht'⟩
termination_by s.length
decreasing_by
  all_goals subst_vars
  all_goals simp only [List.length_append, List.length_cons]
  all_goals omega

theorem keepsMarks_joinTags : KeepsMarks joinTags where
  suffix s _ ht _ := exists_suffix_joinTags s ht
  peel {c t r} _ hc h := by
    obtain ⟨t₀, rfl⟩ : ∃ t₀, t = c :: t₀ := by
      have hhead := head?_joinTags t
      rw [h] at hhead
      cases t with
      | nil => simp at hhead
      | cons d t₀ => simp only [List.head?_cons, Option.some.injEq] at hhead; exact ⟨t₀, by rw [hhead]⟩
    rw [joinTags_cons_of_ne hc, List.cons.injEq] at h
    exact ⟨t₀, rfl, h.2⟩
  gt {t r} h := by
    have hhead := head?_joinTags t
    rw [h] at hhead
    cases t with
    | nil => simp at hhead
    | cons d t₀ => simp only [List.head?_cons, Option.some.injEq] at hhead; exact ⟨t₀, by rw [hhead]⟩

/-- Every end part of a collapsed text that starts with no blank is an end part of the text,
collapsed. -/
theorem exists_suffix_collapseRuns (s : List Char) {t : List Char} (ht : t <:+ collapseRuns s)
    (hhead : ∀ c ∈ t.head?, isBlank c = false) : ∃ t', t' <:+ s ∧ collapseRuns t' = t := by
  match s with
  | [] =>
    rw [collapseRuns_nil, List.suffix_nil] at ht
    exact ⟨[], List.suffix_rfl, by rw [collapseRuns_nil, ht]⟩
  | c :: b =>
    by_cases hc : isBlank c = true
    · -- the collapse starts with a blank, so `t` starts later
      obtain ⟨d, w, z, hd, _, rfl, hcz⟩ := collapseRuns_cons_of_blank hc b
      rw [hcz] at ht
      rcases List.suffix_cons_iff.1 ht with rfl | ht
      · simp [hd] at hhead
      · obtain ⟨t', hts, ht'⟩ := exists_suffix_collapseRuns z ht hhead
        exact ⟨t', hts.trans ((List.suffix_append w z).trans (List.suffix_cons _ _)), ht'⟩
    · have hc : isBlank c = false := by simpa using hc
      rw [collapseRuns_cons_of_not_blank hc] at ht
      rcases List.suffix_cons_iff.1 ht with rfl | ht
      · exact ⟨_, List.suffix_rfl, collapseRuns_cons_of_not_blank hc b⟩
      · obtain ⟨t', hts, ht'⟩ := exists_suffix_collapseRuns b ht hhead
        exact ⟨t', hts.trans (List.suffix_cons _ _), ht'⟩
termination_by s.length
decreasing_by
  all_goals subst_vars
  all_goals simp only [List.length_append, List.length_cons]
  all_goals omega

/-- A collapsed text that starts with a character that is no blank starts as the text. -/
theorem eq_cons_of_collapseRuns_eq_cons {c : Char} (hc : isBlank c = false) {t r : List Char}
    (h : collapseRuns t = c :: r) : ∃ t₀, t = c :: t₀ ∧ collapseRuns t₀ = r := by
  cases t with
  | nil => simp [collapseRuns_nil] at h
  | cons d t₀ =>
    by_cases hd : isBlank d = true
    · obtain ⟨e, _, _, he, _, _, hcz⟩ := collapseRuns_cons_of_blank hd t₀
      rw [hcz, List.cons.injEq] at h
      rw [h.1] at he
      simp [hc] at he
    · rw [collapseRuns_cons_of_not_blank (by simpa using hd), List.cons.injEq] at h
      obtain ⟨rfl, h⟩ := h
      exact ⟨t₀, rfl, h⟩

theorem keepsMarks_collapseRuns : KeepsMarks collapseRuns where
  suffix s _ ht hhead := exists_suffix_collapseRuns s ht hhead
  peel hc _ h := eq_cons_of_collapseRuns_eq_cons hc h
  gt h := (eq_cons_of_collapseRuns_eq_cons (by decide) h).imp fun _ h => h.1

/-- **The blank passes make no comment**: a comment after them has its marks from one before. -/
theorem exists_commentText_of_tidy {s body : List Char} (h : commentText body <:+: tidy s) :
    ∃ body', commentText body' <:+: s := by
  obtain ⟨b₁, h₁⟩ := keepsMarks_collapseRuns.exists_commentText h
  exact keepsMarks_joinTags.exists_commentText (h₁.trans (trim_isInfix _))

/-- On a text without comments, compaction that deletes them makes one pass, as the one that
keeps them does. -/
theorem compact_true_of_noComment {s : List Char} (h : ∀ body, ¬ commentText body <:+: s) :
    compact true s = compact false s := by
  have hdrop : dropComments s = s := dropComments_eq_self_iff.2 h
  have hnone : hasComment (tidy s) = false := by
    rw [hasComment_eq_false_iff, dropComments_eq_self_iff]
    intro body hb
    obtain ⟨body', hb'⟩ := exists_commentText_of_tidy hb
    exact h body' hb'
  show settle (tidy (dropComments s)) = tidy s
  rw [hdrop, settle_of_hasComment_eq_false hnone]

/-! ## Compaction keeps the tags -/

theorem map_shape_scanFrom_tidy (s : List Char) (pos pos' : Nat) :
    (scanFrom (tidy s) pos).map Tag.shape = (scanFrom s pos').map Tag.shape := by
  rw [tidy, map_shape_scanFrom_collapseRuns _ pos 0, map_shape_scanFrom_trim _ 0 0,
    map_shape_scanFrom_joinTags _ 0 pos']

/-- **Compaction keeps the tags.** The compacted text has tags of the same names and kinds, in the
same order, as the text, so its check reports the same issues about the same tags, but for where
they stand. When comments go this holds of a text without comments. -/
theorem compact_keeps_tags (dropsComments : Bool) (html : String)
    (hcomments : dropsComments = true → ∀ body, ¬ commentText body <:+: html.toList) :
    (scan (String.ofList (compact dropsComments html.toList))).map Tag.shape =
        (scan html).map Tag.shape ∧
      (Report.check (String.ofList (compact dropsComments html.toList))).issues.map
          (fun i => (i.code, i.problem.tag, i.expected)) =
        (Report.check html).issues.map (fun i => (i.code, i.problem.tag, i.expected)) := by
  have hpass : compact dropsComments html.toList = tidy html.toList := by
    cases dropsComments with
    | false => rfl
    | true => exact compact_true_of_noComment (hcomments rfl)
  have hshape : (scan (String.ofList (compact dropsComments html.toList))).map Tag.shape =
      (scan html).map Tag.shape := by
    rw [scan, scan, String.toList_ofList, hpass, map_shape_scanFrom_tidy]
  exact ⟨hshape, summaries_eq_of_shapes hshape⟩

/-- Compaction that deletes comments keeps the tags of a text that has none. -/
theorem compact_keeps_tags_spaced :
    (∀ body, ¬ commentText body <:+: "<ul> <li>a  b</li>\n <br/> </ul>".toList) ∧
      (scan (String.ofList (compact true "<ul> <li>a  b</li>\n <br/> </ul>".toList))).map
          Tag.shape = (scan "<ul> <li>a  b</li>\n <br/> </ul>").map Tag.shape ∧
        (Report.check (String.ofList (compact true "<ul> <li>a  b</li>\n <br/> </ul>".toList))).issues.map
            (fun i => (i.code, i.problem.tag, i.expected)) =
          (Report.check "<ul> <li>a  b</li>\n <br/> </ul>").issues.map
            (fun i => (i.code, i.problem.tag, i.expected)) :=
  have hnone : ∀ body, ¬ commentText body <:+: "<ul> <li>a  b</li>\n <br/> </ul>".toList :=
    fun body hb => absurd (hb.subset (show '!' ∈ commentText body by simp [commentText]))
      (by decide)
  ⟨hnone, compact_keeps_tags true _ fun _ => hnone⟩

end MarkupTidy.Markup
