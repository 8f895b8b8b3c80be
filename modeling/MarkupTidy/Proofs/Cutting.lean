import Mathlib.Data.List.Infix
import MarkupTidy.Markup.Balance
import MarkupTidy.Proofs.Scanning

/-!
# Proofs/Cutting — scanning a text piece by piece

The text of an element tag holds one `>`, its last character, so the scan never reads across a
`>`: a text cut right after a `>` scans as its two pieces, one after the other
(`scanFrom_append_gt`). Characters that are no `<` are stepped over
(`scanFrom_append_of_lt_not_mem`), and nothing after the last `>` is a tag
(`scanFrom_append_of_gt_not_mem`).

What the check of nesting reads of a tag is its name and its kind, its *shape* (`Tag.shape`): the
code, tag and expected name of each issue depend on a text only through the shapes of its tags
(`summaries_eq_of_shapes`).
-/

namespace MarkupTidy.Markup

/-! ## The steps of the scan -/

@[simp] theorem scanFrom_nil (pos : Nat) : scanFrom [] pos = [] := by
  rw [scanFrom]

theorem scanFrom_lt_bang (rest : List Char) (pos : Nat) :
    scanFrom ('<' :: '!' :: rest) pos = scanFrom ('!' :: rest) (pos + 1) := by
  rw [scanFrom]

theorem scanFrom_cons_of_ne {c : Char} (hc : c ≠ '<') (rest : List Char) (pos : Nat) :
    scanFrom (c :: rest) pos = scanFrom rest (pos + 1) := by
  rw [scanFrom.eq_def]
  split <;> simp_all

theorem scanFrom_lt_of_lexeme?_eq_none {rest : List Char} (hbang : ∀ r, rest ≠ '!' :: r)
    (h : lexeme? ('<' :: rest) = none) (pos : Nat) :
    scanFrom ('<' :: rest) pos = scanFrom rest (pos + 1) := by
  rw [scanFrom]
  · simp [h]
  · exact hbang

theorem scanFrom_lt_of_lexeme?_eq_some {rest : List Char} (hbang : ∀ r, rest ≠ '!' :: r)
    {k : Kind} {name : String} {raw : List Char} (h : lexeme? ('<' :: rest) = some (k, name, raw))
    (pos : Nat) :
    scanFrom ('<' :: rest) pos = ⟨name, k, String.ofList raw, pos, pos + raw.length⟩ ::
      scanFrom (rest.drop (raw.length - 1)) (pos + raw.length) := by
  rw [scanFrom]
  · simp [h]
  · exact hbang

/-- Characters that are no `<` are stepped over. -/
theorem scanFrom_append_of_lt_not_mem {w : List Char} (hw : '<' ∉ w) (s : List Char) (pos : Nat) :
    scanFrom (w ++ s) pos = scanFrom s (pos + w.length) := by
  induction w generalizing pos with
  | nil => rfl
  | cons c w ih =>
    simp only [List.mem_cons, not_or] at hw
    obtain ⟨hc, hw⟩ := hw
    rw [List.cons_append, scanFrom_cons_of_ne (Ne.symm hc), ih hw, List.length_cons]
    congr 1
    omega

/-! ## What a `<` reads -/

/-- The text through the first `>` is a prefix of the text, and holds that `>`. -/
theorem isPrefix_of_throughGt : ∀ {s d : List Char}, throughGt s = some d → d <+: s ∧ '>' ∈ d
  | [], _, h => by simp [throughGt] at h
  | c :: rest, d, h => by
    unfold throughGt at h
    split at h
    · cases h
      subst c
      exact ⟨List.cons_prefix_cons.2 ⟨rfl, List.nil_prefix⟩, List.mem_singleton_self _⟩
    · obtain ⟨d', hd', rfl⟩ := Option.map_eq_some_iff.1 h
      obtain ⟨hpre, hmem⟩ := isPrefix_of_throughGt hd'
      exact ⟨List.cons_prefix_cons.2 ⟨rfl, hpre⟩, List.mem_cons_of_mem _ hmem⟩

theorem isPrefix_throughCommentEnd (s : List Char) : throughCommentEnd s <+: s := by
  fun_induction throughCommentEnd s with
  | case1 => exact List.nil_prefix
  | case2 rest => simp
  | case3 c rest _ ih => exact List.cons_prefix_cons.2 ⟨rfl, ih⟩

/-- An element tag's text is a prefix of what it is read from, and holds a `>`. -/
theorem isPrefix_of_elementLexeme? {lead body : List Char} {k : Kind} {name : String}
    {raw : List Char} (h : elementLexeme? lead body = some (k, name, raw)) :
    raw <+: lead ++ body ∧ '>' ∈ raw := by
  obtain ⟨⟨n, tail⟩, hbody, hk⟩ := Option.map_eq_some_iff.1 h
  cases hk
  cases body with
  | nil => simp [elementBody?] at hbody
  | cons c rest =>
    simp only [elementBody?] at hbody
    split at hbody
    · obtain ⟨tail', htail, htail'⟩ := Option.map_eq_some_iff.1 hbody
      cases htail'
      obtain ⟨hpre, hmem⟩ := isPrefix_of_throughGt htail
      refine ⟨?_, by simp [hmem]⟩
      rw [List.append_assoc]
      refine (List.prefix_append_right_inj lead).2 ?_
      have := (List.prefix_append_right_inj ((c :: rest).takeWhile isNameChar)).2 hpre
      rwa [List.takeWhile_append_dropWhile] at this
    · simp at hbody

/-- **What a tag is read from starts with its text.** -/
theorem isPrefix_of_lexeme? {s : List Char} {k : Kind} {name : String} {raw : List Char}
    (h : lexeme? s = some (k, name, raw)) : raw <+: s := by
  unfold lexeme? at h
  split at h
  · cases h
    exact List.prefix_append_right_inj _ |>.2 (isPrefix_throughCommentEnd _)
  · obtain ⟨d, hd, hraw⟩ := Option.map_eq_some_iff.1 h
    cases hraw
    exact List.cons_prefix_cons.2 ⟨rfl, List.cons_prefix_cons.2 ⟨rfl, (isPrefix_of_throughGt hd).1⟩⟩
  · exact (isPrefix_of_elementLexeme? h).1
  · exact (isPrefix_of_elementLexeme? h).1
  · simp at h

theorem lexeme?_lt_slash (body : List Char) :
    lexeme? ('<' :: '/' :: body) = elementLexeme? ['<', '/'] body := by
  simp [lexeme?]

theorem lexeme?_lt_of_ne {c : Char} (hbang : c ≠ '!') (hslash : c ≠ '/') (body : List Char) :
    lexeme? ('<' :: c :: body) = elementLexeme? ['<'] (c :: body) := by
  unfold lexeme?
  split <;> simp_all

/-- An element tag read from a `<` holds a `>`. -/
theorem gt_mem_of_lexeme? {rest : List Char} (hbang : ∀ r, rest ≠ '!' :: r) {k : Kind}
    {name : String} {raw : List Char} (h : lexeme? ('<' :: rest) = some (k, name, raw)) :
    '>' ∈ raw := by
  cases rest with
  | nil => simp [lexeme?, elementLexeme?, elementBody?] at h
  | cons c body =>
    by_cases hs : c = '/'
    · subst hs
      exact (isPrefix_of_elementLexeme? (lexeme?_lt_slash body ▸ h)).2
    · have hb : c ≠ '!' := fun hc => hbang body (by rw [hc])
      exact (isPrefix_of_elementLexeme? (lexeme?_lt_of_ne hb hs body ▸ h)).2

/-! ## Reading stops at the first `>` -/

/-- A text that no `!` starts, followed by one that no `!` starts, is not started by `!`. -/
theorem append_ne_bang {x z : List Char} (hx : ∀ r, x ≠ '!' :: r) (hz : ∀ r, z ≠ '!' :: r) :
    ∀ r, x ++ z ≠ '!' :: r := by
  intro r h
  cases x with
  | nil => exact hz r h
  | cons d x =>
    simp only [List.cons_append, List.cons.injEq] at h
    exact hx x (by rw [h.1])

theorem throughGt_append_gt (z y : List Char) : throughGt (z ++ '>' :: y) = throughGt (z ++ ['>']) := by
  induction z with
  | nil => simp [throughGt]
  | cons c z ih => simp only [List.cons_append, throughGt, ih]

theorem takeWhile_append_cons_of_neg {p : Char → Bool} {c : Char} (hc : p c = false)
    (z y : List Char) : (z ++ c :: y).takeWhile p = (z ++ [c]).takeWhile p := by
  induction z with
  | nil => simp [hc]
  | cons a z ih => simp only [List.cons_append, List.takeWhile_cons, ih]

theorem dropWhile_append_cons_of_neg {p : Char → Bool} {c : Char} (hc : p c = false)
    (z y : List Char) : (z ++ c :: y).dropWhile p = z.dropWhile p ++ c :: y := by
  induction z with
  | nil => simp [hc]
  | cons a z ih =>
    simp only [List.cons_append, List.dropWhile_cons]
    split <;> simp [ih]

theorem elementBody?_append_gt (b y : List Char) :
    elementBody? (b ++ '>' :: y) = elementBody? (b ++ ['>']) := by
  have hgt : isNameChar '>' = false := by decide
  cases b with
  | nil => simp [elementBody?, isNameStart]
  | cons c b =>
    simp only [elementBody?, List.cons_append]
    rw [← List.cons_append, ← List.cons_append, takeWhile_append_cons_of_neg hgt,
      dropWhile_append_cons_of_neg hgt, dropWhile_append_cons_of_neg hgt, throughGt_append_gt]

/-- **A `<` reads no further than the first `>` after it**: what follows that `>` does not
matter. -/
theorem lexeme?_append_gt {x : List Char} (hbang : ∀ r, x ≠ '!' :: r) (y : List Char) :
    lexeme? ('<' :: (x ++ '>' :: y)) = lexeme? ('<' :: (x ++ ['>'])) := by
  match x, hbang with
  | [], _ =>
    rw [List.nil_append, List.nil_append, lexeme?_lt_of_ne (by decide) (by decide),
      lexeme?_lt_of_ne (by decide) (by decide)]
    simpa [elementLexeme?] using congrArg _ (elementBody?_append_gt [] y)
  | c :: b, hbang =>
    have hb : c ≠ '!' := fun hc => hbang b (by rw [hc])
    simp only [List.cons_append]
    by_cases hs : c = '/'
    · subst hs
      rw [lexeme?_lt_slash, lexeme?_lt_slash, elementLexeme?, elementLexeme?,
        elementBody?_append_gt]
    · rw [lexeme?_lt_of_ne hb hs, lexeme?_lt_of_ne hb hs, elementLexeme?, elementLexeme?,
        ← List.cons_append, ← List.cons_append, elementBody?_append_gt]

/-! ## Cutting after a `>` -/

/-- The scan of what follows a tag read from the head of `'<' :: (x ++ '>' :: y)`: a tag stops
at or before the `>`, so what it leaves is a piece of `x` followed by the `>`, or `y` alone. -/
theorem drop_append_gt_of_le {x : List Char} {m : Nat} (hm : m ≤ x.length + 1) (y : List Char) :
    (m ≤ x.length ∧ (x ++ '>' :: y).drop m = x.drop m ++ '>' :: y ∧
        (x ++ ['>']).drop m = x.drop m ++ ['>']) ∨
      (m = x.length + 1 ∧ (x ++ '>' :: y).drop m = y ∧ (x ++ ['>']).drop m = []) := by
  by_cases hle : m ≤ x.length
  · exact .inl ⟨hle, List.drop_append_of_le_length hle, List.drop_append_of_le_length hle⟩
  · have heq : m = x.length + 1 := by omega
    subst heq
    right
    simp [List.drop_append, List.drop_eq_nil_of_le]

/-- **A text cut right after a `>` scans as its two pieces.** No tag reads across a `>`: its name
stops before it, and its text stops at the first `>` after the name. -/
theorem scanFrom_append_gt (x y : List Char) (pos : Nat) :
    scanFrom (x ++ '>' :: y) pos = scanFrom (x ++ ['>']) pos ++ scanFrom y (pos + x.length + 1) := by
  match x with
  | [] => simp [scanFrom_cons_of_ne (show '>' ≠ '<' by decide)]
  | c :: x' =>
    by_cases hc : c = '<'
    · subst hc
      by_cases hbang : ∃ r, x' = '!' :: r
      · obtain ⟨r, hr⟩ := hbang
        have hstep : ∀ z, scanFrom ('<' :: (x' ++ z)) pos = scanFrom (x' ++ z) (pos + 1) := by
          intro z
          rw [hr, List.cons_append, scanFrom_lt_bang]
        have hstop : pos + 1 + x'.length + 1 = pos + (x'.length + 1) + 1 := by omega
        simp only [List.cons_append, hstep]
        rw [scanFrom_append_gt x' y (pos + 1), List.length_cons, hstop]
      · have hx : ∀ r, x' ≠ '!' :: r := fun r h => hbang ⟨r, h⟩
        have hb := append_ne_bang hx (z := '>' :: y) (by simp)
        have hb' := append_ne_bang hx (z := ['>']) (by simp)
        have hlex := lexeme?_append_gt hx y
        simp only [List.cons_append]
        cases hl : lexeme? ('<' :: (x' ++ ['>'])) with
        | none =>
          rw [scanFrom_lt_of_lexeme?_eq_none hb (hlex.trans hl),
            scanFrom_lt_of_lexeme?_eq_none hb' hl, scanFrom_append_gt x' y (pos + 1)]
          simp only [List.length_cons]
          congr 2
          omega
        | some r =>
          obtain ⟨k, name, raw⟩ := r
          rw [scanFrom_lt_of_lexeme?_eq_some hb (hlex.trans hl),
            scanFrom_lt_of_lexeme?_eq_some hb' hl, List.cons_append]
          have hpre := (isPrefix_of_lexeme? hl).length_le
          have hpos := length_pos_of_lexeme? hl
          simp only [List.length_cons, List.length_append, List.length_nil] at hpre
          rcases drop_append_gt_of_le (x := x') (m := raw.length - 1) (by omega) y with
            ⟨hle, hd, hd'⟩ | ⟨heq, hd, hd'⟩
          · have hstop : pos + raw.length + (x'.drop (raw.length - 1)).length + 1 =
                pos + (x'.length + 1) + 1 := by
              rw [List.length_drop]
              omega
            rw [hd, hd', scanFrom_append_gt (x'.drop (raw.length - 1)) y, hstop, List.length_cons]
          · have hstop : pos + raw.length = pos + (x'.length + 1) + 1 := by omega
            rw [hd, hd', scanFrom_nil, List.nil_append, List.length_cons, hstop]
    · simp only [List.cons_append, scanFrom_cons_of_ne hc]
      rw [scanFrom_append_gt x' y (pos + 1), List.length_cons]
      congr 2
      omega
termination_by x.length
decreasing_by
  all_goals simp only [List.length_cons, List.length_drop]
  all_goals omega

/-- A text without a `>` holds no element tag. -/
theorem scanFrom_of_gt_not_mem {s : List Char} (hs : '>' ∉ s) (pos : Nat) : scanFrom s pos = [] := by
  fun_induction scanFrom s pos with
  | case1 => rfl
  | case2 pos rest ih => exact ih (fun h => hs (List.mem_cons_of_mem _ h))
  | case3 pos rest hbang k name raw hlex _ =>
    exact absurd ((isPrefix_of_lexeme? hlex).subset (gt_mem_of_lexeme? (fun r h => hbang r h) hlex)) hs
  | case4 pos rest _ _ ih => exact ih (fun h => hs (List.mem_cons_of_mem _ h))
  | case5 pos c rest _ _ ih => exact ih (fun h => hs (List.mem_cons_of_mem _ h))

/-- **Nothing after the last `>` is a tag**: a tail without a `>` adds none. -/
theorem scanFrom_append_of_gt_not_mem (z : List Char) {w : List Char} (hw : '>' ∉ w) (pos : Nat) :
    scanFrom (z ++ w) pos = scanFrom z pos := by
  by_cases hz : '>' ∈ z
  · obtain ⟨x, y, rfl⟩ := List.append_of_mem hz
    rw [List.append_assoc, List.cons_append, scanFrom_append_gt x (y ++ w), scanFrom_append_gt x y,
      scanFrom_append_of_gt_not_mem y hw]
  · rw [scanFrom_of_gt_not_mem hz, scanFrom_of_gt_not_mem (by simp [hz, hw])]
termination_by z.length
decreasing_by
  subst_vars
  simp only [List.length_append, List.length_cons]
  omega

/-! ## Shapes -/

/-- What the check of nesting reads of a tag: its name and its kind. -/
def Tag.shape (t : Tag) : String × Kind := (t.name, t.kind)

/-- The shapes of the scanned tags do not depend on where the text stands. -/
theorem map_shape_scanFrom (s : List Char) (pos : Nat) :
    ∀ pos', (scanFrom s pos).map Tag.shape = (scanFrom s pos').map Tag.shape := by
  fun_induction scanFrom s pos with
  | case1 => simp
  | case2 pos rest ih => intro pos'; rw [scanFrom_lt_bang, ih]
  | case3 pos rest hbang k name raw hlex ih =>
    intro pos'
    rw [scanFrom_lt_of_lexeme?_eq_some (fun r h => hbang r h) hlex, List.map_cons, List.map_cons,
      ih (pos' + raw.length)]
    rfl
  | case4 pos rest hbang hnone ih =>
    intro pos'
    rw [scanFrom_lt_of_lexeme?_eq_none (fun r h => hbang r h) hnone, ih]
  | case5 pos c rest _ hc ih => intro pos'; rw [scanFrom_cons_of_ne hc, ih]

/-! ## What the check reports -/

/-- The faults found in two lists of tags of the same shapes, from stacks holding the same
names, are the same faults at the same names. -/
theorem faultsFrom_eq_of_shapes : ∀ {stack stack' : List (String × Nat)} {ts ts' : List Tag},
    stack.map Prod.fst = stack'.map Prod.fst → ts.map Tag.shape = ts'.map Tag.shape →
      (faultsFrom stack ts).map (fun p => (p.fault, p.tag)) =
        (faultsFrom stack' ts').map (fun p => (p.fault, p.tag))
  | stack, stack', [], [], hst, _ => by
    simp only [faultsFrom, List.map_map]
    simpa [Function.comp_def] using congrArg (List.map fun n => (Fault.unclosed, n)) hst
  | _, _, [], _ :: _, _, h => by simp at h
  | _, _, _ :: _, [], _, h => by simp at h
  | stack, stack', t :: ts, t' :: ts', hst, h => by
    simp only [List.map_cons, List.cons.injEq, Tag.shape, Prod.mk.injEq] at h
    obtain ⟨⟨hname, hkind⟩, hts⟩ := h
    simp only [faultsFrom, hkind]
    cases t'.kind with
    | opening =>
      exact faultsFrom_eq_of_shapes (by simp [hname, hst]) hts
    | closing =>
      match stack, stack', hst with
      | [], [], _ => simpa [hname] using faultsFrom_eq_of_shapes rfl hts
      | (top, _) :: rest, (top', _) :: rest', hst =>
        simp only [List.map_cons, List.cons.injEq] at hst
        obtain ⟨rfl, hrest⟩ := hst
        by_cases htop : top = t'.name
        · simpa [hname, htop] using faultsFrom_eq_of_shapes hrest hts
        · simpa [hname, htop] using faultsFrom_eq_of_shapes hrest hts
    | selfClosing | comment | declaration => exact faultsFrom_eq_of_shapes hst hts

/-- **Texts whose tags have the same shapes get the same report, but for where its issues are**:
each issue has the same code, tag and expected name. -/
theorem summaries_eq_of_shapes {a b : String}
    (h : (scan a).map Tag.shape = (scan b).map Tag.shape) :
    (Report.check a).issues.map (fun i => (i.code, i.problem.tag, i.expected)) =
      (Report.check b).issues.map (fun i => (i.code, i.problem.tag, i.expected)) := by
  have hf : (faultsFrom [] (scan a)).map (fun p => (p.fault, p.tag)) =
      (faultsFrom [] (scan b)).map (fun p => (p.fault, p.tag)) := faultsFrom_eq_of_shapes rfl h
  have key : ∀ text : String, (Report.check text).issues.map
      (fun i => (i.code, i.problem.tag, i.expected)) =
      ((faults (scan text)).map (fun p => (p.fault, p.tag))).map
        (fun q => ((⟨⟨q.1, q.2, 0⟩, 0⟩ : Issue).code, q.2, (⟨⟨q.1, q.2, 0⟩, 0⟩ : Issue).expected)) := by
    intro text
    simp only [Report.check, List.map_map]
    rfl
  rw [key, key, faults, faults, hf]

end MarkupTidy.Markup
