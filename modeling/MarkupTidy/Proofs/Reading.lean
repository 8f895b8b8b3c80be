import MarkupTidy.Proofs.CompactionTags

/-!
# Proofs/Reading — a reading at a position accepts exactly the grammar of tags

`readAt` reads the tag that starts at a position of a text. Stated on positions of the whole
text, with `FirstFrom` for the first place at or after a position where a pattern occurs, a
reading at a position within the text finds:

* nothing, unless a `<` stands at the position;
* after `<!--`, a comment through the first `-->` that starts four or more characters on, or
  through the end of the text when there is none, so `<!-->` does not close itself;
* after any other `<!`, a declaration through the first `>` two or more characters on, and nothing
  when there is none;
* after any other `<`, an element tag exactly when an ASCII letter follows the `<` and an optional
  `/` and a `>` comes later (`elementTag`): its text runs through the first `>`, its name is the
  run of ASCII letters and digits after the `<` or `</`, in lower case, and its kind is read off
  the two.

Every tag read starts at the position, and its text is the text from there to its stop, which lies
after the position and within the text. `readAt_grammar` puts the five together.

The reading itself works on the text after the position; the bridge to positions of the whole
text is `firstFrom_iff_drop`, and the searches of the reading are pinned to first occurrences by
`throughCommentEnd_of_firstFrom` and `firstFrom_gt_append`.
-/

namespace MarkupTidy.Markup

open MarkupTidy.Text

/-! ## First occurrences -/

/-- `q` is the first position at or after `i` at which `pat` occurs in `text`. -/
def FirstFrom (text pat : List Char) (i q : Nat) : Prop :=
  i ≤ q ∧ pat <+: text.drop q ∧ ∀ j, j < q → i ≤ j → ¬ pat <+: text.drop j

/-- `pat` occurs in `text` at or after position `i`. -/
def OccursFrom (text pat : List Char) (i : Nat) : Prop := ∃ j, i ≤ j ∧ pat <+: text.drop j

section Occurrences

variable {text pat : List Char} {i q : Nat}

theorem FirstFrom.occursFrom (h : FirstFrom text pat i q) : OccursFrom text pat i :=
  ⟨q, h.1, h.2.1⟩

/-- There is one first occurrence. -/
theorem FirstFrom.unique {q' : Nat} (h : FirstFrom text pat i q) (h' : FirstFrom text pat i q') :
    q = q' := by
  rcases Nat.lt_trichotomy q q' with hlt | heq | hgt
  · exact absurd h.2.1 (h'.2.2 q hlt h.1)
  · exact heq
  · exact absurd h'.2.1 (h.2.2 q' hgt h'.1)

/-- **Seen from `i`**, the first occurrence at or after `i` is the first occurrence in the text
after `i`. -/
theorem firstFrom_iff_drop :
    FirstFrom text pat i q ↔ i ≤ q ∧ FirstFrom (text.drop i) pat 0 (q - i) := by
  constructor
  · rintro ⟨hiq, hpat, hfirst⟩
    refine ⟨hiq, Nat.zero_le _, ?_, fun j hj _ => ?_⟩
    · rwa [List.drop_drop, Nat.add_sub_cancel' hiq]
    · rw [List.drop_drop]
      exact hfirst (i + j) (by omega) (by omega)
  · rintro ⟨hiq, -, hpat, hfirst⟩
    refine ⟨hiq, by rwa [List.drop_drop, Nat.add_sub_cancel' hiq] at hpat, fun j hj hij => ?_⟩
    have := hfirst (j - i) (by omega) (Nat.zero_le _)
    rwa [List.drop_drop, Nat.add_sub_cancel' hij] at this

theorem occursFrom_iff_drop : OccursFrom text pat i ↔ OccursFrom (text.drop i) pat 0 := by
  constructor
  · rintro ⟨j, hij, hpat⟩
    exact ⟨j - i, Nat.zero_le _, by rwa [List.drop_drop, Nat.add_sub_cancel' hij]⟩
  · rintro ⟨j, -, hpat⟩
    exact ⟨i + j, by omega, by rwa [List.drop_drop] at hpat⟩

end Occurrences

/-- An occurrence after the head of a text is the first exactly when the pattern does not start
the text and it is the first occurrence in the rest. -/
theorem firstFrom_cons_succ {c : Char} {s pat : List Char} {k : Nat} :
    FirstFrom (c :: s) pat 0 (k + 1) ↔ ¬ pat <+: c :: s ∧ FirstFrom s pat 0 k := by
  constructor
  · rintro ⟨-, hpat, hfirst⟩
    exact ⟨hfirst 0 (by omega) le_rfl, Nat.zero_le _, hpat,
      fun j hj _ => hfirst (j + 1) (by omega) (Nat.zero_le _)⟩
  · rintro ⟨hhead, -, hpat, hfirst⟩
    refine ⟨Nat.zero_le _, hpat, fun j hj _ => ?_⟩
    cases j with
    | zero => exact hhead
    | succ j => exact hfirst j (by omega) (Nat.zero_le _)

/-- A pattern that starts the text occurs first at its head. -/
theorem FirstFrom.eq_zero {s pat : List Char} {k : Nat} (h : FirstFrom s pat 0 k)
    (hpat : pat <+: s) : k = 0 :=
  Nat.eq_zero_of_not_pos fun hk => h.2.2 0 hk le_rfl hpat

theorem occursFrom_cons {c : Char} {s pat : List Char} :
    OccursFrom (c :: s) pat 0 ↔ pat <+: c :: s ∨ OccursFrom s pat 0 := by
  constructor
  · rintro ⟨j, -, hpat⟩
    cases j with
    | zero => exact .inl hpat
    | succ j => exact .inr ⟨j, Nat.zero_le _, hpat⟩
  · rintro (hpat | ⟨j, -, hpat⟩)
    · exact ⟨0, le_rfl, hpat⟩
    · exact ⟨j + 1, Nat.zero_le _, hpat⟩

/-! ## The searches of a reading -/

/-- A `>` occurs at or after `i` exactly when the text after `i` holds one. -/
theorem occursFrom_gt_iff {text : List Char} {i : Nat} :
    OccursFrom text ['>'] i ↔ '>' ∈ text.drop i := by
  rw [occursFrom_iff_drop]
  constructor
  · rintro ⟨j, -, hpat⟩
    exact List.mem_of_mem_drop (hpat.mem (List.mem_singleton_self _))
  · intro hmem
    obtain ⟨x, y, hxy, -⟩ := exists_eq_append_gt hmem
    exact ⟨x.length, Nat.zero_le _, by rw [hxy, List.drop_left' rfl]; simp⟩

/-- **The first `>` of a text that no `>` starts before it**, counted from its head. -/
theorem firstFrom_gt_append {x : List Char} (hx : '>' ∉ x) (y : List Char) :
    FirstFrom (x ++ '>' :: y) ['>'] 0 x.length := by
  refine ⟨Nat.zero_le _, by rw [List.drop_left' rfl]; simp, fun j hj _ hpat => hx ?_⟩
  rw [List.drop_append_of_le_length hj.le, List.drop_eq_getElem_cons hj] at hpat
  rw [(List.cons_prefix_cons.1 hpat).1]
  exact List.getElem_mem hj

/-- With the text after `i` cut at its first `>`, that `>` is the first at or after `i`. -/
theorem firstFrom_gt_iff_of_drop {text x y : List Char} {i q : Nat} (hx : '>' ∉ x)
    (hdrop : text.drop i = x ++ '>' :: y) : FirstFrom text ['>'] i q ↔ q = i + x.length := by
  have hfirst : FirstFrom text ['>'] i (i + x.length) :=
    firstFrom_iff_drop.2 ⟨by omega, by rw [hdrop, Nat.add_sub_cancel_left]; exact firstFrom_gt_append hx y⟩
  exact ⟨fun h => h.unique hfirst, fun h => h ▸ hfirst⟩

/-- The text through the first `-->`. -/
theorem throughCommentEnd_of_firstFrom (s : List Char) :
    ∀ {k : Nat}, FirstFrom s ['-', '-', '>'] 0 k → throughCommentEnd s = s.take (k + 3) := by
  fun_induction throughCommentEnd s with
  | case1 => intro k h; exact absurd h.2.1 (by simp)
  | case2 rest =>
    intro k h
    rw [h.eq_zero (by simp)]
    rfl
  | case3 c rest hne ih =>
    intro k h
    -- the text does not start with `-->`, so the first `-->` comes later
    have hhead : ¬ ['-', '-', '>'] <+: c :: rest := by
      rintro ⟨t, ht⟩
      simp only [List.cons_append, List.nil_append, List.cons.injEq] at ht
      exact hne t ht.1.symm ht.2.symm
    obtain ⟨k, rfl⟩ : ∃ k', k = k' + 1 :=
      Nat.exists_eq_succ_of_ne_zero fun hk => hhead (by simpa [hk] using h.2.1)
    rw [ih (firstFrom_cons_succ.1 h).2]
    rfl

/-- The whole text, when no `-->` closes it. -/
theorem throughCommentEnd_of_not_occursFrom (s : List Char)
    (h : ¬ OccursFrom s ['-', '-', '>'] 0) : throughCommentEnd s = s := by
  fun_induction throughCommentEnd s with
  | case1 => rfl
  | case2 rest => exact absurd (occursFrom_cons.2 (.inl (by simp))) h
  | case3 c rest _ ih => rw [ih fun ho => h (occursFrom_cons.2 (.inr ho))]

/-- No text through a `>` when there is none. -/
theorem throughGt_of_gt_not_mem {s : List Char} (h : '>' ∉ s) : throughGt s = none := by
  cases hs : throughGt s with
  | none => rfl
  | some d =>
    obtain ⟨hpre, hmem⟩ := isPrefix_of_throughGt hs
    exact absurd (hpre.mem hmem) h

/-! ## Reading at a position -/

/-- Where the name of an element tag whose `<` stands at `pos` starts: after the `<`, and after a
`/` when one follows it. -/
def nameStart (text : List Char) (pos : Nat) : Nat :=
  if text[pos + 1]? = some '/' then pos + 2 else pos + 1

/-- The name of an element tag whose `<` stands at `pos`: the run of ASCII letters and digits
where its name starts, in lower case. -/
def elementName (text : List Char) (pos : Nat) : String :=
  String.ofList (((text.drop (nameStart text pos)).takeWhile isNameChar).map Char.toLower)

/-- The element tag whose `<` stands at `pos` and whose first `>` after it is at `q`: its text runs
from the `<` through that `>`, and its kind is read off its text and its name. -/
def elementTag (text : List Char) (pos q : Nat) : Tag :=
  ⟨elementName text pos, classify (text.extract pos (q + 1)) (elementName text pos),
    String.ofList (text.extract pos (q + 1)), pos, q + 1⟩

/-- **What a reading finds is where it starts**: its text is the text from the position to its
stop, which lies after the position and within the text. -/
theorem readAt_span {text : List Char} {pos : Nat} (hpos : pos ≤ text.length) {t : Tag}
    (h : readAt text pos = .ok (some t)) :
    t.start = pos ∧ t.raw = String.ofList (text.extract pos t.stop) ∧ pos < t.stop ∧
      t.stop ≤ text.length := by
  rw [readAt_ofNat, read?, Except.ok.injEq, Option.map_eq_some_iff] at h
  obtain ⟨⟨k, name, raw⟩, hl, rfl⟩ := h
  dsimp only
  have hpre := isPrefix_of_lexeme? hl
  have hlen := length_pos_of_lexeme? hl
  have hle := hpre.length_le
  rw [List.length_drop] at hle
  refine ⟨rfl, ?_, by omega, by omega⟩
  simp only [List.extract, Nat.add_sub_cancel_left]
  rw [← List.prefix_iff_eq_take.1 hpre]

/-- A reading finds nothing where no `<` stands. -/
theorem readAt_of_not_lt {text : List Char} {pos : Nat} (h : text[pos]? ≠ some '<') :
    readAt text pos = .ok none := by
  rw [readAt_ofNat, ← List.head?_drop] at *
  cases hs : text.drop pos with
  | nil => rfl
  | cons c rest =>
    rw [hs, List.head?_cons, ne_eq, Option.some.injEq] at h
    simp [read?, lexeme?_cons_of_ne rest h]

/-- What follows an opening seen at a position. -/
theorem drop_add_length_of_append_eq {text lead rest : List Char} {pos : Nat}
    (hs : lead ++ rest = text.drop pos) : text.drop (pos + lead.length) = rest := by
  rw [← List.drop_drop, ← hs, List.drop_left]

/-- A comment is read as its `<!--` and its body through the first `-->`, if any. -/
theorem readAt_comment_eq {text : List Char} {pos : Nat} {body : List Char}
    (hs : ['<', '!', '-', '-'] ++ body = text.drop pos) :
    readAt text pos = .ok (some ⟨"", .comment,
      String.ofList (['<', '!', '-', '-'] ++ throughCommentEnd body), pos,
      pos + (4 + (throughCommentEnd body).length)⟩) := by
  rw [readAt_ofNat, ← hs]
  simp [read?, lexeme?]
  omega

/-- A comment that a `-->` closes runs through the first one. -/
theorem readAt_comment_of_firstFrom {text : List Char} {pos : Nat} {body : List Char}
    (hs : ['<', '!', '-', '-'] ++ body = text.drop pos) {q : Nat}
    (hq : FirstFrom text ['-', '-', '>'] (pos + 4) q) :
    readAt text pos =
      .ok (some ⟨"", .comment, String.ofList (text.extract pos (q + 3)), pos, q + 3⟩) := by
  obtain ⟨hle, hfirst⟩ := firstFrom_iff_drop.1 hq
  obtain ⟨k, rfl⟩ : ∃ k, q = pos + 4 + k := ⟨q - (pos + 4), by omega⟩
  have hbody : text.drop (pos + 4) = body := drop_add_length_of_append_eq hs
  rw [hbody, show pos + 4 + k - (pos + 4) = k by omega] at hfirst
  have hroom : k + 3 ≤ body.length := by
    have := hfirst.2.1.length_le
    simp only [List.length_drop, List.length_cons, List.length_nil] at this
    omega
  -- the comment is the `<!--` and the body through the `-->` at `pos + 4 + k`
  have htake : (text.drop pos).take (pos + 4 + k + 3 - pos) =
      ['<', '!', '-', '-'] ++ body.take (k + 3) := by
    rw [← hs, show pos + 4 + k + 3 - pos = k + 3 + 1 + 1 + 1 + 1 by omega]
    rfl
  rw [readAt_comment_eq hs, throughCommentEnd_of_firstFrom body hfirst, List.extract, htake]
  simp only [Except.ok.injEq, Option.some.injEq, Tag.mk.injEq, true_and, List.length_take]
  omega

/-- A comment that no `-->` closes runs to the end of the text. -/
theorem readAt_comment_of_not_occursFrom {text : List Char} {pos : Nat} {body : List Char}
    (hpos : pos ≤ text.length) (hs : ['<', '!', '-', '-'] ++ body = text.drop pos)
    (hnone : ¬ OccursFrom text ['-', '-', '>'] (pos + 4)) :
    readAt text pos = .ok (some
      ⟨"", .comment, String.ofList (text.extract pos text.length), pos, text.length⟩) := by
  have hbody : text.drop (pos + 4) = body := drop_add_length_of_append_eq hs
  rw [occursFrom_iff_drop, hbody] at hnone
  have hall : (text.drop pos).take (text.length - pos) = text.drop pos :=
    List.take_of_length_le (by simp)
  have hlen : (text.drop pos).length = 4 + body.length := by
    rw [← hs]
    simp only [List.length_append, List.length_cons, List.length_nil]
  rw [List.length_drop] at hlen
  rw [readAt_comment_eq hs, throughCommentEnd_of_not_occursFrom body hnone, List.extract, hall,
    ← hs]
  simp only [Except.ok.injEq, Option.some.injEq, Tag.mk.injEq, true_and]
  omega

/-- **A comment** runs through the first `-->` that starts four or more characters after its `<`,
or to the end of the text. -/
theorem readAt_comment {text : List Char} {pos : Nat} (hpos : pos ≤ text.length)
    (hopen : ['<', '!', '-', '-'] <+: text.drop pos) :
    (∀ q, FirstFrom text ['-', '-', '>'] (pos + 4) q →
      readAt text pos =
        .ok (some ⟨"", .comment, String.ofList (text.extract pos (q + 3)), pos, q + 3⟩)) ∧
    (¬ OccursFrom text ['-', '-', '>'] (pos + 4) →
      readAt text pos =
        .ok (some ⟨"", .comment, String.ofList (text.extract pos text.length), pos, text.length⟩)) := by
  obtain ⟨body, hs⟩ := hopen
  exact ⟨fun _ hq => readAt_comment_of_firstFrom hs hq,
    readAt_comment_of_not_occursFrom hpos hs⟩

/-- A declaration is read as its `<!` and the text through the first `>` after it, if any. -/
theorem readAt_declaration_eq {text : List Char} {pos : Nat} {d : List Char}
    (hs : ['<', '!'] ++ d = text.drop pos) (hdash : ¬ ['-', '-'] <+: d) :
    readAt text pos =
      .ok ((throughGt d).map fun t => (⟨"", .declaration, String.ofList ('<' :: '!' :: t), pos,
        pos + (t.length + 2)⟩ : Tag)) := by
  rw [readAt_ofNat, ← hs, List.cons_append, List.cons_append, List.nil_append, read?,
    lexeme?.eq_2 d fun body hbody => hdash (by rw [hbody]; simp)]
  simp [Function.comp_def]

/-- A declaration that a `>` closes runs through the first one. -/
theorem readAt_declaration_of_firstFrom {text : List Char} {pos : Nat} {d : List Char}
    (hs : ['<', '!'] ++ d = text.drop pos) (hdash : ¬ ['-', '-'] <+: d) {q : Nat}
    (hq : FirstFrom text ['>'] (pos + 2) q) :
    readAt text pos =
      .ok (some ⟨"", .declaration, String.ofList (text.extract pos (q + 1)), pos, q + 1⟩) := by
  have hd : text.drop (pos + 2) = d := drop_add_length_of_append_eq hs
  obtain ⟨x, y, hxy, hx⟩ := exists_eq_append_gt (occursFrom_gt_iff.1 hq.occursFrom)
  rw [hd] at hxy
  have hq' := (firstFrom_gt_iff_of_drop hx (hd.trans hxy)).1 hq
  subst hq'
  have hthrough : throughGt d = some (x ++ ['>']) := by
    rw [hxy, throughGt_append_gt, throughGt_append_of_gt_not_mem hx]
  have htake : (text.drop pos).take (pos + 2 + x.length + 1 - pos) = '<' :: '!' :: (x ++ ['>']) := by
    rw [← hs, hxy, show pos + 2 + x.length + 1 - pos = x.length + 1 + 1 + 1 by omega]
    simp only [List.cons_append, List.nil_append, List.take_succ_cons, List.take_length_add_append]
    rfl
  rw [readAt_declaration_eq hs hdash, hthrough, List.extract, htake]
  simp only [Option.map_some, Except.ok.injEq, Option.some.injEq, Tag.mk.injEq, true_and,
    List.length_append, List.length_singleton]
  omega

/-- **A declaration** runs through the first `>` two or more characters after its `<`, and there is
none without such a `>`. -/
theorem readAt_declaration {text : List Char} {pos : Nat}
    (hopen : ['<', '!'] <+: text.drop pos) (hcomment : ¬ ['<', '!', '-', '-'] <+: text.drop pos) :
    (∀ q, FirstFrom text ['>'] (pos + 2) q →
      readAt text pos =
        .ok (some ⟨"", .declaration, String.ofList (text.extract pos (q + 1)), pos, q + 1⟩)) ∧
    (¬ OccursFrom text ['>'] (pos + 2) → readAt text pos = .ok none) := by
  obtain ⟨d, hs⟩ := hopen
  have hdash : ¬ ['-', '-'] <+: d := fun h => hcomment (by
    rw [← hs]
    exact (List.prefix_append_right_inj ['<', '!']).2 h)
  refine ⟨fun _ hq => readAt_declaration_of_firstFrom hs hdash hq, fun hnone => ?_⟩
  have hd : text.drop (pos + 2) = d := drop_add_length_of_append_eq hs
  rw [occursFrom_gt_iff, hd] at hnone
  rw [readAt_declaration_eq hs hdash, throughGt_of_gt_not_mem hnone]
  rfl

/-- The reading of an element tag whose name starts after `lead` and whose first `>` follows `b`:
it is read exactly when a letter starts the name. -/
theorem read?_element {text : List Char} {pos : Nat} (lead : List Char) {b y : List Char}
    (hb : '>' ∉ b)
    (hs : text.drop pos = lead ++ b ++ '>' :: y)
    (hlex : lexeme? (text.drop pos) = elementLexeme? lead (b ++ ['>']))
    (hname : text.drop (nameStart text pos) = b ++ '>' :: y) :
    read? (text.drop pos) pos = if (text[nameStart text pos]?).any isNameStart
      then some (elementTag text pos (pos + lead.length + b.length)) else none := by
  have hgt : isNameChar '>' = false := by decide
  have hhead : (text[nameStart text pos]?).any isNameStart = b.head?.any isNameStart := by
    rw [← List.head?_drop, hname]
    cases b <;> simp [isNameStart]
  have hnameEq : elementName text pos = String.ofList ((b.takeWhile isNameChar).map Char.toLower) := by
    rw [elementName, hname, takeWhile_append_cons_of_neg hgt,
      takeWhile_append_singleton_of_neg hgt]
  have hraw : text.extract pos (pos + lead.length + b.length + 1) = lead ++ b ++ ['>'] := by
    rw [List.extract, hs, show pos + lead.length + b.length + 1 - pos = (lead ++ b).length + 1 by
      simp; omega, List.append_assoc, List.append_assoc, ← List.append_assoc lead b,
      List.take_length_add_append]
    simp
  rw [read?, hlex, elementLexeme?_chunk lead hb, hhead]
  split
  · simp only [Option.map_some, elementTag, hnameEq, hraw, Option.some.injEq]
    simp
    omega
  · rfl

/-- **An element tag**, where the first `>` after its `<` follows `x`: it is read exactly when an
ASCII letter starts its name. -/
theorem readAt_element {text : List Char} {pos : Nat} (hlt : text[pos]? = some '<')
    (hbang : ¬ ['<', '!'] <+: text.drop pos) {x y : List Char} (hx : '>' ∉ x)
    (hrest : text.drop (pos + 1) = x ++ '>' :: y) :
    readAt text pos = .ok (if (text[nameStart text pos]?).any isNameStart
      then some (elementTag text pos (pos + 1 + x.length)) else none) := by
  have hlen : pos < text.length := (List.getElem?_eq_some_iff.1 hlt).1
  have hs : text.drop pos = '<' :: (x ++ '>' :: y) := by
    rw [List.drop_eq_getElem_cons hlen, hrest, (List.getElem?_eq_some_iff.1 hlt).2]
  have hbang' : ∀ r, x ≠ '!' :: r := by
    rintro r rfl
    exact hbang (by rw [hs]; simp)
  have hlex : lexeme? (text.drop pos) = lexeme? ('<' :: (x ++ ['>'])) := by
    rw [hs, lexeme?_append_gt hbang']
  rw [readAt_ofNat]
  by_cases hslash : x.head? = some '/'
  · -- a `/` after the `<`: the name starts one further on
    obtain ⟨b, rfl⟩ := List.head?_eq_some_iff.1 hslash
    have hns : nameStart text pos = pos + 2 := by
      simp [nameStart, ← List.head?_drop, hrest]
    have hb : '>' ∉ b := fun h => hx (List.mem_cons_of_mem _ h)
    have hname : text.drop (nameStart text pos) = b ++ '>' :: y := by
      rw [hns, show pos + 2 = pos + 1 + 1 by omega, ← List.drop_drop, hrest]
      rfl
    rw [read?_element ['<', '/'] hb (by rw [hs]; rfl)
      (by rw [hlex]; exact lexeme?_lt_slash _) hname,
      show pos + ['<', '/'].length + b.length = pos + 1 + ('/' :: b).length by
        simp only [List.length_cons, List.length_nil]; omega]
  · have hns : nameStart text pos = pos + 1 := by
      simp [nameStart, ← List.head?_drop, hrest]
      cases x <;> simp_all
    have hlead : lexeme? ('<' :: (x ++ ['>'])) = elementLexeme? ['<'] (x ++ ['>']) := by
      cases x with
      | nil => exact lexeme?_lt_of_ne (by decide) (by decide) []
      | cons c b =>
        exact lexeme?_lt_of_ne (fun h => hbang' b (by rw [h])) (fun h => hslash (by simp [h])) _
    rw [read?_element ['<'] hx (by rw [hs]; rfl) (hlex.trans hlead)
      (by rw [hns, hrest]), List.length_singleton]

/-- Without a `>` after it, a `<` that no `!` follows reads nothing. -/
theorem readAt_element_of_gt_not_mem {text : List Char} {pos : Nat} (hlt : text[pos]? = some '<')
    (hbang : ¬ ['<', '!'] <+: text.drop pos) (hgt : '>' ∉ text.drop (pos + 1)) :
    readAt text pos = .ok none := by
  have hlen : pos < text.length := (List.getElem?_eq_some_iff.1 hlt).1
  have hs : text.drop pos = '<' :: text.drop (pos + 1) := by
    rw [List.drop_eq_getElem_cons hlen, (List.getElem?_eq_some_iff.1 hlt).2]
  have hbang' : ∀ r, text.drop (pos + 1) ≠ '!' :: r := by
    intro r hr
    exact hbang (by rw [hs, hr]; simp)
  rw [readAt_ofNat, read?, hs]
  cases hl : lexeme? ('<' :: text.drop (pos + 1)) with
  | none => rfl
  | some l =>
    obtain ⟨k, name, raw⟩ := l
    -- an element tag holds a `>`, and its text is a prefix of what follows the `<`
    have hmem := (isPrefix_of_lexeme? hl).mem (gt_mem_of_lexeme? hbang' hl)
    exact absurd (List.mem_cons.1 hmem |>.resolve_left (by decide)) hgt

/-- **An element tag is read exactly when its grammar holds**, and then it is `elementTag`. -/
theorem readAt_element_iff {text : List Char} {pos : Nat} (hlt : text[pos]? = some '<')
    (hbang : ¬ ['<', '!'] <+: text.drop pos) :
    ((∃ t, readAt text pos = .ok (some t)) ↔
      (∃ c, text[nameStart text pos]? = some c ∧ isNameStart c = true) ∧
        OccursFrom text ['>'] (pos + 1)) ∧
    ∀ q, FirstFrom text ['>'] (pos + 1) q →
      (∃ c, text[nameStart text pos]? = some c ∧ isNameStart c = true) →
        readAt text pos = .ok (some (elementTag text pos q)) := by
  have hname : ∀ {x y : List Char}, '>' ∉ x → text.drop (pos + 1) = x ++ '>' :: y →
      ((∃ t, readAt text pos = .ok (some t)) ↔
        ∃ c, text[nameStart text pos]? = some c ∧ isNameStart c = true) := by
    intro x y hx hrest
    rw [readAt_element hlt hbang hx hrest, ← Option.any_eq_true]
    split <;> simp_all
  constructor
  · by_cases hgt : '>' ∈ text.drop (pos + 1)
    · obtain ⟨x, y, hrest, hx⟩ := exists_eq_append_gt hgt
      rw [hname hx hrest, occursFrom_gt_iff]
      exact ⟨fun h => ⟨h, hgt⟩, fun h => h.1⟩
    · rw [readAt_element_of_gt_not_mem hlt hbang hgt, occursFrom_gt_iff]
      simp [hgt]
  · intro q hq hstart
    obtain ⟨x, y, hrest, hx⟩ := exists_eq_append_gt (occursFrom_gt_iff.1 hq.occursFrom)
    rw [(firstFrom_gt_iff_of_drop hx hrest).1 hq, readAt_element hlt hbang hx hrest,
      if_pos ((Option.any_eq_true _ _).2 hstart)]

/-! ## The grammar -/

/-- **A reading accepts exactly the grammar of tags.** At a position within the text: nothing
unless a `<` stands there; after `<!--`, a comment through the first `-->` four or more characters
on, or to the end; after another `<!`, a declaration through the first `>` two or more characters
on, or nothing; after another `<`, an element tag exactly when an ASCII letter follows the `<` and
an optional `/` and a `>` comes later, and then it is `elementTag` at the first `>`. Every tag
read starts at the position and spans the text from there to its stop, within the text. -/
theorem readAt_grammar (text : List Char) (pos : Nat) (hpos : pos ≤ text.length) :
    (text[pos]? ≠ some '<' → readAt text pos = .ok none) ∧
    (['<', '!', '-', '-'] <+: text.drop pos →
      (∀ q, FirstFrom text ['-', '-', '>'] (pos + 4) q →
        readAt text pos =
          .ok (some ⟨"", .comment, String.ofList (text.extract pos (q + 3)), pos, q + 3⟩)) ∧
      (¬ OccursFrom text ['-', '-', '>'] (pos + 4) →
        readAt text pos = .ok
          (some ⟨"", .comment, String.ofList (text.extract pos text.length), pos, text.length⟩))) ∧
    (['<', '!'] <+: text.drop pos → ¬ ['<', '!', '-', '-'] <+: text.drop pos →
      (∀ q, FirstFrom text ['>'] (pos + 2) q →
        readAt text pos =
          .ok (some ⟨"", .declaration, String.ofList (text.extract pos (q + 1)), pos, q + 1⟩)) ∧
      (¬ OccursFrom text ['>'] (pos + 2) → readAt text pos = .ok none)) ∧
    (text[pos]? = some '<' → ¬ ['<', '!'] <+: text.drop pos →
      ((∃ t, readAt text pos = .ok (some t)) ↔
        (∃ c, text[nameStart text pos]? = some c ∧ isNameStart c = true) ∧
          OccursFrom text ['>'] (pos + 1)) ∧
      ∀ q, FirstFrom text ['>'] (pos + 1) q →
        (∃ c, text[nameStart text pos]? = some c ∧ isNameStart c = true) →
          readAt text pos = .ok (some (elementTag text pos q))) ∧
    (∀ t, readAt text pos = .ok (some t) →
      t.start = pos ∧ t.raw = String.ofList (text.extract pos t.stop) ∧ pos < t.stop ∧
        t.stop ≤ text.length) :=
  ⟨readAt_of_not_lt, readAt_comment hpos, readAt_declaration, readAt_element_iff,
    fun _ => readAt_span hpos⟩

/-- `<!-->` does not close itself: the comment it opens runs through the next `-->`. -/
theorem readAt_grammar_unclosed_opener :
    0 ≤ "<!-->a-->".toList.length ∧
      readAt "<!-->a-->".toList 0 = .ok (some ⟨"", .comment, "<!-->a-->", 0, 9⟩) := by
  refine ⟨by decide, ?_⟩
  have hfirst : FirstFrom "<!-->a-->".toList ['-', '-', '>'] (0 + 4) 6 := by
    unfold FirstFrom
    decide
  have hraw : String.ofList ("<!-->a-->".toList.extract 0 (6 + 3)) = "<!-->a-->" := by decide
  have h := ((readAt_grammar "<!-->a-->".toList 0 (by decide)).2.1 (by decide)).1 6 hfirst
  rw [hraw] at h
  simpa using h

end MarkupTidy.Markup
