import MarkupTidy.Proofs.LayoutTags
import MarkupTidy.Proofs.Nesting

/-!
# Proofs/CleanLayout — on clean markup, indentation is nesting depth

*Clean markup* (`CleanMarkup`) is made of element tags only, with blanks before, between and
after them, where each tag is clean (`CleanTag`): the whole of its text is read as one element
tag, an opening tag mentions no void element, a tag written with `</` names none, and no `/` or
blank stands right before the final `>`.

There the segments are the tags: every seam is the `>` of one tag, the blanks after it and the `<`
of the next, and a tag keeps no `>` but its last (`CleanTag.exists_core`). So every line of the
layout is a tag, verbatim (`lineTexts_clean`). And the depth follows the check's stack: a line
starts with `</` exactly when its tag is a closing tag, and a line raises the depth exactly when
its tag is an opening tag (`CleanTag.closesLevel_eq`, `CleanTag.opensLevel_eq`), while the check
pushes at an opening tag and pops at a closing one (`openCounts`, `levels_clean`): each line is
placed at the size of the check's stack at its tag (`placed_clean`).

* `layout_clean` — the laid-out text is the tags, one a line, each after as many indent units as
  the check holds open at that tag;
* `layout_clean_last_line` — when the check finds no fault, the last line is not indented;
* `layout_indents_last_line` — on markup that is not clean that can fail: text after a closing
  tag keeps the line from closing its level.
-/

namespace MarkupTidy.Markup

open MarkupTidy.Text

/-! ## The check's stack -/

/-- The number of elements the check holds open as it comes to each tag: before it pushes an
opening tag, after it pops for a closing one (nothing is popped when nothing is open), and as it
is at any other tag. -/
def openCounts : List (String × Nat) → List Tag → List Nat
  | _, [] => []
  | stack, t :: ts =>
    match t.kind with
    | .opening => stack.length :: openCounts ((t.name, t.start.toNat) :: stack) ts
    | .closing =>
      match stack with
      | [] => 0 :: openCounts [] ts
      | _ :: rest => rest.length :: openCounts rest ts
    | _ => stack.length :: openCounts stack ts

/-! ## Clean markup -/

/-- A clean element tag `t` written as `raw`: the whole text is read as the one element tag `t`;
an opening tag mentions no void element; a tag written with `</` names none; and no `/` or
blank stands right before the final `>`. -/
structure CleanTag (raw : List Char) (t : Tag) : Prop where
  read : read? raw 0 = some t
  whole : t.raw.toList = raw
  element : t.isElement = true
  quiet : t.kind = .opening → mentionsVoid t = false
  notVoidClosing : ['<', '/'].isPrefixOf raw = true → voidNames.contains t.name = false
  plainEnd : ∀ c ∈ raw.dropLast.getLast?, c ≠ '/' ∧ isBlank c = false

/-- Whether a tag is clean can be decided: the last condition is a test of the character before
the final `>`. -/
instance (raw : List Char) (t : Tag) : Decidable (CleanTag raw t) :=
  decidable_of_iff (read? raw 0 = some t ∧ t.raw.toList = raw ∧ t.isElement = true ∧
      (t.kind = .opening → mentionsVoid t = false) ∧
      (['<', '/'].isPrefixOf raw = true → voidNames.contains t.name = false) ∧
      (raw.dropLast.getLast?.all fun c => c != '/' && !isBlank c) = true) <| by
    simp only [Option.all_eq_true, Bool.and_eq_true, bne_iff_ne, Bool.not_eq_true']
    exact ⟨fun ⟨h₁, h₂, h₃, h₄, h₅, h₆⟩ => ⟨h₁, h₂, h₃, h₄, h₅, h₆⟩,
      fun ⟨h₁, h₂, h₃, h₄, h₅, h₆⟩ => ⟨h₁, h₂, h₃, h₄, h₅, h₆⟩⟩

/-- Markup made only of clean element tags, with blanks before, between and after them. -/
inductive CleanMarkup : List Char → Prop
  /-- Blanks alone. -/
  | blanks (w : List Char) : (∀ c ∈ w, isBlank c = true) → CleanMarkup w
  /-- Blanks, a clean tag, and more clean markup. -/
  | tag (w raw rest : List Char) (t : Tag) : (∀ c ∈ w, isBlank c = true) → CleanTag raw t →
      CleanMarkup rest → CleanMarkup (w ++ raw ++ rest)

/-! ## Trimming and seams around blanks -/

theorem trim_blank_append {w : List Char} (hw : ∀ c ∈ w, isBlank c = true) (x : List Char) :
    trim (w ++ x) = trim x := by
  rw [trim_eq_rdropWhile, trim_eq_rdropWhile, List.dropWhile_append_of_pos hw]

theorem trim_append_blank (x : List Char) {w : List Char} (hw : ∀ c ∈ w, isBlank c = true) :
    trim (x ++ w) = trim x := by
  have hrw : ∀ c ∈ w.reverse, isBlank c = true := fun c hc => hw c (List.mem_reverse.1 hc)
  rw [trim_eq_rdropWhile, trim_eq_rdropWhile, List.dropWhile_append]
  split
  · next hx =>
    rw [List.isEmpty_iff.1 hx, List.dropWhile_eq_nil_iff.2 hw]
  · simp only [List.rdropWhile, List.reverse_append, List.dropWhile_append_of_pos hrw]

theorem seamFree_of_gt_not_mem {s : List Char} (hs : '>' ∉ s) : SeamFree s := by
  intro i hseam
  cases hd : s.drop i with
  | nil => rw [hd] at hseam; exact not_seamAt_nil hseam
  | cons c r =>
    rw [hd, seamAt_cons_iff] at hseam
    exact hs (hseam.1 ▸ (List.drop_sublist i s).subset (hd ▸ List.mem_cons_self))

/-- A `>` followed by blanks alone starts no seam. -/
theorem seamFree_gt_blanks {w : List Char} (hw : ∀ c ∈ w, isBlank c = true) :
    SeamFree ('>' :: w) := by
  refine seamFree_cons_iff.2 ⟨fun hseam => ?_, seamFree_of_gt_not_mem (gt_not_mem_of_blank hw)⟩
  rw [seamAt_cons_iff, List.dropWhile_eq_nil_iff.2 hw] at hseam
  simp at hseam

/-- A line depends on its segment only through the segment trimmed. -/
theorem lineTexts_cons_congr {seg seg' : List Char} (h : trim seg = trim seg') (first : Bool)
    (rest : List (List Char)) : lineTexts first (seg :: rest) = lineTexts first (seg' :: rest) := by
  simp only [lineTexts, h]

/-! ## Clean tags -/

section CleanTag

variable {raw : List Char} {t : Tag}

/-- A clean tag is read from its text as its kind and name, spanning the whole text. -/
theorem CleanTag.lexeme?_eq (h : CleanTag raw t) : lexeme? raw = some (t.kind, t.name, raw) := by
  obtain ⟨⟨k, name, r⟩, hl, rfl⟩ := Option.map_eq_some_iff.1 h.read
  have hr : r = raw := by simpa using h.whole
  rw [hl, hr]

/-- **A clean tag is its `<`, a core, and its `>`**: the core holds no `>`, since the tag ends at
the first one; it starts with a letter or a `/`, since a `<` before a blank or a `>` reads no tag;
and it ends with no blank, since the tag is clean. -/
theorem CleanTag.exists_core (h : CleanTag raw t) :
    ∃ b, raw = '<' :: (b ++ ['>']) ∧ IsCore b ∧ '>' ∉ b ∧ ∀ r, b ≠ '!' :: r := by
  have hlex := h.lexeme?_eq
  obtain ⟨rest, _, rfl, -, hel⟩ := lexeme?_eq_some hlex
  have hbang : ∀ r, rest ≠ '!' :: r := hel.1 h.element
  -- the tag ends at the first `>` after its `<`, and it spans the text
  obtain ⟨b, y, rfl, hb⟩ := exists_eq_append_gt
    (List.mem_of_ne_of_mem (by decide) (gt_mem_of_lexeme? hbang hlex))
  have hbbang : ∀ r, b ≠ '!' :: r := fun r hr => hbang (r ++ '>' :: y) (by rw [hr]; rfl)
  have hy : y = [] := by
    have hlen := (isPrefix_of_lexeme? ((lexeme?_append_gt hbbang y).symm.trans hlex)).length_le
    simp only [List.length_cons, List.length_append, List.length_nil] at hlen
    exact List.eq_nil_of_length_eq_zero (by omega)
  subst hy
  refine ⟨b, rfl, ⟨?_, ⟨?_, ?_⟩, seamFree_of_gt_not_mem hb⟩, hb, hbbang⟩
  · rintro rfl
    rw [show lexeme? ('<' :: ([] ++ ['>'])) = none by decide] at hlex
    cases hlex
  · cases b with
    | nil => simp
    | cons c b =>
      intro d hd
      obtain rfl : c = d := by simpa using hd
      cases hc : isBlank c
      · rfl
      · simp only [List.cons_append] at hlex
        rw [lexeme?_lt_blank hc] at hlex
        cases hlex
  · intro c hc
    have hne : b ≠ [] := List.ne_nil_of_mem (List.mem_of_getLast? hc)
    obtain ⟨d, b', rfl⟩ := List.exists_cons_of_ne_nil hne
    have hend := h.plainEnd c
    rw [← List.cons_append, List.dropLast_concat, List.getLast?_cons_cons] at hend
    exact (hend hc).2

theorem kind_of_elementLexeme? {lead body : List Char} {k : Kind} {name : String}
    {r : List Char} (h : elementLexeme? lead body = some (k, name, r)) : k = classify r name := by
  obtain ⟨⟨n, tail⟩, -, hk⟩ := Option.map_eq_some_iff.1 h
  simp only [Prod.mk.injEq] at hk
  obtain ⟨rfl, rfl, rfl⟩ := hk
  rfl

/-- A clean tag has the kind its text and name give it. -/
theorem CleanTag.kind_eq (h : CleanTag raw t) : t.kind = classify raw t.name := by
  have hlex := h.lexeme?_eq
  have hel := h.element
  unfold lexeme? at hlex
  split at hlex
  · simp only [Option.some.injEq, Prod.mk.injEq] at hlex
    simp [Tag.isElement, ← hlex.1, Kind.isElement] at hel
  · obtain ⟨d, -, hd⟩ := Option.map_eq_some_iff.1 hlex
    simp only [Prod.mk.injEq] at hd
    simp [Tag.isElement, ← hd.1, Kind.isElement] at hel
  · exact kind_of_elementLexeme? hlex
  · exact kind_of_elementLexeme? hlex
  · cases hlex

/-- A clean tag is not written with `/>`. -/
theorem CleanTag.isSuffixOf_slash_gt (h : CleanTag raw t) : ['/', '>'].isSuffixOf raw = false := by
  obtain ⟨b, rfl, hb, -⟩ := h.exists_core
  obtain ⟨d, b', rfl⟩ := List.exists_cons_of_ne_nil hb.ne_nil
  have hend := h.plainEnd
  rw [← List.cons_append, List.dropLast_concat] at hend
  rw [← List.cons_append, MarkupTidy.Markup.isSuffixOf_slash_gt]
  cases hlast : (('<' :: d :: b').getLast?) with
  | none => simp at hlast
  | some c => simpa [hlast] using (hend c hlast).1

/-- **A line of a clean tag drops the depth exactly when the tag is a closing tag**: it starts
with `</` exactly then, and it is not written with `/>`. -/
theorem CleanTag.closesLevel_eq (h : CleanTag raw t) :
    closesLevel raw (read? raw 0) = (t.kind == .closing) := by
  have hslash := h.isSuffixOf_slash_gt
  have hwritten : t.writtenSelfClosing = false := by
    simp [Tag.writtenSelfClosing, h.whole, hslash]
  rw [h.read, closesLevel, hwritten, Bool.or_false, h.kind_eq, classify, hslash, Bool.false_or]
  cases hp : ['<', '/'].isPrefixOf raw with
  | true =>
    have hv : t.name ∉ voidNames := by simpa using h.notVoidClosing hp
    simp [hv]
  | false => split <;> simp

/-- **A line of a clean tag raises the depth exactly when the tag is an opening tag**: an opening
tag mentions no void element, and nothing follows it on its line. -/
theorem CleanTag.opensLevel_eq (h : CleanTag raw t) :
    opensLevel raw (read? raw 0) = (t.kind == .opening) := by
  have hown : closesOwn raw t = false := by
    rw [closesOwn, ← h.whole, String.length_toList.symm, List.drop_length, scanFrom_nil]
    rfl
  rw [h.read, opensLevel, hown, Bool.not_false, Bool.and_true]
  by_cases hk : t.kind = .opening
  · simp [hk, h.quiet hk]
  · simp [hk]

/-- A clean tag is read where it stands, and the scan goes on after it. -/
theorem CleanTag.scanFrom_append (h : CleanTag raw t) (rest : List Char) (pos : Nat) :
    scanFrom (raw ++ rest) pos =
      ⟨t.name, t.kind, t.raw, pos, pos + raw.length⟩ :: scanFrom rest (pos + raw.length) := by
  have hlex := h.lexeme?_eq
  have hraw : String.ofList raw = t.raw := by rw [← h.whole, String.ofList_toList]
  obtain ⟨b, rfl, -, -, hbang⟩ := h.exists_core
  have hlex' : lexeme? ('<' :: (b ++ '>' :: rest)) =
      some (t.kind, t.name, '<' :: (b ++ ['>'])) := by
    rw [lexeme?_append_gt hbang, hlex]
  have hdrop : (b ++ '>' :: rest).drop (('<' :: (b ++ ['>'])).length - 1) = rest := by
    simp
  rw [List.cons_append, List.append_assoc, List.singleton_append,
    scanFrom_lt_of_lexeme?_eq_some (append_ne_bang hbang (by simp)) hlex', hdrop, hraw]

end CleanTag

/-! ## The lines of clean markup -/

/-- Blanks, a clean tag and what follows are scanned as that tag, then what follows. -/
theorem scanFrom_blank_clean {w raw : List Char} {t : Tag} (hw : ∀ c ∈ w, isBlank c = true)
    (h : CleanTag raw t) (rest : List Char) (pos : Nat) :
    scanFrom (w ++ raw ++ rest) pos =
      ⟨t.name, t.kind, t.raw, (pos + w.length : Nat), pos + w.length + raw.length⟩ ::
        scanFrom rest (pos + w.length + raw.length) := by
  rw [List.append_assoc, scanFrom_append_of_lt_not_mem (lt_not_mem_of_blank hw),
    h.scanFrom_append]

/-- Every tag scanned from clean markup is a clean tag of its own text. -/
theorem cleanTag_of_mem_scanFrom {s : List Char} (hs : CleanMarkup s) :
    ∀ pos, ∀ t' ∈ scanFrom s pos, ∃ t, CleanTag t'.raw.toList t ∧ t.kind = t'.kind := by
  induction hs with
  | blanks w hw =>
    intro pos t' ht'
    rw [scanFrom_of_gt_not_mem (gt_not_mem_of_blank hw)] at ht'
    cases ht'
  | tag w raw rest t hw hraw _ ih =>
    intro pos t' ht'
    rw [scanFrom_blank_clean hw hraw] at ht'
    rcases List.mem_cons.1 ht' with rfl | ht'
    · exact ⟨t, hraw.whole ▸ hraw, rfl⟩
    · exact ih _ t' ht'

/-- After the `<` of a seam, clean markup is laid out one tag a line: the tag whose `<` the seam
took, then the tags that follow it, each as written. -/
theorem lineTexts_false_clean {rest : List Char} (hrest : CleanMarkup rest) :
    ∀ {b : List Char}, IsCore b → '>' ∉ b → ∀ pos,
      lineTexts false (segments (b ++ '>' :: rest)) =
        ('<' :: (b ++ ['>'])) :: (scanFrom rest pos).map (·.raw.toList) := by
  induction hrest with
  | blanks w hw =>
    -- no seam follows the last tag: its segment runs to the end, blanks and all
    intro b hb hgt pos
    have hseg : segments (b ++ '>' :: w) = [b ++ '>' :: w] :=
      segments_of_seamFree (hb.seamFree.append_cons (by decide) (by decide) (seamFree_gt_blanks hw))
    have htrim : trim (b ++ '>' :: w) = b ++ ['>'] := by
      rw [← List.singleton_append, ← List.append_assoc, trim_append_blank _ hw,
        trim_eq_self_iff.2 hb.concat_gt.trimmed]
    rw [hseg, scanFrom_of_gt_not_mem (gt_not_mem_of_blank hw)]
    simp [lineTexts, htrim]
  | tag w raw rest t hw hraw _ ih =>
    intro b hb hgt pos
    obtain ⟨b', rfl, hb', hgt', -⟩ := hraw.exists_core
    have htext : b ++ '>' :: (w ++ '<' :: (b' ++ ['>']) ++ rest) =
        b ++ '>' :: (w ++ '<' :: (b' ++ '>' :: rest)) := by simp
    rw [htext, segments_append_seam hb.seamFree hw, lineTexts_cons_of_isCore hb,
      ih hb' hgt' (pos + w.length + ('<' :: (b' ++ ['>'])).length), scanFrom_blank_clean hw hraw]
    simp [segments_ne_nil, hraw.whole]

/-- **The lines of clean markup are its tags, as written.** -/
theorem lineTexts_clean {s : List Char} (hs : CleanMarkup s) (pos : Nat) :
    lineTexts true (segments s) = (scanFrom s pos).map (·.raw.toList) := by
  match hs with
  | .blanks w hw =>
    rw [segments_of_seamFree (seamFree_of_gt_not_mem (gt_not_mem_of_blank hw)),
      scanFrom_of_gt_not_mem (gt_not_mem_of_blank hw)]
    have htrim : trim w = [] := by
      rw [← List.append_nil w, trim_blank_append hw]
      rfl
    simp [lineTexts, htrim]
  | .tag w raw rest t hw hraw hrest =>
    obtain ⟨b, rfl, hb, hgt, -⟩ := hraw.exists_core
    have hfirst : trim (w ++ '<' :: b) = '<' :: b := by
      rw [trim_blank_append hw, trim_eq_self_iff.2 hb.lt_cons.trimmed]
    rw [scanFrom_blank_clean hw hraw, List.map_cons, hraw.whole]
    match hrest with
    | .blanks w' hw' =>
      -- a single tag: no seam at all
      have hfree : SeamFree (w ++ '<' :: (b ++ ['>']) ++ w') := by
        have h : w ++ '<' :: (b ++ ['>']) ++ w' = (w ++ '<' :: b) ++ '>' :: w' := by simp
        rw [h]
        exact (seamFree_of_gt_not_mem (by simp [gt_not_mem_of_blank hw, hgt])).append_cons
          (by decide) (by decide) (seamFree_gt_blanks hw')
      have htrim : trim (w ++ '<' :: (b ++ '>' :: w')) = '<' :: (b ++ ['>']) := by
        rw [show w ++ '<' :: (b ++ '>' :: w') = w ++ '<' :: (b ++ ['>']) ++ w' by simp,
          trim_append_blank _ hw', trim_blank_append hw,
          trim_eq_self_iff.2 hb.concat_gt.lt_cons.trimmed]
      rw [segments_of_seamFree hfree, scanFrom_of_gt_not_mem (gt_not_mem_of_blank hw')]
      simp [lineTexts, htrim]
    | .tag w' raw' rest' t' hw' hraw' hrest' =>
      -- the first seam follows the first tag
      obtain ⟨b', rfl, hb', hgt', -⟩ := hraw'.exists_core
      have htext : w ++ '<' :: (b ++ ['>']) ++ (w' ++ '<' :: (b' ++ ['>']) ++ rest') =
          (w ++ '<' :: b) ++ '>' :: (w' ++ '<' :: (b' ++ '>' :: rest')) := by simp
      rw [htext,
        segments_append_seam (seamFree_of_gt_not_mem (by simp [gt_not_mem_of_blank hw, hgt])) hw',
        lineTexts_cons_congr (hfirst.trans (trim_eq_self_iff.2 hb.lt_cons.trimmed).symm),
        lineTexts_cons_of_isCore hb.lt_cons,
        lineTexts_false_clean hrest' hb' hgt' (pos + w.length + ('<' :: (b ++ ['>'])).length +
          w'.length + ('<' :: (b' ++ ['>'])).length),
        scanFrom_blank_clean hw' hraw']
      simp [segments_ne_nil, hraw'.whole]

/-! ## Depths -/

theorem length_openCounts (stack : List (String × Nat)) (tags : List Tag) :
    (openCounts stack tags).length = tags.length := by
  induction tags generalizing stack with
  | nil => rfl
  | cons t ts ih =>
    unfold openCounts
    split
    · simp [ih]
    · split <;> simp [ih]
    · simp [ih]

/-- **Along tags whose lines drop and raise the depth as their kinds say, the layout's depth is
the size of the check's stack.** Both go down at a closing tag, not below zero, and up after an
opening tag. -/
theorem levels_clean : ∀ (stack : List (String × Nat)) (tags : List Tag),
    (∀ t ∈ tags, closesLevel t.raw.toList (read? t.raw.toList 0) = (t.kind == .closing) ∧
      opensLevel t.raw.toList (read? t.raw.toList 0) = (t.kind == .opening)) →
    levels stack.length (tags.map (·.raw.toList)) =
      (openCounts stack tags).zip (tags.map (·.raw.toList))
  | _, [], _ => rfl
  | stack, t :: ts, h => by
    obtain ⟨⟨hclose, hopen⟩, hts⟩ := List.forall_mem_cons.1 h
    simp only [List.map_cons, levels, hclose, hopen, openCounts]
    cases hk : t.kind with
    | opening =>
      simp only [beq_iff_eq, reduceCtorEq, if_true, if_false, List.zip_cons_cons]
      rw [← levels_clean _ ts hts, List.length_cons]
    | closing =>
      cases stack with
      | nil =>
        simp only [beq_iff_eq, reduceCtorEq, if_true, if_false,
          List.zip_cons_cons, List.length_nil, Nat.zero_sub]
        rw [← levels_clean [] ts hts, List.length_nil]
      | cons top rest =>
        simp only [beq_iff_eq, reduceCtorEq, if_true, if_false,
          List.zip_cons_cons, List.length_cons, Nat.add_sub_cancel]
        rw [← levels_clean rest ts hts]
    | selfClosing | comment | declaration =>
      simp only [beq_iff_eq, reduceCtorEq, if_false, List.zip_cons_cons]
      rw [← levels_clean stack ts hts]

/-! ## Laying out clean markup -/

/-- **On clean markup each line is one tag, at the depth the check's stack has there.** -/
theorem placed_clean {html : String} (hclean : CleanMarkup html.toList) :
    placed html.toList = (openCounts [] (scan html)).zip ((scan html).map (·.raw.toList)) := by
  have hlines : ∀ t ∈ scan html,
      closesLevel t.raw.toList (read? t.raw.toList 0) = (t.kind == .closing) ∧
        opensLevel t.raw.toList (read? t.raw.toList 0) = (t.kind == .opening) := by
    intro t' ht'
    obtain ⟨t, ht, hk⟩ := cleanTag_of_mem_scanFrom hclean 0 t' ht'
    rw [ht.closesLevel_eq, ht.opensLevel_eq, hk]
    exact ⟨rfl, rfl⟩
  rw [placed, placedFrom_eq_levels, lineTexts_clean hclean 0, ← scan]
  simpa using levels_clean [] (scan html) hlines

/-- **On clean markup the indentation is the nesting depth.** The laid-out text is the text's
tags, one a line and each as written, after as many indent units as the check holds open at that
tag: before it pushes an opening tag, after it pops for a closing one. No check of the nesting is
needed for this. -/
theorem layout_clean {indent : Indent} {html : String} (hclean : CleanMarkup html.toList)
    {out : List Char} (hout : layout indent html.toList = .ok out) :
    out = List.intercalate ['\n'] (List.zipWith
      (fun d t => (List.replicate d indent.unit).flatten ++ t.raw.toList)
      (openCounts [] (scan html)) (scan html)) := by
  rw [eq_of_layout_eq_ok hout, placed_clean hclean, List.zip_map_right, List.map_map,
    List.map_zip_eq_zipWith]
  congr 1
  congr 1
  funext d t
  simp [Function.curry, Indent.text_eq_flatten]

/-- Clean markup three levels deep, with blanks around its tags. -/
theorem cleanMarkup_list : CleanMarkup "<ul>\n <li></li><br>\n</ul>".toList := by
  have hsplit : "<ul>\n <li></li><br>\n</ul>".toList =
      [] ++ "<ul>".toList ++ (['\n', ' '] ++ "<li>".toList ++ ([] ++ "</li>".toList ++
        ([] ++ "<br>".toList ++ (['\n'] ++ "</ul>".toList ++ [])))) := by decide
  rw [hsplit]
  refine .tag _ _ _ ⟨"ul", .opening, "<ul>", 0, 4⟩ (by simp) (by decide) <|
    .tag _ _ _ ⟨"li", .opening, "<li>", 0, 4⟩ (List.all_eq_true.1 (by decide)) (by decide) <|
    .tag _ _ _ ⟨"li", .closing, "</li>", 0, 5⟩ (by simp) (by decide) <|
    .tag _ _ _ ⟨"br", .selfClosing, "<br>", 0, 4⟩ (by simp) (by decide) <|
    .tag _ _ _ ⟨"ul", .closing, "</ul>", 0, 5⟩ (List.all_eq_true.1 (by decide)) (by decide) <|
    .blanks [] (by simp)

theorem layout_clean_list :
    CleanMarkup "<ul>\n <li></li><br>\n</ul>".toList ∧
      layout (.spaces 2) "<ul>\n <li></li><br>\n</ul>".toList =
        .ok "<ul>\n  <li>\n  </li>\n  <br>\n</ul>".toList ∧
      "<ul>\n  <li>\n  </li>\n  <br>\n</ul>".toList = List.intercalate ['\n'] (List.zipWith
        (fun d t => (List.replicate d (Indent.spaces 2).unit).flatten ++ t.raw.toList)
        (openCounts [] (scan "<ul>\n <li></li><br>\n</ul>"))
        (scan "<ul>\n <li></li><br>\n</ul>")) :=
  have hout : layout (.spaces 2) "<ul>\n <li></li><br>\n</ul>".toList =
      .ok "<ul>\n  <li>\n  </li>\n  <br>\n</ul>".toList := by decide +kernel
  ⟨cleanMarkup_list, hout, layout_clean cleanMarkup_list hout⟩

/-! ## The last line -/

/-- Joined lines end with the separator and the last line. -/
theorem intercalate_concat (sep x : List Char) {l : List (List Char)} (hl : l ≠ []) :
    List.intercalate sep (l ++ [x]) = List.intercalate sep l ++ sep ++ x := by
  induction l with
  | nil => exact absurd rfl hl
  | cons a l ih =>
    cases l with
    | nil => simp [List.intercalate_cons_cons]
    | cons b l =>
      simp only [List.cons_append] at ih ⊢
      rw [List.intercalate_cons_cons, ih (List.cons_ne_nil b l), List.intercalate_cons_cons]
      simp

/-- One step of a check that finds no fault: the count at the first tag comes first, and the
rest is counted from the stack after that tag, where the check again finds no fault. An opening
tag leaves something open; at any other tag the count is the size of the stack after it. -/
theorem openCounts_cons_of_faultsFrom_eq_nil {stack : List (String × Nat)} {t : Tag}
    {ts : List Tag} (h : faultsFrom stack (t :: ts) = []) :
    ∃ n stack', openCounts stack (t :: ts) = n :: openCounts stack' ts ∧
      faultsFrom stack' ts = [] ∧ (t.kind = .opening → stack' ≠ []) ∧
      (t.kind ≠ .opening → n = stack'.length) := by
  simp only [faultsFrom] at h
  simp only [openCounts]
  cases hk : t.kind with
  | opening =>
    simp only [hk] at h ⊢
    exact ⟨_, _, rfl, h, fun _ => List.cons_ne_nil _ _, fun hne => absurd rfl hne⟩
  | closing =>
    simp only [hk] at h ⊢
    cases stack with
    | nil => simp at h
    | cons entry rest =>
      obtain ⟨top, offset⟩ := entry
      by_cases htop : top = t.name
      · simp only [htop, if_true] at h
        exact ⟨_, _, rfl, h, fun hk' => by simp at hk', fun _ => rfl⟩
      · simp [htop] at h
  | selfClosing | comment | declaration =>
    simp only [hk] at h ⊢
    exact ⟨_, _, rfl, h, fun hk' => by simp at hk', fun _ => rfl⟩

/-- **A check that finds no fault holds nothing open at the last tag**: an opening tag there
would stay unclosed, and after any other tag there the stack is empty. -/
theorem getLast?_openCounts_of_faultsFrom_eq_nil (stack : List (String × Nat)) (ts : List Tag)
    (t : Tag) (h : faultsFrom stack (ts ++ [t]) = []) :
    (openCounts stack (ts ++ [t])).getLast? = some 0 := by
  induction ts generalizing stack with
  | nil =>
    rw [List.nil_append] at h ⊢
    obtain ⟨n, stack', heq, h', hopen, hn⟩ := openCounts_cons_of_faultsFrom_eq_nil h
    have hnil : stack' = [] := by simpa [faultsFrom] using h'
    have hk : t.kind ≠ .opening := fun hk => hopen hk hnil
    rw [heq, hn hk, hnil]
    rfl
  | cons t₀ ts ih =>
    rw [List.cons_append] at h ⊢
    obtain ⟨n, stack', heq, h', -, -⟩ := openCounts_cons_of_faultsFrom_eq_nil h
    rw [heq, List.getLast?_cons, ih stack' h']
    rfl

/-- Clean markup with a character that is not a blank has a tag. -/
theorem scanFrom_ne_nil_of_clean {s : List Char} (hs : CleanMarkup s)
    (hsome : ∃ c ∈ s, isBlank c = false) (pos : Nat) : scanFrom s pos ≠ [] := by
  match hs with
  | .blanks w hw =>
    obtain ⟨c, hc, hb⟩ := hsome
    rw [hw c hc] at hb
    cases hb
  | .tag w raw rest t hw hraw _ =>
    rw [scanFrom_blank_clean hw hraw]
    exact List.cons_ne_nil _ _

/-- **On clean markup that checks clean, the last line is not indented**: the laid-out text ends
with the last tag, as written, at the start of a line. -/
theorem layout_clean_last_line {indent : Indent} {html : String}
    (hclean : CleanMarkup html.toList) (hvalid : (Report.check html).valid = true)
    (hsome : ∃ c ∈ html.toList, isBlank c = false)
    {out : List Char} (hout : layout indent html.toList = .ok out) :
    ∃ t, (scan html).getLast? = some t ∧
      (out = t.raw.toList ∨ ∃ pre, out = pre ++ '\n' :: t.raw.toList) := by
  cases hlast : (scan html).getLast? with
  | none =>
    exact absurd (List.getLast?_eq_none_iff.1 hlast) (scanFrom_ne_nil_of_clean hclean hsome 0)
  | some t =>
    refine ⟨t, rfl, ?_⟩
    obtain ⟨ts, hts⟩ := List.getLast?_eq_some_iff.1 hlast
    have hfaults : faultsFrom [] (ts ++ [t]) = [] := by
      rw [← hts]
      exact (Report.valid_check_iff html).1 hvalid
    -- the depth at the last tag is zero
    obtain ⟨ds, hds⟩ :=
      List.getLast?_eq_some_iff.1 (getLast?_openCounts_of_faultsFrom_eq_nil [] ts t hfaults)
    have hlen : ds.length = ts.length := by
      have h := length_openCounts [] (ts ++ [t])
      rw [hds] at h
      simpa using h
    have hzip : (openCounts [] (scan html)).zip ((scan html).map (·.raw.toList)) =
        ds.zip (ts.map (·.raw.toList)) ++ [(0, t.raw.toList)] := by
      rw [hts, hds, List.map_append, List.zip_append (by simpa using hlen)]
      rfl
    rw [eq_of_layout_eq_ok hout, placed_clean hclean, hzip, List.map_append, List.map_cons,
      List.map_nil]
    cases ts with
    | nil =>
      obtain rfl : ds = [] := List.eq_nil_of_length_eq_zero hlen
      left
      simp
    | cons t₀ ts =>
      obtain ⟨d₀, ds, rfl⟩ := List.exists_cons_of_length_eq_add_one hlen
      right
      rw [intercalate_concat _ _ (by simp)]
      exact ⟨_, by rw [Indent.text_zero, List.nil_append, List.append_assoc, List.singleton_append]⟩

theorem layout_clean_last_line_list :
    CleanMarkup "<ul>\n <li></li><br>\n</ul>".toList ∧
      (Report.check "<ul>\n <li></li><br>\n</ul>").valid = true ∧
      (∃ c ∈ "<ul>\n <li></li><br>\n</ul>".toList, isBlank c = false) ∧
      layout (.spaces 2) "<ul>\n <li></li><br>\n</ul>".toList =
        .ok "<ul>\n  <li>\n  </li>\n  <br>\n</ul>".toList ∧
      ∃ t, (scan "<ul>\n <li></li><br>\n</ul>").getLast? = some t ∧
        ("<ul>\n  <li>\n  </li>\n  <br>\n</ul>".toList = t.raw.toList ∨
          ∃ pre, "<ul>\n  <li>\n  </li>\n  <br>\n</ul>".toList = pre ++ '\n' :: t.raw.toList) :=
  have hvalid : (Report.check "<ul>\n <li></li><br>\n</ul>").valid = true := by decide +kernel
  have hsome : ∃ c ∈ "<ul>\n <li></li><br>\n</ul>".toList, isBlank c = false :=
    ⟨'<', by decide, by decide⟩
  have hout : layout (.spaces 2) "<ul>\n <li></li><br>\n</ul>".toList =
      .ok "<ul>\n  <li>\n  </li>\n  <br>\n</ul>".toList := by decide +kernel
  ⟨cleanMarkup_list, hvalid, hsome, hout, layout_clean_last_line cleanMarkup_list hvalid hsome hout⟩

/-- Text after a child's closing tag keeps a line from closing its level: this markup checks
clean, yet its last line is indented. -/
theorem layout_indents_last_line :
    (Report.check "<div><span>x</span> tail</div>").valid = true ∧
      layout (.spaces 2) "<div><span>x</span> tail</div>".toList =
        .ok "<div>\n  <span>x</span> tail</div>".toList := by
  constructor <;> decide +kernel

end MarkupTidy.Markup
