import MarkupTidy.Markup.Layout
import MarkupTidy.Proofs.Seams

/-!
# Proofs/Relayout — laying out a laid-out text again

`layout` cuts a text at its seams, makes one trimmed line of each segment that is not blank, and
indents each line for its depth. Laying out its output again, with any indentation, gives exactly
what laying out the first text with that indentation gives (`layout_layout`); in particular
laying out is idempotent.

Two facts carry it. The depths are worked out from the line texts alone (`placedFrom_eq_levels`
splits placing into `lineTexts`, then `levels`). And the output is cut back into the same lines:
every line is a *core* (`IsCore`: a trimmed, seam-free text that is not empty) with its `<` and
`>` given back (`exists_cores`), and the line feed and indentation between two lines, with the
`>` and `<` around them, make a seam that the second cut finds again (`segments_join_cores`).
-/

namespace MarkupTidy.Markup

open MarkupTidy.Text

/-! ## Line texts, then depths -/

/-- The text of the line of each segment that is not blank; `first` tells whether the next
segment is the text's first, whose `<` no seam took. -/
def lineTexts : Bool → List (List Char) → List (List Char)
  | _, [] => []
  | first, seg :: rest =>
    let body := trim seg
    if body.isEmpty then lineTexts false rest
    else ((if first then body else '<' :: body) ++ (if rest.isEmpty then [] else ['>'])) ::
      lineTexts false rest

/-- Each line with its depth, the depth worked out from the line texts alone. -/
def levels : Nat → List (List Char) → List (Nat × List Char)
  | _, [] => []
  | depth, line :: rest =>
    let leading := read? line 0
    let here := if closesLevel line leading then depth - 1 else depth
    (here, line) :: levels (if opensLevel line leading then here + 1 else here) rest

/-- **Placing the lines of the segments works out their texts, then their depths.** -/
theorem placedFrom_eq_levels (depth : Nat) (first : Bool) (segs : List (List Char)) :
    placedFrom depth first segs = levels depth (lineTexts first segs) := by
  induction segs generalizing depth first with
  | nil => rfl
  | cons seg rest ih =>
    simp only [placedFrom, lineTexts]
    split <;> simp [levels, ih]

@[simp] theorem map_snd_levels (depth : Nat) (lines : List (List Char)) :
    (levels depth lines).map Prod.snd = lines := by
  induction lines generalizing depth with
  | nil => rfl
  | cons line rest ih => simp [levels, ih]

/-- The first line stands at depth zero: a depth of zero cannot drop. -/
theorem levels_zero_cons (line : List Char) (rest : List (List Char)) :
    levels 0 (line :: rest) =
      (0, line) :: levels (if opensLevel line (read? line 0) then 1 else 0) rest := by
  simp [levels]

/-! ## Cores -/

/-- What a line keeps of its segment: a trimmed text that is not empty and holds no seam. -/
structure IsCore (c : List Char) : Prop where
  ne_nil : c ≠ []
  trimmed : Trimmed c
  seamFree : SeamFree c

theorem IsCore.lt_cons {c : List Char} (h : IsCore c) : IsCore ('<' :: c) :=
  ⟨List.cons_ne_nil _ _, h.trimmed.cons h.ne_nil (by decide), h.seamFree.lt_cons⟩

theorem IsCore.concat_gt {c : List Char} (h : IsCore c) : IsCore (c ++ ['>']) :=
  ⟨by simp, h.trimmed.concat h.ne_nil (by decide), h.seamFree.concat_gt⟩

/-- A seam-free segment that is not blank trims to a core. -/
theorem isCore_trim {seg : List Char} (hseg : SeamFree seg) (hne : trim seg ≠ []) :
    IsCore (trim seg) :=
  ⟨hne, trimmed_trim seg, hseg.of_isInfix (trim_isInfix seg)⟩

/-- A core is a line of its own, given back its `<` unless it is first, and its `>` unless it is
last. -/
theorem lineTexts_cons_of_isCore {c : List Char} (h : IsCore c) (first : Bool)
    (cs : List (List Char)) :
    lineTexts first (c :: cs) =
      ((if first then c else '<' :: c) ++ (if cs.isEmpty then [] else ['>'])) ::
        lineTexts false cs := by
  have htrim : trim c = c := trim_eq_self_iff.2 h.trimmed
  simp [lineTexts, htrim, h.ne_nil]

/-- A core read after the first segment is the core with its `<` read as the first one. -/
theorem lineTexts_false_cons {c : List Char} (h : IsCore c) (cs : List (List Char)) :
    lineTexts false (c :: cs) = lineTexts true (('<' :: c) :: cs) := by
  rw [lineTexts_cons_of_isCore h, lineTexts_cons_of_isCore h.lt_cons]
  simp

/-- Lines of cores read after the first segment are lines of cores read as the first ones. -/
theorem exists_cores_of_false {cs : List (List Char)} (hcs : ∀ c ∈ cs, IsCore c) (first : Bool) :
    ∃ cores, (∀ c ∈ cores, IsCore c) ∧ lineTexts false cs = lineTexts first cores := by
  cases first with
  | false => exact ⟨cs, hcs, rfl⟩
  | true =>
    cases cs with
    | nil => exact ⟨[], by simp, rfl⟩
    | cons c cs =>
      obtain ⟨hc, hcs⟩ := List.forall_mem_cons.1 hcs
      exact ⟨('<' :: c) :: cs, List.forall_mem_cons.2 ⟨hc.lt_cons, hcs⟩, lineTexts_false_cons hc cs⟩

/-- **The lines of seam-free segments are the lines of cores.** Blank segments drop out, and
when only blank segments follow the last line, the `>` it keeps goes into its core. -/
theorem exists_cores (first : Bool) (segs : List (List Char))
    (hsegs : ∀ seg ∈ segs, SeamFree seg) :
    ∃ cores, (∀ c ∈ cores, IsCore c) ∧ lineTexts first segs = lineTexts first cores := by
  induction segs generalizing first with
  | nil => exact ⟨[], by simp, rfl⟩
  | cons seg rest ih =>
    obtain ⟨hseg, hsegs⟩ := List.forall_mem_cons.1 hsegs
    obtain ⟨cores, hcores, hrest⟩ := ih false hsegs
    by_cases hblank : trim seg = []
    · obtain ⟨cores', hcores', heq⟩ := exists_cores_of_false hcores first
      exact ⟨cores', hcores', by simp [lineTexts, hblank, hrest, heq]⟩
    · have hc := isCore_trim hseg hblank
      have hhead : lineTexts first (seg :: rest) =
          ((if first then trim seg else '<' :: trim seg) ++
            (if rest.isEmpty then [] else ['>'])) :: lineTexts false cores := by
        simp [lineTexts, hblank, hrest]
      rw [hhead]
      cases rest with
      | nil => exact ⟨[trim seg], by simpa using hc, by simp [lineTexts_cons_of_isCore hc, hrest]⟩
      | cons seg' rest' =>
        cases cores with
        | nil =>
          refine ⟨[trim seg ++ ['>']], by simpa using hc.concat_gt, ?_⟩
          rw [lineTexts_cons_of_isCore hc.concat_gt]
          cases first <;> simp
        | cons c cs =>
          refine ⟨trim seg :: c :: cs, List.forall_mem_cons.2 ⟨hc, hcores⟩, ?_⟩
          rw [lineTexts_cons_of_isCore hc]
          simp

/-! ## Cutting the laid-out text back into its lines -/

/-- Indentation is made of blanks. -/
theorem isBlank_of_mem_text {i : Indent} {d : Nat} {x : Char} (hx : x ∈ i.text d) :
    isBlank x = true := by
  cases i with
  | tab => rw [(List.mem_replicate.1 hx).2]; decide
  | spaces n => rw [(List.mem_replicate.1 hx).2]; decide

@[simp] theorem Indent.text_zero (i : Indent) : i.text 0 = [] := by
  cases i <;> simp [Indent.text]

/-- Joining lines: text put before the first line goes before the joined text. -/
theorem intercalate_append_head (sep a b : List Char) (rest : List (List Char)) :
    List.intercalate sep ((a ++ b) :: rest) = a ++ List.intercalate sep (b :: rest) := by
  induction a with
  | nil => rfl
  | cons x a ih => rw [List.cons_append, List.intercalate_cons_cons_left, ih, List.cons_append]

/-- The line feed and indentation between two lines, with the `>` before and the `<` after,
make a seam; so a core and the lines after it, indented at any depths, are cut back into the
core and the cores of those lines. -/
theorem segments_join_cores {c : List Char} (hc : IsCore c) {cs : List (List Char)}
    (hcs : ∀ x ∈ cs, IsCore x) (i : Indent) (ps : List (Nat × List Char))
    (hps : ps.map Prod.snd = lineTexts false cs) :
    segments (List.intercalate ['\n']
      ((c ++ (if cs.isEmpty then [] else ['>'])) :: ps.map fun p => i.text p.1 ++ p.2)) =
      c :: cs := by
  induction cs generalizing c ps with
  | nil =>
    obtain rfl : ps = [] := by simpa [lineTexts] using hps
    simpa using segments_of_seamFree hc.seamFree
  | cons c' cs ih =>
    obtain ⟨hc', hcs⟩ := List.forall_mem_cons.1 hcs
    rw [lineTexts_cons_of_isCore hc'] at hps
    obtain ⟨⟨d, line⟩, ps', rfl, hline, hps'⟩ := List.map_eq_cons_iff.1 hps
    simp only at hline
    subst hline
    have htail := ih hc' hcs ps' hps'
    have hblank : ∀ x ∈ '\n' :: i.text d, isBlank x = true :=
      List.forall_mem_cons.2 ⟨by decide, fun _ hx => isBlank_of_mem_text hx⟩
    have hjoin : List.intercalate ['\n'] ((c ++ (if (c' :: cs).isEmpty then [] else ['>'])) ::
        (i.text d ++ ('<' :: c' ++ (if cs.isEmpty then [] else ['>']))) ::
          ps'.map fun p => i.text p.1 ++ p.2) =
        c ++ '>' :: (('\n' :: i.text d) ++ '<' :: List.intercalate ['\n']
          ((c' ++ (if cs.isEmpty then [] else ['>'])) :: ps'.map fun p => i.text p.1 ++ p.2)) := by
      simp [intercalate_append_head]
    simp only [List.map_cons, Bool.false_eq_true, if_false]
    rw [hjoin, segments_append_seam hc.seamFree hblank, htail]

/-- **The lines of a laid-out text are the lines of the text**, with the same depths: placing is
blind to the indentation it put in. -/
theorem placed_render (i : Indent) (s : List Char) :
    placed (List.intercalate ['\n'] ((placed s).map fun p => i.text p.1 ++ p.2)) = placed s := by
  obtain ⟨cores, hcores, hlines⟩ :=
    exists_cores true (segments s) (fun _ h => seamFree_of_mem_segments _ h)
  have hplaced : placed s = levels 0 (lineTexts true cores) := by
    rw [placed, placedFrom_eq_levels, hlines]
  rw [hplaced, placed, placedFrom_eq_levels]
  congr 1
  cases cores with
  | nil => simp [levels, lineTexts, trim]
  | cons c cs =>
    obtain ⟨hc, hcs⟩ := List.forall_mem_cons.1 hcores
    rw [lineTexts_cons_of_isCore hc, levels_zero_cons, List.map_cons, Indent.text_zero,
      List.nil_append, if_pos rfl, segments_join_cores hc hcs i _ (map_snd_levels _ _),
      lineTexts_cons_of_isCore hc, if_pos rfl]

/-! ## Laying out twice -/

/-- What a layout gives depends on the text only through its placed lines. -/
theorem layout_congr {x y : List Char} (h : placed x = placed y) (i : Indent) :
    layout i x = layout i y := by
  simp only [layout, Indent.lines?, h]

/-- A layout that can be built is the placed lines, indented and joined with line feeds. -/
theorem eq_of_layout_eq_ok {i : Indent} {s out : List Char} (h : layout i s = .ok out) :
    out = List.intercalate ['\n'] ((placed s).map fun p => i.text p.1 ++ p.2) := by
  simp only [layout, Indent.lines?] at h
  cases hf : i.fits ((placed s).map Prod.fst) <;>
    simp [hf, Functor.map, Except.map] at h
  exact h.symm

/-- **Laying out a laid-out text again is exact**: whatever indentation the first layout used,
laying out its output with an indentation gives what laying out the first text with it gives,
the same text or the same failure to build its indentation. -/
theorem layout_layout (i j : Indent) (s out : List Char) (h : layout i s = .ok out) :
    layout j out = layout j s := by
  rw [eq_of_layout_eq_ok h]
  exact layout_congr (placed_render i s) j

theorem layout_layout_list :
    layout (.spaces 2) "<ul><li>a</li>\n <li><br></li></ul>".toList =
        .ok "<ul>\n  <li>a</li>\n  <li>\n    <br>\n  </li>\n</ul>".toList ∧
      layout .tab "<ul>\n  <li>a</li>\n  <li>\n    <br>\n  </li>\n</ul>".toList =
        layout .tab "<ul><li>a</li>\n <li><br></li></ul>".toList :=
  have h : layout (.spaces 2) "<ul><li>a</li>\n <li><br></li></ul>".toList =
      .ok "<ul>\n  <li>a</li>\n  <li>\n    <br>\n  </li>\n</ul>".toList := by
    decide +kernel
  ⟨h, layout_layout _ _ _ _ h⟩

end MarkupTidy.Markup
