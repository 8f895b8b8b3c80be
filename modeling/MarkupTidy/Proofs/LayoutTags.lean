import Mathlib.Data.List.Chain
import MarkupTidy.Proofs.Relayout
import MarkupTidy.Proofs.CompactionTags

/-!
# Proofs/LayoutTags — what laying out does to the tags

Laying out cuts a text at its seams and trims every segment before it gives back the `<` and `>`
that the seams took. The scan is cut after every `>` (`Proofs.Cutting`), so the tags of the laid-out
text are read line by line (`tagShapes_of_layout_eq_ok`), and those of the text piece by piece, one
piece for each segment (`tagShapes_eq_pieces`). A line and its piece read the same tags when
trimming deletes no blank next to a seam: a `<` that a seam took is then followed by the same
character as before, and a `>` preceded by it.

* `layout_keeps_tags` — on a text whose seams are tight (`TightSeams`), laying out keeps the names
  and kinds of the tags, and so the issues the check reports;
* `layout_splits_tag` — a blank after the `<` of a seam is lost, and `<a>< b>` gains a tag.
-/

namespace MarkupTidy.Markup

open MarkupTidy.Text

/-! ## The shapes of the tags of a text -/

/-- The names and kinds of the tags of a text, in order. -/
def tagShapes (s : List Char) : List (String × Kind) := (scanFrom s 0).map Tag.shape

theorem tagShapes_append_gt (x y : List Char) :
    tagShapes (x ++ '>' :: y) = tagShapes (x ++ ['>']) ++ tagShapes y := by
  rw [tagShapes, scanFrom_append_gt, List.map_append, map_shape_scanFrom y _ 0]
  rfl

theorem tagShapes_blank_append {w : List Char} (hw : ∀ c ∈ w, isBlank c = true) (y : List Char) :
    tagShapes (w ++ y) = tagShapes y := by
  rw [tagShapes, scanFrom_append_of_lt_not_mem (lt_not_mem_of_blank hw), map_shape_scanFrom _ _ 0]
  rfl

theorem tagShapes_append_blank (z : List Char) {w : List Char} (hw : ∀ c ∈ w, isBlank c = true) :
    tagShapes (z ++ w) = tagShapes z := by
  rw [tagShapes, scanFrom_append_of_gt_not_mem z (gt_not_mem_of_blank hw)]
  rfl

/-- A `<` and a `>` with nothing between them, or either alone, make no tag. -/
theorem tagShapes_marks (first last : Bool) :
    tagShapes ((if first then [] else ['<']) ++ (if last then [] else ['>'])) = [] := by
  cases first <;> cases last <;> decide +kernel

/-! ## Pieces: the text, segment by segment -/

/-- The pieces of a text, one for each of its segments: the segment with the `<` and `>` that its
seams took given back, the first one after `lead`. -/
def pieces : List Char → List (List Char) → List (List Char)
  | _, [] => []
  | lead, seg :: rest => (lead ++ seg ++ (if rest.isEmpty then [] else ['>'])) :: pieces ['<'] rest

theorem pieces_prepend (lead : List Char) (c : Char) {segs : List (List Char)} (h : segs ≠ []) :
    pieces lead (segments.prepend c segs) = pieces (lead ++ [c]) segs := by
  obtain ⟨seg, rest, rfl⟩ := List.exists_cons_of_ne_nil h
  simp [pieces]

/-- **The tags of a text are those of its pieces**, read one after the other: the scan is cut after
the `>` of each seam, and the blanks of the seam are stepped over. -/
theorem tagShapes_eq_pieces (s : List Char) : ∀ lead,
    tagShapes (lead ++ s) = ((pieces lead (segments s)).map tagShapes).flatten := by
  fun_induction segments s with
  | case1 => intro lead; simp [pieces]
  | case2 rest after h _ ih =>
    intro lead
    have hrest : tagShapes rest = tagShapes ('<' :: after) :=
      calc tagShapes rest = tagShapes (rest.takeWhile isBlank ++ rest.dropWhile isBlank) := by
            rw [List.takeWhile_append_dropWhile]
        _ = tagShapes ('<' :: after) := by
            rw [h, tagShapes_blank_append fun c hc => List.mem_takeWhile_imp hc]
    have hne : (segments after).isEmpty = false := by simpa using segments_ne_nil after
    simp only [pieces, hne, List.append_nil, List.map_cons, List.flatten_cons]
    rw [tagShapes_append_gt, hrest, ← ih ['<']]
    rfl
  | case3 rest _ ih | case4 _ rest _ ih =>
    intro lead
    rw [pieces_prepend _ _ (segments_ne_nil rest), ← ih, List.append_assoc]
    rfl

/-! ## Lines: the laid-out text, line by line -/

/-- **The tags of lines indented and joined with line feeds are those of the lines**, read one after
the other, when every line but the last ends with a `>`: the scan is cut there, and indentation
and line feeds are blanks. -/
theorem tagShapes_intercalate (indent : Indent) : ∀ (ps : List (Nat × List Char)),
    (ps.map Prod.snd).IsChain (fun line _ => line.getLast? = some '>') →
    tagShapes (List.intercalate ['\n'] (ps.map fun p => indent.text p.1 ++ p.2)) =
      (ps.map fun p => tagShapes p.2).flatten
  | [], _ => by simp [tagShapes, scanFrom_nil]
  | [p], _ => by simp [tagShapes_blank_append fun c hc => isBlank_of_mem_text hc]
  | p :: q :: rest, h => by
    rw [List.map_cons, List.map_cons, List.isChain_cons_cons] at h
    obtain ⟨line, hline⟩ := List.getLast?_eq_some_iff.1 h.1
    have hnl : ∀ c ∈ ['\n'], isBlank c = true := by
      simp only [List.mem_singleton, forall_eq]
      decide
    rw [List.map_cons, List.map_cons, List.intercalate_cons_cons, hline]
    calc tagShapes (indent.text p.1 ++ (line ++ ['>']) ++ ['\n'] ++
            List.intercalate ['\n'] ((q :: rest).map fun p => indent.text p.1 ++ p.2))
        = tagShapes ((indent.text p.1 ++ line) ++ '>' :: (['\n'] ++
            List.intercalate ['\n'] ((q :: rest).map fun p => indent.text p.1 ++ p.2))) := by
          simp only [List.append_assoc, List.cons_append, List.nil_append]
      _ = tagShapes (line ++ ['>']) ++
            ((q :: rest).map fun p => tagShapes p.2).flatten := by
          rw [tagShapes_append_gt, List.append_assoc,
            tagShapes_blank_append fun c hc => isBlank_of_mem_text hc, tagShapes_blank_append hnl,
            tagShapes_intercalate indent (q :: rest) h.2]
      _ = ((p :: q :: rest).map fun p => tagShapes p.2).flatten := by
          simp only [List.map_cons, List.flatten_cons, hline]

/-- Every line of a layout but the last ends with the `>` of the seam after it. -/
theorem isChain_lineTexts (first : Bool) (segs : List (List Char)) :
    (lineTexts first segs).IsChain (fun line _ => line.getLast? = some '>') := by
  induction segs generalizing first with
  | nil => exact List.isChain_nil
  | cons seg rest ih =>
    simp only [lineTexts]
    split
    · exact ih false
    · refine (ih false).cons fun next hnext => ?_
      -- a line follows, so a segment follows, and this line got the `>` of the seam between
      have hrest : rest ≠ [] := by
        rintro rfl
        simp [lineTexts] at hnext
      simp [hrest]

/-- **The tags of a laid-out text are those of its lines**, read one after the other. -/
theorem tagShapes_of_layout_eq_ok {indent : Indent} {s out : List Char}
    (h : layout indent s = .ok out) :
    tagShapes out = ((lineTexts true (segments s)).map tagShapes).flatten := by
  have hlines : (placed s).map Prod.snd = lineTexts true (segments s) := by
    rw [placed, placedFrom_eq_levels, map_snd_levels]
  rw [eq_of_layout_eq_ok h, tagShapes_intercalate indent _ (hlines ▸ isChain_lineTexts _ _),
    ← hlines, List.map_map]
  rfl

/-! ## Trimming a segment -/

/-- Trimming the first piece steps over its leading blanks, which the scan steps over too; another
piece keeps its head when that is no blank. -/
theorem tagShapes_dropWhile_piece {first : Bool} {seg : List Char}
    (hhead : first = false → ∀ c ∈ seg.head?, isBlank c = false) (gt : List Char) :
    tagShapes ((if first then [] else ['<']) ++ seg ++ gt) =
      tagShapes ((if first then [] else ['<']) ++ seg.dropWhile isBlank ++ gt) := by
  cases first with
  | true =>
    simp only [if_true, List.nil_append]
    conv_lhs => rw [← List.takeWhile_append_dropWhile (p := isBlank) (l := seg), List.append_assoc]
    exact tagShapes_blank_append (fun c hc => List.mem_takeWhile_imp hc) _
  | false =>
    cases seg with
    | nil => rfl
    | cons c rest =>
      rw [List.dropWhile_cons_of_neg (by simpa using hhead rfl c rfl)]

/-- Trimming the last piece cuts off its trailing blanks, which come after every `>`; another piece
keeps its last character when that is no blank. -/
theorem tagShapes_rdropWhile_piece {last : Bool} {seg : List Char}
    (hlast : last = false → ∀ c ∈ seg.getLast?, isBlank c = false) (lead : List Char) :
    tagShapes (lead ++ seg ++ (if last then [] else ['>'])) =
      tagShapes (lead ++ seg.rdropWhile isBlank ++ (if last then [] else ['>'])) := by
  cases last with
  | true =>
    simp only [if_true, List.append_nil]
    conv_lhs => rw [← List.rdropWhile_append_rtakeWhile (p := isBlank) (l := seg), ← List.append_assoc]
    exact tagShapes_append_blank _ fun c hc => List.mem_rtakeWhile_imp hc
  | false =>
    have hkeep : seg.rdropWhile isBlank = seg := by
      rw [List.rdropWhile_eq_self_iff]
      intro hne
      simpa using hlast rfl _ (List.getLast_mem_getLast? hne)
    rw [hkeep]

/-- **Trimming a segment keeps the tags of its piece when it deletes no blank next to a seam.** -/
theorem tagShapes_trim_piece {first last : Bool} {seg : List Char}
    (hhead : first = false → ∀ c ∈ seg.head?, isBlank c = false)
    (hlast : last = false → ∀ c ∈ seg.getLast?, isBlank c = false) :
    tagShapes ((if first then [] else ['<']) ++ seg ++ (if last then [] else ['>'])) =
      tagShapes ((if first then [] else ['<']) ++ trim seg ++ (if last then [] else ['>'])) := by
  rw [tagShapes_dropWhile_piece hhead, trim_eq_rdropWhile,
    tagShapes_rdropWhile_piece fun h => by rw [getLast?_dropWhile (hlast h)]; exact hlast h]

/-! ## Tight seams -/

/-- Two neighbouring segments meet tightly when no blank stands next to the seam between them: the
first does not end with a blank, and the second does not start with one. -/
def MeetTightly (seg seg' : List Char) : Prop :=
  (∀ c ∈ seg.getLast?, isBlank c = false) ∧ ∀ c ∈ seg'.head?, isBlank c = false

/-- A text whose seams are tight: no blank stands just before the `>` of a seam, or just after its
`<`. -/
def TightSeams (s : List Char) : Prop := (segments s).IsChain MeetTightly

instance : DecidableRel MeetTightly := fun seg seg' =>
  decidable_of_iff ((seg.getLast?.all fun c => !isBlank c) = true ∧
      (seg'.head?.all fun c => !isBlank c) = true) <| by
    simp [MeetTightly, Option.all_eq_true]

instance (s : List Char) : Decidable (TightSeams s) :=
  inferInstanceAs (Decidable ((segments s).IsChain MeetTightly))

/-- Between tight seams, each line reads the tags of its piece, and a blank segment, which makes
no line, has a piece with no tags. -/
theorem flatten_tagShapes_pieces (first : Bool) (segs : List (List Char))
    (hchain : segs.IsChain MeetTightly)
    (hhead : first = false → ∀ seg ∈ segs.head?, ∀ c ∈ seg.head?, isBlank c = false) :
    ((pieces (if first then [] else ['<']) segs).map tagShapes).flatten =
      ((lineTexts first segs).map tagShapes).flatten := by
  induction segs generalizing first with
  | nil => rfl
  | cons seg rest ih =>
    obtain ⟨hnext, hrest⟩ := List.isChain_cons.1 hchain
    have hseg := @tagShapes_trim_piece first rest.isEmpty seg (fun h => hhead h seg rfl) fun h => by
        obtain ⟨seg', more, rfl⟩ := List.exists_cons_of_ne_nil (by simpa using h)
        exact (hnext seg' rfl).1
    have htail : ((pieces ['<'] rest).map tagShapes).flatten =
        ((lineTexts false rest).map tagShapes).flatten :=
      ih false hrest fun _ seg' hseg' => (hnext seg' hseg').2
    have hlead : pieces (if first then [] else ['<']) (seg :: rest) =
        ((if first then [] else ['<']) ++ seg ++ (if rest.isEmpty then [] else ['>'])) ::
          pieces ['<'] rest := rfl
    rw [hlead, List.map_cons, List.flatten_cons, hseg, htail]
    simp only [lineTexts]
    by_cases hblank : (trim seg).isEmpty = true
    · rw [if_pos hblank, List.isEmpty_iff.1 hblank, List.append_nil, tagShapes_marks,
        List.nil_append]
    · rw [if_neg hblank, List.map_cons, List.flatten_cons]
      cases first <;> rfl

/-- **Laying out keeps the tags of a text whose seams are tight.** The laid-out text has tags of the
same names and kinds, in the same order, so its check reports the same issues about the same tags,
but for where they stand. -/
theorem layout_keeps_tags {indent : Indent} {html : String} {out : List Char}
    (hout : layout indent html.toList = .ok out) (htight : TightSeams html.toList) :
    (scan (String.ofList out)).map Tag.shape = (scan html).map Tag.shape ∧
      (Report.check (String.ofList out)).issues.map
          (fun i => (i.code, i.problem.tag, i.expected)) =
        (Report.check html).issues.map (fun i => (i.code, i.problem.tag, i.expected)) := by
  have hshape : (scan (String.ofList out)).map Tag.shape = (scan html).map Tag.shape := by
    show tagShapes (String.ofList out).toList = tagShapes html.toList
    rw [String.toList_ofList, tagShapes_of_layout_eq_ok hout,
      ← flatten_tagShapes_pieces true _ htight nofun, ← tagShapes_eq_pieces]
    rfl
  exact ⟨hshape, summaries_eq_of_shapes hshape⟩

/-- A list laid out with tight seams keeps its tags. -/
theorem layout_keeps_tags_list :
    layout (.spaces 2) "<ul> <li>a</li><li><br></li>\n</ul>".toList =
        .ok "<ul>\n  <li>a</li>\n  <li>\n    <br>\n  </li>\n</ul>".toList ∧
      TightSeams "<ul> <li>a</li><li><br></li>\n</ul>".toList ∧
      (scan "<ul>\n  <li>a</li>\n  <li>\n    <br>\n  </li>\n</ul>").map Tag.shape =
          (scan "<ul> <li>a</li><li><br></li>\n</ul>").map Tag.shape ∧
        (Report.check "<ul>\n  <li>a</li>\n  <li>\n    <br>\n  </li>\n</ul>").issues.map
            (fun i => (i.code, i.problem.tag, i.expected)) =
          (Report.check "<ul> <li>a</li><li><br></li>\n</ul>").issues.map
            (fun i => (i.code, i.problem.tag, i.expected)) := by
  have hout : layout (.spaces 2) "<ul> <li>a</li><li><br></li>\n</ul>".toList =
      .ok "<ul>\n  <li>a</li>\n  <li>\n    <br>\n  </li>\n</ul>".toList := by
    decide +kernel
  have htight : TightSeams "<ul> <li>a</li><li><br></li>\n</ul>".toList := by
    decide +kernel
  have hkeep := layout_keeps_tags hout htight
  rw [String.ofList_toList] at hkeep
  exact ⟨hout, htight, hkeep⟩

/-- **A blank after the `<` of a seam is lost.** `<a>< b>` has one tag, `a`, since a `<` before a
blank starts none; its layout starts the second line with `<b>`, a tag of its own, and the check
reports an issue more. -/
theorem layout_splits_tag :
    layout (.spaces 2) "<a>< b>".toList = .ok "<a>\n  <b>".toList ∧
      (Report.check "<a>\n  <b>").issues.map (fun i => (i.code, i.problem.tag, i.expected)) ≠
        (Report.check "<a>< b>").issues.map (fun i => (i.code, i.problem.tag, i.expected)) := by
  constructor <;> decide +kernel

end MarkupTidy.Markup
