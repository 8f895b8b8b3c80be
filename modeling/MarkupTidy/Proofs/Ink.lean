import MarkupTidy.Proofs.Relayout

/-!
# Proofs/Ink — what laying out keeps of a text

The *ink* of a text is its characters that are not blank (`ink`). Cutting a text at its seams
loses only blanks and the `>` and `<` of each seam, so the ink of a text is the ink of its
segments with `><` between them (`ink_eq_intercalate`): each segment *framed* by the `<` before
it, unless it is the first, and the `>` after it, unless it is the last (`frame`,
`ink_eq_flatten_frame`).

Laying out makes a line of each segment that is not blank, gives it back the `<` and `>` the seams
took, and puts only blanks around it. So:

* `ink_layout` — the ink of a laid-out text is the framed ink of the segments that are not blank;
  it is the ink of the text exactly when there is one segment or none is blank, and otherwise
  what goes is the `<` before and the `>` after each blank segment.
-/

namespace MarkupTidy.Markup

open MarkupTidy.Text

/-! ## Ink -/

/-- The ink of a text: its characters that are not blank, in order. -/
def ink (s : List Char) : List Char := s.filter fun c => !isBlank c

@[simp] theorem ink_nil : ink [] = [] := rfl

@[simp] theorem ink_append (x y : List Char) : ink (x ++ y) = ink x ++ ink y :=
  List.filter_append ..

theorem ink_cons (c : Char) (s : List Char) : ink (c :: s) = ink [c] ++ ink s := by
  rw [← ink_append, List.singleton_append]

theorem ink_cons_of_not_blank {c : Char} (hc : isBlank c = false) (s : List Char) :
    ink (c :: s) = c :: ink s :=
  List.filter_cons_of_pos (by simp [hc])

/-- The marks of tags are ink. -/
@[simp] theorem ink_lt_cons (s : List Char) : ink ('<' :: s) = '<' :: ink s :=
  ink_cons_of_not_blank (by decide) s

@[simp] theorem ink_gt_cons (s : List Char) : ink ('>' :: s) = '>' :: ink s :=
  ink_cons_of_not_blank (by decide) s

theorem ink_eq_nil_iff {s : List Char} : ink s = [] ↔ ∀ c ∈ s, isBlank c = true := by
  simp [ink, List.filter_eq_nil_iff]

/-- Blanks cut off the front of a text carry no ink. -/
theorem ink_dropWhile_blank (s : List Char) : ink (s.dropWhile isBlank) = ink s := by
  conv_rhs => rw [← List.takeWhile_append_dropWhile (p := isBlank) (l := s)]
  rw [ink_append, ink_eq_nil_iff.2 fun c hc => List.mem_takeWhile_imp hc, List.nil_append]

theorem ink_reverse (s : List Char) : ink s.reverse = (ink s).reverse :=
  List.filter_reverse ..

@[simp] theorem ink_trim (s : List Char) : ink (trim s) = ink s := by
  rw [trim_eq_rdropWhile, List.rdropWhile, ink_reverse, ink_dropWhile_blank, ink_reverse,
    List.reverse_reverse, ink_dropWhile_blank]

/-- A text trims to nothing exactly when it has no ink. -/
theorem trim_eq_nil_iff {s : List Char} : trim s = [] ↔ ink s = [] := by
  refine ⟨fun h => by rw [← ink_trim, h, ink_nil], fun h => ?_⟩
  rw [trim_eq_rdropWhile, List.dropWhile_eq_nil_iff.2 (fun c hc => ink_eq_nil_iff.1 h c hc)]
  rfl

/-- Indentation and line feeds carry no ink: the ink of lines joined by line feeds is the ink of
the lines, one after another. -/
theorem ink_intercalate_newline (ls : List (List Char)) :
    ink (List.intercalate ['\n'] ls) = (ls.map ink).flatten := by
  induction ls with
  | nil => rfl
  | cons x rest ih =>
    cases rest with
    | nil => simp
    | cons y rest =>
      rw [List.intercalate_cons_cons, ink_append, ink_append, ih]
      simp [ink, isBlank]

/-! ## Segments and their frames -/

/-- **The ink of a text is the ink of its segments, with `><` between them**: a seam is a `>`,
blanks, and a `<`. -/
theorem ink_eq_intercalate (s : List Char) :
    ink s = List.intercalate ['>', '<'] ((segments s).map ink) := by
  fun_induction segments s with
  | case1 => rfl
  | case2 rest after h _ ih =>
    obtain ⟨first, more, hs, -⟩ := exists_segments_eq_cons after
    have hrest : ink rest = '<' :: ink after := by
      rw [← ink_dropWhile_blank, h, ink_lt_cons]
    rw [ink_gt_cons, hrest, ih, hs]
    simp [List.intercalate_cons_cons]
  | case3 rest _ ih | case4 _ rest _ ih =>
    obtain ⟨first, more, hs, -⟩ := exists_segments_eq_cons rest
    rw [hs, segments_prepend_cons, ink_cons, ih, hs, List.map_cons, List.map_cons,
      ← intercalate_append_head, ← ink_cons]

/-- A segment with the seam's marks around it given back: the `<` before it unless it is the first
of `n` segments, and the `>` after it unless it is the last. -/
def frame (n j : Nat) (seg : List Char) : List Char :=
  (if j = 0 then [] else ['<']) ++ seg ++ (if j + 1 < n then ['>'] else [])

/-- Pieces joined with `><` are the pieces framed, from the `k`-th of `k + l.length` on; a frame
after the first starts with its `<`. -/
theorem flatten_frame (g : List Char → List Char) (k : Nat) :
    ∀ l : List (List Char), l ≠ [] →
      (l.mapIdx fun j x => frame (k + l.length) (k + j) (g x)).flatten =
        (if k = 0 then [] else ['<']) ++ List.intercalate ['>', '<'] (l.map g)
  | [], h => absurd rfl h
  | [x], _ => by simp [frame]
  | x :: y :: rest, _ => by
    have ih := flatten_frame g (k + 1) (y :: rest) (List.cons_ne_nil _ _)
    -- the frames after the first are those of the rest, counted from `k + 1`
    have htail : ((y :: rest).mapIdx fun j z =>
          frame (k + (x :: y :: rest).length) (k + (j + 1)) (g z)) =
        ((y :: rest).mapIdx fun j z => frame (k + 1 + (y :: rest).length) (k + 1 + j) (g z)) := by
      congr 1
      funext j z
      simp only [List.length_cons]
      congr 1 <;> omega
    rw [List.mapIdx_cons, List.flatten_cons, htail, ih]
    simp [frame]

/-- **The ink of a text is its segments' ink, each framed.** -/
theorem ink_eq_flatten_frame (s : List Char) :
    ink s = ((segments s).mapIdx fun j seg => frame (segments s).length j (ink seg)).flatten := by
  have h := flatten_frame ink 0 (segments s) (segments_ne_nil s)
  simp only [Nat.zero_add, if_pos] at h
  rw [h, List.nil_append, ink_eq_intercalate]

/-! ## Ink of the layout -/

/-- A laid-out text has the ink of its line texts. -/
theorem ink_layout_eq_lineTexts {i : Indent} {s out : List Char} (h : layout i s = .ok out) :
    ink out = ((lineTexts true (segments s)).map ink).flatten := by
  rw [eq_of_layout_eq_ok h, ink_intercalate_newline, placed, placedFrom_eq_levels, List.map_map]
  have hline : ∀ p : Nat × List Char, ink (i.text p.1 ++ p.2) = ink p.2 := fun p => by
    rw [ink_append, ink_eq_nil_iff.2 fun _ hc => isBlank_of_mem_text hc, List.nil_append]
  have hcomp : (ink ∘ fun p : Nat × List Char => i.text p.1 ++ p.2) = ink ∘ Prod.snd :=
    funext hline
  rw [hcomp, ← List.map_map, map_snd_levels]

/-- The line texts of the segments from the `k`-th of `k + segs.length` on have the framed ink of
the segments that are not blank. -/
theorem flatten_ink_lineTexts (k : Nat) : ∀ segs : List (List Char),
    ((lineTexts (k == 0) segs).map ink).flatten =
      (segs.mapIdx fun j seg =>
        if ink seg = [] then [] else frame (k + segs.length) (k + j) (ink seg)).flatten
  | [] => rfl
  | seg :: rest => by
    have ih := flatten_ink_lineTexts (k + 1) rest
    have htail : (rest.mapIdx fun j x => if ink x = [] then [] else
          frame (k + (seg :: rest).length) (k + (j + 1)) (ink x)) =
        (rest.mapIdx fun j x => if ink x = [] then [] else
          frame (k + 1 + rest.length) (k + 1 + j) (ink x)) := by
      congr 1
      funext j x
      simp only [List.length_cons]
      congr 2 <;> omega
    rw [List.mapIdx_cons, List.flatten_cons, htail, ← ih]
    have hfalse : (k + 1 == 0) = false := by simp
    -- a blank segment makes no line; any other makes one line, framed as the segment
    by_cases hseg : ink seg = []
    · have hempty : (trim seg).isEmpty = true := by simp [trim_eq_nil_iff, hseg]
      simp [lineTexts, hempty, hseg, hfalse]
    · have hempty : (trim seg).isEmpty = false := by simpa [trim_eq_nil_iff] using hseg
      simp only [lineTexts, hempty, hseg, hfalse, if_false, Bool.false_eq_true, List.map_cons,
        List.flatten_cons]
      congr 1
      by_cases hk0 : k = 0 <;> cases rest <;> simp [frame, hk0]

/-- Dropping some of the pieces of a joined text keeps it exactly when every piece dropped is
empty. -/
theorem flatten_mapIdx_ite_eq_iff : ∀ (l : List (List Char)) (f : Nat → List Char → List Char),
    (l.mapIdx fun j x => if ink x = [] then [] else f j x).flatten.length ≤
        (l.mapIdx f).flatten.length ∧
      ((l.mapIdx fun j x => if ink x = [] then [] else f j x).flatten = (l.mapIdx f).flatten ↔
        ∀ j x, l[j]? = some x → ink x = [] → f j x = [])
  | [], _ => by simp
  | x :: l, f => by
    obtain ⟨hle, hiff⟩ := flatten_mapIdx_ite_eq_iff l fun j => f (j + 1)
    simp only [List.mapIdx_cons, List.flatten_cons, List.length_append]
    have hall : (∀ j y, (x :: l)[j]? = some y → ink y = [] → f j y = []) ↔
        (ink x = [] → f 0 x = []) ∧ ∀ j y, l[j]? = some y → ink y = [] → f (j + 1) y = [] :=
      ⟨fun h => ⟨h 0 x rfl, fun j y hy => h (j + 1) y hy⟩,
        fun h j y hy => by cases j <;> simp_all⟩
    rw [hall]
    by_cases hx : ink x = []
    · rw [if_pos hx, List.nil_append]
      -- the dropped piece leaves the rest as long as the whole only if it is empty
      refine ⟨by simp only [List.length_nil]; omega, fun heq => ?_,
        fun h => by rw [h.1 hx, List.nil_append, hiff.2 h.2]⟩
      have h0 : f 0 x = [] := List.eq_nil_of_length_eq_zero (by
        have := congrArg List.length heq
        simp only [List.length_append] at this
        omega)
      rw [h0, List.nil_append] at heq
      exact ⟨fun _ => h0, hiff.1 heq⟩
    · rw [if_neg hx, List.append_cancel_left_eq, hiff]
      simp only [hx, false_implies, true_and, iff_self, and_true]
      omega

/-- **Laying out keeps the ink but for the frames of blank segments.** For a text cut into
segments `s₀ … sₙ₋₁`, the ink of the text is the framed ink of every segment; the ink of its
layout, whenever the indentation can be built, is that of the segments that are not blank. So
laying out keeps the ink exactly when there is one segment or no blank one; otherwise what goes
is the `<` before and the `>` after each blank segment. -/
theorem ink_layout {i : Indent} {s out : List Char} (h : layout i s = .ok out) :
    ink s = ((segments s).mapIdx fun j seg => frame (segments s).length j (ink seg)).flatten ∧
      ink out = ((segments s).mapIdx fun j seg =>
        if ink seg = [] then [] else frame (segments s).length j (ink seg)).flatten ∧
      (ink out = ink s ↔ (segments s).length = 1 ∨ ∀ seg ∈ segments s, ink seg ≠ []) := by
  have hout : ink out = ((segments s).mapIdx fun j seg =>
      if ink seg = [] then [] else frame (segments s).length j (ink seg)).flatten := by
    rw [ink_layout_eq_lineTexts h]
    simpa using flatten_ink_lineTexts 0 (segments s)
  refine ⟨ink_eq_flatten_frame s, hout, ?_⟩
  rw [hout, ink_eq_flatten_frame s, (flatten_mapIdx_ite_eq_iff _ _).2]
  have hpos : 0 < (segments s).length := List.length_pos_iff.2 (segments_ne_nil s)
  -- a frame is empty only when it frames the one segment of a text with no `<` or `>` to give
  -- back
  have hframe : ∀ j, frame (segments s).length j [] = [] ↔ j = 0 ∧ (segments s).length ≤ 1 :=
    fun j => by
      unfold frame
      by_cases hj : j = 0 <;> by_cases hn : j + 1 < (segments s).length <;> simp [hj, hn]
  constructor
  · intro hall
    by_cases hn : (segments s).length = 1
    · exact .inl hn
    · refine .inr fun seg hseg hblank => hn ?_
      obtain ⟨j, hj, hget⟩ := List.getElem_of_mem hseg
      have := (hframe j).1 (hblank ▸ hall j seg (List.getElem?_eq_some_iff.2 ⟨hj, hget⟩) hblank)
      omega
  · rintro (hn | hnone) j x hx hblank
    · rw [hblank, hframe]
      have := (List.getElem?_eq_some_iff.1 hx).1
      omega
    · exact absurd hblank (hnone x (List.mem_of_getElem? hx))

theorem ink_layout_blank_segment :
    layout (.spaces 2) "<a>< ><b>".toList = .ok "<a>\n  <b>".toList ∧
      (ink "<a>< ><b>".toList =
          ((segments "<a>< ><b>".toList).mapIdx fun j seg =>
            frame (segments "<a>< ><b>".toList).length j (ink seg)).flatten ∧
        ink "<a>\n  <b>".toList = ((segments "<a>< ><b>".toList).mapIdx fun j seg =>
          if ink seg = [] then [] else
            frame (segments "<a>< ><b>".toList).length j (ink seg)).flatten ∧
        (ink "<a>\n  <b>".toList = ink "<a>< ><b>".toList ↔
          (segments "<a>< ><b>".toList).length = 1 ∨
            ∀ seg ∈ segments "<a>< ><b>".toList, ink seg ≠ [])) :=
  have h : layout (.spaces 2) "<a>< ><b>".toList = .ok "<a>\n  <b>".toList := by decide +kernel
  ⟨h, ink_layout h⟩

end MarkupTidy.Markup
