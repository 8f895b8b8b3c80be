import MarkupTidy.Markup.Segment
import MarkupTidy.Proofs.Trimming

/-!
# Proofs/Seams — texts without seams, and how segments cut them

A *seam* is a `>`, a run of blanks and a `<`; `segments` cuts a text at its seams. A text is
*seam-free* when no seam starts anywhere in it (`SeamFree`). The main statements:

* `seamFree_of_mem_segments` — every segment is seam-free;
* `segments_of_seamFree` — a seam-free text is one segment;
* `segments_append_seam` — a seam-free text, a seam, and the rest are cut right at that seam;
* `segments_eq_iff` — the segments of a text are its one cut into seam-free pieces: stitched back
  with a seam between each two they give the text, and any seam-free pieces that give the text so
  are its segments.
-/

namespace MarkupTidy.Markup

open MarkupTidy.Text

/-! ## Seams -/

/-- A seam starts at the head of a text: a `>`, then blanks, then a `<`. -/
def SeamAt : List Char → Prop
  | '>' :: rest => (rest.dropWhile isBlank).head? = some '<'
  | _ => False

theorem seamAt_cons_iff {c : Char} {rest : List Char} :
    SeamAt (c :: rest) ↔ c = '>' ∧ (rest.dropWhile isBlank).head? = some '<' := by
  unfold SeamAt
  split <;> simp_all

@[simp] theorem not_seamAt_nil : ¬ SeamAt [] := nofun

/-- A text in which no seam starts. -/
def SeamFree (s : List Char) : Prop := ∀ i, ¬ SeamAt (s.drop i)

@[simp] theorem seamFree_nil : SeamFree [] := fun i => by simp

theorem seamFree_cons_iff {c : Char} {s : List Char} :
    SeamFree (c :: s) ↔ ¬ SeamAt (c :: s) ∧ SeamFree s :=
  ⟨fun h => ⟨h 0, fun i => h (i + 1)⟩, fun ⟨h0, h⟩ i =>
    match i with
    | 0 => h0
    | i + 1 => h i⟩

/-- A `<` starts no seam, so putting one in front keeps a text seam-free. -/
theorem SeamFree.lt_cons {s : List Char} (h : SeamFree s) : SeamFree ('<' :: s) :=
  seamFree_cons_iff.2 ⟨by simp [seamAt_cons_iff], h⟩

/-- What a seam sees after a `>` is decided by the first character that is no blank: text after
that character does not matter. -/
theorem head?_dropWhile_append {x t : List Char} {a : Char}
    (h : (x.dropWhile isBlank).head? = some a) :
    ((x ++ t).dropWhile isBlank).head? = some a := by
  rw [List.dropWhile_append]
  split
  · rename_i hx
    simp [List.isEmpty_iff.1 hx] at h
  · cases hd : x.dropWhile isBlank <;> simp_all

/-- A text that starts no seam still starts none when it is followed by a character that is
neither a blank nor a `<`. -/
theorem not_seamAt_append {x : List Char} (hx : x ≠ []) (h : ¬ SeamAt x) {d : Char}
    (hd : isBlank d = false) (hdl : d ≠ '<') (z : List Char) : ¬ SeamAt (x ++ d :: z) := by
  obtain ⟨c, r, rfl⟩ := List.exists_cons_of_ne_nil hx
  rw [seamAt_cons_iff] at h
  rw [List.cons_append, seamAt_cons_iff, List.dropWhile_append]
  rintro ⟨rfl, hseam⟩
  split at hseam
  · simp [hd, hdl] at hseam
  · exact h ⟨rfl, by cases hr : r.dropWhile isBlank <;> simp_all⟩

/-- **A seam-free text stays seam-free when a seam-free text that starts with a character which is
neither a blank nor a `<` follows it.** -/
theorem SeamFree.append_cons {x : List Char} (hx : SeamFree x) {d : Char} (hd : isBlank d = false)
    (hdl : d ≠ '<') {z : List Char} (hz : SeamFree (d :: z)) : SeamFree (x ++ d :: z) := by
  induction x with
  | nil => exact hz
  | cons c r ih =>
    obtain ⟨hc, hr⟩ := seamFree_cons_iff.1 hx
    exact seamFree_cons_iff.2 ⟨not_seamAt_append (by simp) hc hd hdl z, ih hr⟩

/-- A seam-free text with a `>` put after it is still seam-free. -/
theorem SeamFree.concat_gt {x : List Char} (hx : SeamFree x) : SeamFree (x ++ ['>']) :=
  hx.append_cons (by decide) (by decide) (seamFree_cons_iff.2 ⟨by simp [seamAt_cons_iff], by simp⟩)

/-- A seam stays a seam whatever follows it. -/
theorem SeamAt.append {z : List Char} (h : SeamAt z) (t : List Char) : SeamAt (z ++ t) := by
  cases z with
  | nil => exact absurd h not_seamAt_nil
  | cons c r =>
    obtain ⟨rfl, hr⟩ := seamAt_cons_iff.1 h
    exact seamAt_cons_iff.2 ⟨rfl, head?_dropWhile_append hr⟩

/-- A piece of a seam-free text is seam-free: a seam in the piece would be one in the text. -/
theorem SeamFree.of_isInfix {x y : List Char} (hy : SeamFree y) (hxy : x <:+: y) : SeamFree x := by
  obtain ⟨s, t, rfl⟩ := hxy
  intro i hi
  have hlen : i ≤ x.length := by
    by_contra hgt
    rw [List.drop_eq_nil_of_le (by omega)] at hi
    exact not_seamAt_nil hi
  apply hy (s.length + i)
  rw [List.append_assoc, List.drop_length_add_append, List.drop_append_of_le_length hlen]
  exact hi.append t

/-! ## How segments cut a text -/

@[simp] theorem segments_nil : segments [] = [[]] := by
  rw [segments]

@[simp] theorem segments_prepend_cons (c : Char) (first : List Char) (more : List (List Char)) :
    segments.prepend c (first :: more) = (c :: first) :: more := rfl

/-- A seam at the head is cut out, and what follows it starts a new segment. -/
theorem segments_of_seamAt {rest after : List Char} (h : rest.dropWhile isBlank = '<' :: after) :
    segments ('>' :: rest) = [] :: segments after := by
  rw [segments, if_pos rfl]
  split
  next after' heq => rw [h, List.cons.injEq] at heq; rw [heq.2]
  next hne => exact absurd h (hne after)

/-- A character that starts no seam joins the first segment of what follows it. -/
theorem segments_cons_of_not_seamAt {c : Char} {rest : List Char} (h : ¬ SeamAt (c :: rest)) :
    segments (c :: rest) = segments.prepend c (segments rest) := by
  rw [segments]
  split
  next hc =>
    split
    next after heq => exact absurd (seamAt_cons_iff.2 ⟨hc, by simp [heq]⟩) h
    next => rfl
  next => rfl

/-- The first segment of a text is a prefix of it. -/
theorem exists_segments_eq_cons (s : List Char) :
    ∃ first more, segments s = first :: more ∧ first <+: s := by
  fun_induction segments s with
  | case1 => exact ⟨[], [], rfl, List.nil_prefix⟩
  | case2 rest after _ _ _ => exact ⟨[], _, rfl, List.nil_prefix⟩
  | case3 rest _ ih | case4 _ rest _ ih =>
    obtain ⟨first, more, hs, hpre⟩ := ih
    exact ⟨_, more, by rw [hs, segments_prepend_cons], List.cons_prefix_cons.2 ⟨rfl, hpre⟩⟩

/-- **Every segment is seam-free**: a `>` kept inside a segment was looked at by the cut and was
not followed by blanks and a `<`, and the end of the segment does not change that. -/
theorem seamFree_of_mem_segments {s : List Char} : ∀ seg ∈ segments s, SeamFree seg := by
  fun_induction segments s with
  | case1 => simp
  | case2 rest after _ _ ih => exact List.forall_mem_cons.2 ⟨seamFree_nil, ih⟩
  | case3 rest hnot ih =>
    obtain ⟨first, more, hs, hpre⟩ := exists_segments_eq_cons rest
    obtain ⟨hfirst, hmore⟩ := List.forall_mem_cons.1 (hs ▸ ih)
    rw [hs, segments_prepend_cons]
    refine List.forall_mem_cons.2 ⟨seamFree_cons_iff.2 ⟨fun hseam => ?_, hfirst⟩, hmore⟩
    -- the `>` would start a seam inside the first segment, which runs on into the rest of the text
    obtain ⟨-, hlt⟩ := seamAt_cons_iff.1 hseam
    obtain ⟨t, rfl⟩ := hpre
    obtain ⟨after, hafter⟩ :=
      List.head?_eq_some_iff.1 (head?_dropWhile_append (t := t) hlt)
    exact hnot after hafter
  | case4 c rest hc ih =>
    obtain ⟨first, more, hs, -⟩ := exists_segments_eq_cons rest
    obtain ⟨hfirst, hmore⟩ := List.forall_mem_cons.1 (hs ▸ ih)
    rw [hs, segments_prepend_cons]
    exact List.forall_mem_cons.2 ⟨seamFree_cons_iff.2 ⟨by simp [seamAt_cons_iff, hc], hfirst⟩, hmore⟩

/-- **A seam-free text is a single segment.** -/
theorem segments_of_seamFree {x : List Char} (hx : SeamFree x) : segments x = [x] := by
  induction x with
  | nil => exact segments_nil
  | cons c r ih =>
    obtain ⟨hc, hr⟩ := seamFree_cons_iff.1 hx
    rw [segments_cons_of_not_seamAt hc, ih hr, segments_prepend_cons]

/-- **A seam-free text followed by a seam is cut right at that seam**, whatever comes after. -/
theorem segments_append_seam {x : List Char} (hx : SeamFree x) {w : List Char}
    (hw : ∀ c ∈ w, isBlank c = true) (y : List Char) :
    segments (x ++ '>' :: (w ++ '<' :: y)) = x :: segments y := by
  induction x with
  | nil =>
    refine segments_of_seamAt ?_
    rw [List.dropWhile_append_of_pos hw, List.dropWhile_cons_of_neg (by decide)]
  | cons c r ih =>
    obtain ⟨hc, hr⟩ := seamFree_cons_iff.1 hx
    have hnot : ¬ SeamAt (c :: (r ++ '>' :: (w ++ '<' :: y))) :=
      not_seamAt_append (x := c :: r) (by simp) hc (by decide) (by decide) _
    rw [List.cons_append, segments_cons_of_not_seamAt hnot, ih hr, segments_prepend_cons]

/-! ## Segments stitched back -/

/-- A text put together from a first piece and, for each further piece, the blanks of the seam in
front of it: each seam is a `>`, its blanks and a `<`. -/
def stitch (first : List Char) (rest : List (List Char × List Char)) : List Char :=
  first ++ (rest.map fun p => '>' :: (p.1 ++ '<' :: p.2)).flatten

theorem stitch_cons (first w seg : List Char) (rest : List (List Char × List Char)) :
    stitch first ((w, seg) :: rest) = first ++ '>' :: (w ++ '<' :: stitch seg rest) := by
  simp [stitch]

/-- **A text is its segments stitched back**, with the blanks that each seam held. -/
theorem exists_stitch_segments (s : List Char) :
    ∃ first rest, segments s = first :: rest.map Prod.snd ∧ s = stitch first rest ∧
      ∀ p ∈ rest, ∀ c ∈ p.1, isBlank c = true := by
  fun_induction segments s with
  | case1 => exact ⟨[], [], rfl, rfl, by simp⟩
  | case2 rest after h _ ih =>
    obtain ⟨first, more, hs, hstitch, hblank⟩ := ih
    refine ⟨[], (rest.takeWhile isBlank, first) :: more, by rw [hs]; rfl, ?_, ?_⟩
    · -- the seam's blanks are those the cut stepped over before the `<`
      rw [stitch_cons, ← hstitch, ← h, List.takeWhile_append_dropWhile, List.nil_append]
    · refine List.forall_mem_cons.2 ⟨fun c hc => ?_, hblank⟩
      exact List.mem_takeWhile_imp hc
  | case3 rest _ ih | case4 _ rest _ ih =>
    obtain ⟨first, more, hs, hstitch, hblank⟩ := ih
    exact ⟨_ :: first, more, by rw [hs, segments_prepend_cons], by rw [hstitch]; rfl, hblank⟩

/-- **Seam-free pieces stitched at seams are cut back into the same pieces.** -/
theorem segments_stitch {first : List Char} {rest : List (List Char × List Char)}
    (hblank : ∀ p ∈ rest, ∀ c ∈ p.1, isBlank c = true)
    (hfree : ∀ seg ∈ first :: rest.map Prod.snd, SeamFree seg) :
    segments (stitch first rest) = first :: rest.map Prod.snd := by
  induction rest generalizing first with
  | nil => simpa [stitch] using segments_of_seamFree (hfree first (by simp))
  | cons p rest ih =>
    obtain ⟨w, seg⟩ := p
    have hrest : ∀ seg' ∈ seg :: rest.map Prod.snd, SeamFree seg' :=
      fun seg' h => hfree seg' (List.mem_cons_of_mem _ (by simpa using h))
    rw [stitch_cons, segments_append_seam (hfree first (by simp)) (hblank (w, seg) (by simp)),
      ih (fun p hp => hblank p (List.mem_cons_of_mem _ hp)) hrest]
    rfl

/-- **The segments of a text are its one cut into seam-free pieces at seams.** There is at least
one segment, the text is its segments with a seam (a `>`, blanks and a `<`) between each two, and
no segment holds a seam; and pieces that give the text so, and hold no seam, are its segments.
Since the leftmost seam of such a text is the one after the first piece, this is the cut at the
leftmost seams, one after the other. -/
theorem segments_eq_iff {s : List Char} {segs : List (List Char)} :
    segments s = segs ↔ ∃ first rest, segs = first :: rest.map Prod.snd ∧ s = stitch first rest ∧
      (∀ p ∈ rest, ∀ c ∈ p.1, isBlank c = true) ∧ ∀ seg ∈ segs, SeamFree seg := by
  constructor
  · rintro rfl
    obtain ⟨first, rest, hs, hstitch, hblank⟩ := exists_stitch_segments s
    exact ⟨first, rest, hs, hstitch, hblank, seamFree_of_mem_segments⟩
  · rintro ⟨first, rest, rfl, rfl, hblank, hfree⟩
    exact segments_stitch hblank hfree

end MarkupTidy.Markup
