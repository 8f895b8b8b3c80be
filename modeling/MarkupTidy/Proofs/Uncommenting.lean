import MarkupTidy.Proofs.Squeezing

/-!
# Proofs/Uncommenting — what compaction that deletes comments takes away

Compaction that deletes comments runs the comment pass and the blank passes in turn, while a
comment is left (`settle`). Deleting comments alone, round after round (`uncomment`), takes away
less: deleting the blanks between two tags can splice a `<!--` and a `-->` together that deleting
comments alone keeps apart, and compaction deletes the comment they make
(`ink_compact_ne_ink_uncomment`).

What compaction takes away is what deleting comments takes away when each round joins the tags
after it (`uncommentJoining`). The texts of the two differ in the lengths of blank runs and in
blanks at their ends, and no comment sees those (`Alike`, from `Proofs/Squeezing`):

* `hasComment_iff_ink` — a text holds a comment exactly when deleting comments takes ink away;
* `ink_settle` — passes from alike texts end with the same ink;
* `ink_compact_uncommentJoining` — the ink of the compact text is that of the text with its
  comments deleted round by round, tags joined after each round.
-/

namespace MarkupTidy.Markup

open MarkupTidy.Text

/-! ## Comments hold ink -/

theorem ink_commentText (body : List Char) :
    ink (commentText body) = ['<', '!', '-', '-'] ++ ink body ++ ['-', '-', '>'] := by
  rw [commentText, ink_append, ink_append]
  rfl

/-- Deleting comments keeps the rest of the text in order. -/
theorem dropComments_sublist (s : List Char) : (dropComments s).Sublist s := by
  fun_induction dropComments s with
  | case1 body after h _ ih =>
    obtain ⟨pre, rfl⟩ := eq_of_afterCommentEnd h
    exact ih.trans ((List.suffix_append _ after).sublist.cons _ |>.cons _ |>.cons _ |>.cons _)
  | case2 => exact List.Sublist.refl _
  | case3 => exact List.Sublist.refl _
  | case4 c rest _ ih => exact ih.cons_cons c

/-- **A text holds a comment exactly when deleting comments takes ink away**: a deleted comment
takes its marks with it, and nothing else goes. -/
theorem hasComment_iff_ink (s : List Char) :
    hasComment s = true ↔ (ink (dropComments s)).length < (ink s).length := by
  rw [hasComment, decide_eq_true_iff]
  fun_induction dropComments s with
  | case1 body after h _ _ =>
    obtain ⟨pre, rfl⟩ := eq_of_afterCommentEnd h
    have hs : '<' :: '!' :: '-' :: '-' :: (pre ++ ['-', '-', '>'] ++ after) =
        commentText pre ++ after := by
      simp [commentText]
    have hlen := (dropComments_sublist after).length_le
    have hink : (ink (dropComments after)).length ≤ (ink after).length :=
      ((dropComments_sublist after).filter _).length_le
    have hmarks : 0 < (ink (commentText pre)).length := by simp [ink_commentText]
    have hchars : 0 < (commentText pre).length := by simp [commentText]
    rw [hs, List.length_append, ink_append, List.length_append]
    exact iff_of_true (by omega) (by omega)
  | case2 => exact iff_of_false (Nat.lt_irrefl _) (Nat.lt_irrefl _)
  | case3 => exact iff_of_false (Nat.lt_irrefl _) (Nat.lt_irrefl _)
  | case4 c rest _ ih =>
    rw [List.length_cons, List.length_cons, Nat.add_lt_add_iff_right, ih, ink_cons,
      ink_cons c rest, List.length_append, List.length_append, Nat.add_lt_add_iff_left]

/-- Alike texts hold a comment alike. -/
theorem Alike.hasComment {x y : List Char} (h : Alike x y) : hasComment x = hasComment y := by
  rw [Bool.eq_iff_iff, hasComment_iff_ink, hasComment_iff_ink, h.ink, h.dropComments.ink]

/-- Joining tags deletes blanks only. -/
theorem ink_joinTags (s : List Char) : ink (joinTags s) = ink s := by
  fun_induction joinTags s with
  | case1 b more hb after h _ ih =>
    have hblank : ink [b] = [] := ink_eq_nil_iff.2 (by simp [hb])
    rw [ink_gt_cons, ink_lt_cons, ih, ink_gt_cons, ink_cons, hblank, List.nil_append,
      ← ink_dropWhile_blank more, h, ink_lt_cons]
  | case2 b more _ _ ih => rw [ink_cons, ih, ← ink_cons]
  | case3 b more _ ih => rw [ink_cons, ih, ← ink_cons]
  | case4 => rfl
  | case5 c rest _ ih => rw [ink_cons, ih, ← ink_cons]

/-- Joining tags makes no comment. -/
theorem hasComment_joinTags {s : List Char} (h : hasComment s = false) :
    hasComment (joinTags s) = false := by
  rw [hasComment_eq_false_iff, dropComments_eq_self_iff]
  intro body hbody
  obtain ⟨body', hbody'⟩ := keepsMarks_joinTags.exists_commentText hbody
  exact dropComments_eq_self_iff.1 (hasComment_eq_false_iff.1 h) body' hbody'

/-! ## Deleting comments round by round -/

theorem length_dropComments_lt {s : List Char} (h : hasComment s = true) :
    (dropComments s).length < s.length := by
  simpa [hasComment] using h

/-- The text with its comments deleted, round after round while a comment is left. -/
def uncomment (s : List Char) : List Char :=
  if h : hasComment s then
    have : (dropComments s).length < s.length := length_dropComments_lt h
    uncomment (dropComments s)
  else s
termination_by s.length

/-- The text with its comments deleted and then the blanks between its tags, round after round
while a comment is left. -/
def uncommentJoining (s : List Char) : List Char :=
  if h : hasComment s then
    have : (joinTags (dropComments s)).length < s.length :=
      Nat.lt_of_le_of_lt (length_joinTags_le _) (length_dropComments_lt h)
    uncommentJoining (joinTags (dropComments s))
  else s
termination_by s.length

theorem uncommentJoining_of_hasComment {s : List Char} (h : hasComment s = true) :
    uncommentJoining s = uncommentJoining (joinTags (dropComments s)) := by
  rw [uncommentJoining, dif_pos h]

theorem uncommentJoining_of_hasComment_eq_false {s : List Char} (h : hasComment s = false) :
    uncommentJoining s = s := by
  rw [uncommentJoining, dif_neg (by simp [h])]

/-- **Passes from alike texts end with the same ink.** Compaction's rounds and the rounds of
deleting comments and joining tags go in step: one round takes alike texts to alike texts
(`alike_tidy`, `Alike.dropComments`, `Alike.joinTags`), and alike texts hold a comment alike, so
both stop at the same round, on texts with the same ink. -/
theorem ink_settle {x y : List Char} (h : Alike x y) :
    ink (settle x) = ink (uncommentJoining y) := by
  fun_induction settle x generalizing y with
  | case1 x hx _ ih =>
    have hy : hasComment y = true := h.hasComment ▸ hx
    rw [uncommentJoining_of_hasComment hy]
    exact ih ((alike_tidy _).trans h.dropComments.joinTags)
  | case2 x hx =>
    have hy : hasComment y = false := by simpa [h.hasComment] using hx
    rw [uncommentJoining_of_hasComment_eq_false hy]
    exact h.ink

/-- **Compaction that deletes comments takes away the blanks and the comments that deleting
comments round by round, joining tags after each round, takes away, and no other ink.** -/
theorem ink_compact_uncommentJoining (s : List Char) :
    ink (compact true s) = ink (uncommentJoining s) := by
  show ink (settle (tidy (dropComments s))) = _
  cases hs : hasComment s with
  | true =>
    rw [uncommentJoining_of_hasComment hs]
    exact ink_settle (alike_tidy _)
  | false =>
    -- one pass, which keeps the ink, and no comment is left after it
    rw [hasComment_eq_false_iff.1 hs, ink_settle (alike_tidy s),
      uncommentJoining_of_hasComment_eq_false (hasComment_joinTags hs),
      uncommentJoining_of_hasComment_eq_false hs, ink_joinTags]

/-- Deleting comments alone, round by round, keeps a comment that compaction deletes: deleting the
blank between the two comments splices `<!-` and `--->` into one. -/
theorem ink_compact_ne_ink_uncomment :
    ink (compact true "<!-<!<!---->----> <!<!---->---->--->".toList) ≠
      ink (uncomment "<!-<!<!---->----> <!<!---->---->--->".toList) := by
  decide +kernel

end MarkupTidy.Markup
