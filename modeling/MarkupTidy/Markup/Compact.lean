import MarkupTidy.Text.Blank

/-!
# Markup/Compact — the shortest layout of a text

One pass of compaction does four things in turn:

1. when comments go, every comment `<!--` … nearest `-->` is deleted, left to right (an unclosed
   `<!--` and all after it stay);
2. a run of blanks between a `>` and a `<` is deleted;
3. the text is trimmed;
4. every run of two or more blanks becomes one space (a single blank stays as it is).

Deleting can splice a new comment together (`<!-<!---->-->`), so when comments go the pass is
repeated while a comment is left. Each repeated pass deletes one comment at least, so the text
gets shorter every time and the repetition ends (`settle` is well founded on the length).
-/

namespace MarkupTidy.Markup

open MarkupTidy.Text

/-! ## Comments -/

/-- What follows the first `-->`, when there is one. -/
def afterCommentEnd : List Char → Option (List Char)
  | [] => none
  | '-' :: '-' :: '>' :: after => some after
  | _ :: rest => afterCommentEnd rest

theorem length_afterCommentEnd_lt {s r : List Char} (h : afterCommentEnd s = some r) :
    r.length < s.length := by
  fun_induction afterCommentEnd s with
  | case1 => simp at h
  | case2 after => simp at h; subst h; simp; omega
  | case3 _ rest _ ih => have := ih h; simp; omega

/-- The text with its comments deleted, left to right; the first `<!--` that nothing closes
stays, with all that follows it. -/
def dropComments (s : List Char) : List Char :=
  match s with
  | '<' :: '!' :: '-' :: '-' :: body =>
    match h : afterCommentEnd body with
    | some after =>
      have := length_afterCommentEnd_lt h
      dropComments after
    | none => s
  | [] => []
  | c :: rest => c :: dropComments rest
termination_by s.length

/-- Deleting comments never lengthens a text. -/
theorem length_dropComments_le (s : List Char) : (dropComments s).length ≤ s.length := by
  fun_induction dropComments s with
  | case1 body after h ih => have := length_afterCommentEnd_lt h; simp; omega
  | case2 => simp
  | case3 => simp
  | case4 c rest _ ih => simp; omega

/-- A text holds a comment exactly when deleting comments shortens it. -/
def hasComment (s : List Char) : Bool := (dropComments s).length < s.length

/-! ## Blanks -/

/-- The text with each run of blanks between a `>` and a `<` deleted. -/
def joinTags (s : List Char) : List Char :=
  match s with
  | '>' :: b :: more =>
    if isBlank b then
      match h : more.dropWhile isBlank with
      | '<' :: after =>
        have : after.length < more.length := by
          have := (List.dropWhile_sublist (l := more) isBlank).length_le
          rw [h] at this
          simp only [List.length_cons] at this
          omega
        '>' :: '<' :: joinTags after
      | _ => '>' :: joinTags (b :: more)
    else '>' :: joinTags (b :: more)
  | [] => []
  | c :: rest => c :: joinTags rest
termination_by s.length

/-- Joining tags never lengthens a text. -/
theorem length_joinTags_le (s : List Char) : (joinTags s).length ≤ s.length := by
  fun_induction joinTags s with
  | case1 b more _ after h _ ih =>
    have := (List.dropWhile_sublist (l := more) isBlank).length_le
    rw [h] at this
    simp at this ⊢
    omega
  | case2 => simp_all
  | case3 => simp_all
  | case4 => simp
  | case5 => simp_all

/-- The text with each run of two or more blanks replaced by one space. -/
def collapseRuns (s : List Char) : List Char :=
  match s with
  | a :: b :: more =>
    if isBlank a && isBlank b then
      have := (List.dropWhile_sublist (l := more) isBlank).length_le
      ' ' :: collapseRuns (more.dropWhile isBlank)
    else a :: collapseRuns (b :: more)
  | s => s
termination_by s.length

/-- Collapsing runs never lengthens a text. -/
theorem length_collapseRuns_le (s : List Char) : (collapseRuns s).length ≤ s.length := by
  fun_induction collapseRuns s with
  | case1 a b more _ ih =>
    have := (List.dropWhile_sublist (l := more) isBlank).length_le
    simp; omega
  | case2 => simp_all
  | case3 => simp

/-! ## Passes -/

/-- A pass over a text whose comments, if they go, are already deleted. -/
def tidy (s : List Char) : List Char := collapseRuns (trim (joinTags s))

theorem length_tidy_le (s : List Char) : (tidy s).length ≤ s.length :=
  calc (tidy s).length ≤ (trim (joinTags s)).length := length_collapseRuns_le _
    _ ≤ (joinTags s).length := length_trim_le _
    _ ≤ s.length := length_joinTags_le _

/-- One pass of compaction. -/
def pass (dropsComments : Bool) (s : List Char) : List Char :=
  tidy (if dropsComments then dropComments s else s)

/-- Passes that delete comments, repeated while a comment is left. -/
def settle (s : List Char) : List Char :=
  if h : hasComment s then
    have : (tidy (dropComments s)).length < s.length :=
      Nat.lt_of_le_of_lt (length_tidy_le _) (by simpa [hasComment] using h)
    settle (tidy (dropComments s))
  else s
termination_by s.length

/-- The compact text: one pass, and when comments go, passes until none is left. -/
def compact (dropsComments : Bool) (s : List Char) : List Char :=
  if dropsComments then settle (pass true s) else pass false s

end MarkupTidy.Markup
