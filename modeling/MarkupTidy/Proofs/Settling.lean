import MarkupTidy.Proofs.Squeezing

/-!
# Proofs/Settling — the rounds of compaction end

When comments go, compaction passes over the text once and then again while a comment is left
(`settle`), since deleting can splice a new comment together. The rounds end because each one
shortens the text by seven characters or more:

* a round runs only on a text that holds a comment, `<!--`, any text, `-->`
  (`hasComment_iff_commentText`);
* deleting comments then takes out the first comment whole, and leaves the text before it as it
  is (`exists_dropComments_of_hasComment`), so it deletes seven characters at least;
* the passes over the blanks never lengthen a text (`length_tidy_le`), so a round shortens it by
  seven at least (`length_pass_add_seven_le`).

So a text of length `L` settles after at most `L / 7` rounds, each on a text that holds a comment,
and what it settles at holds none (`settle_rounds`, `compact_rounds`).
-/

namespace MarkupTidy.Markup

open MarkupTidy.Text

/-! ## One round -/

@[simp] theorem length_commentText (body : List Char) :
    (commentText body).length = body.length + 7 := by
  simp [commentText]

/-- A text holds a comment exactly when it has `<!--`, any text and `-->` in a row. -/
theorem hasComment_iff_commentText {s : List Char} :
    hasComment s = true ↔ ∃ body, commentText body <:+: s := by
  rw [← Bool.not_eq_false, hasComment_eq_false_iff, dropComments_eq_self_iff]
  simp

/-- **Deleting comments takes out the first comment whole**: a text that holds a comment is the
text before it, the comment and what follows, and deleting comments keeps the text before it and
goes on after it. -/
theorem exists_dropComments_of_hasComment {s : List Char} (h : hasComment s = true) :
    ∃ pre body post, s = pre ++ commentText body ++ post ∧
      dropComments s = pre ++ dropComments post := by
  fun_induction dropComments s with
  | case1 body after hafter _ =>
    -- the text opens with a comment that the first `-->` closes
    obtain ⟨inner, rfl⟩ := eq_of_afterCommentEnd hafter
    exact ⟨[], inner, after, by simp [commentText], rfl⟩
  | case2 body hnone =>
    -- an opening `<!--` that nothing closes leaves the text as it is: no comment
    have hnone' := hasComment_eq_false_iff.2 (dropComments_open_of_none hnone)
    rw [hnone'] at h
    cases h
  | case3 => simp [hasComment] at h
  | case4 c rest hnot ih =>
    have hcons := dropComments_cons_of_not_open hnot
    have hrest : hasComment rest = true := by
      simpa [hasComment, hcons] using h
    obtain ⟨pre, body, post, rfl, hdrop⟩ := ih hrest
    exact ⟨c :: pre, body, post, rfl, by rw [hdrop]; rfl⟩

/-- A text that holds a comment loses seven characters or more when comments are deleted. -/
theorem length_dropComments_add_seven_le {s : List Char} (h : hasComment s = true) :
    (dropComments s).length + 7 ≤ s.length := by
  obtain ⟨pre, body, post, rfl, hdrop⟩ := exists_dropComments_of_hasComment h
  have hpost := length_dropComments_le post
  rw [hdrop]
  simp only [List.length_append, length_commentText]
  omega

/-- **A round on a text that holds a comment shortens it by seven characters or more**: the
comment goes, and the passes over the blanks lengthen nothing. -/
theorem length_pass_add_seven_le {s : List Char} (h : hasComment s = true) :
    (pass true s).length + 7 ≤ s.length :=
  calc (pass true s).length + 7 ≤ (dropComments s).length + 7 :=
        Nat.add_le_add_right (length_tidy_le _) 7
    _ ≤ s.length := length_dropComments_add_seven_le h

/-! ## The rounds -/

/-- **The rounds from a text**: `settle` runs `n` rounds, with `7 * n` at most the text's length,
each on a text that holds a comment, and stops at a text that holds none. -/
theorem settle_rounds (s : List Char) :
    ∃ n, 7 * n ≤ s.length ∧ settle s = (pass true)^[n] s ∧
      (∀ k < n, hasComment ((pass true)^[k] s) = true) ∧ hasComment (settle s) = false := by
  fun_induction settle s with
  | case1 s hc _ ih =>
    -- one round, then the rounds from the shorter text
    obtain ⟨n, hlen, hsettle, hrounds, hlast⟩ := ih
    have hshort := length_pass_add_seven_le hc
    have hround : tidy (dropComments s) = pass true s := rfl
    rw [hround] at hlen hsettle hrounds hlast ⊢
    refine ⟨n + 1, by omega, ?_, fun k hk => ?_, ?_⟩
    · rw [hsettle, Function.iterate_succ_apply]
    · cases k with
      | zero => exact hc
      | succ k => rw [Function.iterate_succ_apply]; exact hrounds k (by omega)
    · exact hlast
  | case2 s hc => exact ⟨0, by simp, rfl, by simp, by simpa using hc⟩

/-- **Compaction that deletes comments ends.** After the first pass over a text, the rounds run
`n` times, with `7 * n` at most the length of what the first pass left: each round runs on a text
that holds a comment, `<!--`, any text and `-->`, and shortens it by seven characters or more, and
the compact text is what the last round leaves, with no comment in it. -/
theorem compact_rounds (html : List Char) :
    ∃ n, 7 * n ≤ (pass true html).length ∧
      compact true html = (pass true)^[n] (pass true html) ∧
      (∀ k < n, (∃ body, commentText body <:+: (pass true)^[k] (pass true html)) ∧
        ((pass true)^[k + 1] (pass true html)).length + 7 ≤
          ((pass true)^[k] (pass true html)).length) ∧
      ∀ body, ¬ commentText body <:+: compact true html := by
  obtain ⟨n, hlen, hsettle, hrounds, hlast⟩ := settle_rounds (pass true html)
  have hcompact : compact true html = settle (pass true html) := rfl
  refine ⟨n, hlen, hcompact.trans hsettle, fun k hk => ⟨?_, ?_⟩, fun body hbody => ?_⟩
  · exact hasComment_iff_commentText.1 (hrounds k hk)
  · rw [Function.iterate_succ_apply']
    exact length_pass_add_seven_le (hrounds k hk)
  · rw [hcompact] at hbody
    have := hasComment_iff_commentText.2 ⟨body, hbody⟩
    rw [hlast] at this
    cases this

end MarkupTidy.Markup
