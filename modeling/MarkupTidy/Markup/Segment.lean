import MarkupTidy.Text.Blank

/-!
# Markup/Segment — cutting a text between adjacent tags

A *seam* is a `>`, a run of blanks, and a `<`. `segments` cuts a text at every seam, left to
right, and drops the seams: so every segment but the first has lost its leading `<` and every
segment but the last its trailing `>`. A `>` that is not followed by blanks and a `<` stays in
its segment. There is always at least one segment (`segments_ne_nil`).
-/

namespace MarkupTidy.Markup

open MarkupTidy.Text

/-- What follows the blanks and the `<` after a character is shorter than the text after it. -/
theorem length_lt_of_dropWhile_blank {rest after : List Char}
    (h : rest.dropWhile isBlank = '<' :: after) : after.length < rest.length + 1 := by
  have := (List.dropWhile_sublist (l := rest) isBlank).length_le
  rw [h] at this
  simp only [List.length_cons] at this
  omega

/-- The segments of a text: the pieces between its seams, left to right. -/
def segments (s : List Char) : List (List Char) :=
  match s with
  | [] => [[]]
  | c :: rest =>
    if c = '>' then
      match h : rest.dropWhile isBlank with
      | '<' :: after =>
        have : after.length < rest.length + 1 := length_lt_of_dropWhile_blank h
        [] :: segments after
      | _ => prepend c (segments rest)
    else prepend c (segments rest)
termination_by s.length
where
  /-- Puts a character in front of the first segment. -/
  prepend (c : Char) : List (List Char) → List (List Char)
    | [] => [[c]]
    | first :: more => (c :: first) :: more

/-- A text has at least one segment. -/
theorem segments_ne_nil (s : List Char) : segments s ≠ [] := by
  cases s with
  | nil => simp [segments]
  | cons c rest =>
    unfold segments
    have hp : ∀ l, segments.prepend c l ≠ [] := by
      intro l; cases l <;> simp [segments.prepend]
    split
    · split
      · simp
      · exact hp _
    · exact hp _

end MarkupTidy.Markup
