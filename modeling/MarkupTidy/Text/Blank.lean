/-!
# Text/Blank — the blank characters of Unicode text

A character is *blank* when Unicode calls it white space, or when it is one of the four
information separators `U+001C`–`U+001F`, which line splitting treats as breaks as well.
Trimming, the blank runs of the compactor and the layout's segment boundaries all use this one
class.

Main statements: `isBlank_of_isWhitespace` (core's ASCII class lies inside it) and
`length_trim_le`.
-/

namespace MarkupTidy.Text

/-! ## The class -/

/-- A blank character: a control from tab to carriage return, an information separator, the
space, next line, no-break space, ogham space mark, the typographic spaces `U+2000`–`U+200A`, the
line and paragraph separators, the narrow no-break space, the medium mathematical space and the
ideographic space. Zero-width characters are not blank. -/
def isBlank (c : Char) : Bool :=
  let n := c.toNat
  (9 ≤ n && n ≤ 13) || (28 ≤ n && n ≤ 32) || n == 0x85 || n == 0xA0 || n == 0x1680 ||
    (0x2000 ≤ n && n ≤ 0x200A) || n == 0x2028 || n == 0x2029 || n == 0x202F ||
    n == 0x205F || n == 0x3000

/-- Every character that core counts as white space is blank. -/
theorem isBlank_of_isWhitespace {c : Char} (h : c.isWhitespace = true) : isBlank c = true := by
  simp only [Char.isWhitespace, Bool.or_eq_true, decide_eq_true_eq] at h
  rcases h with ((h | h) | h) | h <;> subst h <;> decide

/-! ## Trimming -/

/-- The text without its leading and trailing blanks. -/
def trim (cs : List Char) : List Char :=
  ((cs.dropWhile isBlank).reverse.dropWhile isBlank).reverse

/-- Trimming never lengthens a text. -/
theorem length_trim_le (cs : List Char) : (trim cs).length ≤ cs.length := by
  unfold trim
  rw [List.length_reverse]
  calc ((cs.dropWhile isBlank).reverse.dropWhile isBlank).length
      ≤ (cs.dropWhile isBlank).reverse.length := (List.dropWhile_sublist _).length_le
    _ = (cs.dropWhile isBlank).length := List.length_reverse
    _ ≤ cs.length := (List.dropWhile_sublist _).length_le

end MarkupTidy.Text
