/-!
# Text/Lines — line ends

A text read from a file has its line ends made uniform first: a carriage return and line feed,
or a carriage return alone, becomes one line feed. Cutting a text into lines, each line keeps
the break that ends it; the breaks are the line feed, the carriage return (with a line feed
after it, the pair), the vertical tab, the form feed, the file, group and record separators,
the next-line character and the line and paragraph separators. A last line with no break after
it is still a line, and an empty text has no lines.
-/

namespace MarkupTidy.Text

/-- Makes every carriage return, alone or before a line feed, one line feed. -/
def uniformLineEnds : List Char → List Char
  | '\r' :: '\n' :: rest => '\n' :: uniformLineEnds rest
  | '\r' :: rest => '\n' :: uniformLineEnds rest
  | c :: rest => c :: uniformLineEnds rest
  | [] => []

/-- A text with uniform line ends. -/
def String.uniformLineEnds (s : String) : String :=
  String.ofList (Text.uniformLineEnds s.toList)

/-- The characters that end a line. -/
def isLineBreak (c : Char) : Bool :=
  c = '\n' || c = '\r' || c = '\x0b' || c = '\x0c' || c = '\x1c' || c = '\x1d' || c = '\x1e' ||
    c = '\x85' || c = ' ' || c = ' '

/-- The lines of a text, the current line's characters so far given reversed. -/
def linesFrom : List Char → List Char → List (List Char)
  | [], acc => if acc.isEmpty then [] else [acc.reverse]
  | '\r' :: '\n' :: rest, acc => ('\n' :: '\r' :: acc).reverse :: linesFrom rest []
  | c :: rest, acc =>
    if isLineBreak c then (c :: acc).reverse :: linesFrom rest []
    else linesFrom rest (c :: acc)

/-- The lines of a text, each with the break that ends it. -/
def linesWithEnds (s : String) : List String :=
  (linesFrom s.toList []).map String.ofList

theorem uniformLineEnds_no_return (cs : List Char) : '\r' ∉ uniformLineEnds cs := by
  fun_induction uniformLineEnds cs with
  | case1 rest ih | case2 rest _ ih => simpa using ih
  | case3 c rest _ hc ih => simpa [Ne.symm hc] using ih
  | case4 => simp

theorem linesFrom_flatten (cs acc : List Char) :
    (linesFrom cs acc).flatten = acc.reverse ++ cs := by
  fun_induction linesFrom cs acc with
  | case1 acc hacc => simp [List.isEmpty_iff.1 hacc]
  | case2 acc hacc => simp
  | case3 rest acc ih | case4 c rest acc _ _ ih | case5 c rest acc _ _ ih => simp [ih]

/-- Joining the lines gives the text back. -/
theorem linesWithEnds_join (s : String) :
    String.join (linesWithEnds s) = s := by
  apply String.ext
  simp only [linesWithEnds, String.toList_join, List.flatMap_map, String.toList_ofList]
  rw [List.flatMap_id', linesFrom_flatten]
  simp

end MarkupTidy.Text
