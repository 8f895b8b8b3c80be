/-!
# Text/Find — where a pattern occurs in a text

`indexFrom pat s i` is the first position at which `pat` occurs in `s`, counting positions from
`i`; `occurs pat s` says whether it occurs at all.
-/

namespace MarkupTidy.Text

/-- The first position at which `pat` occurs in `s`, where the head of `s` is position `i`. -/
def indexFrom (pat : List Char) : List Char → Nat → Option Nat
  | [], i => if pat = [] then some i else none
  | c :: rest, i => if pat.isPrefixOf (c :: rest) then some i else indexFrom pat rest (i + 1)

/-- Whether `pat` occurs somewhere in `s`. -/
def occurs (pat s : List Char) : Bool := (indexFrom pat s 0).isSome

end MarkupTidy.Text
