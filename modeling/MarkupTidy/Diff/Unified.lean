import MarkupTidy.Diff.Match

/-!
# Diff/Unified — the unified form of a difference

The edits between two sequences of lines are shown in hunks: runs of changes with up to three
unchanged lines of context around them. An unchanged run longer than twice the context splits
two hunks, each keeping its share of context. Each hunk starts with a header `@@ -r1 +r2 @@`
naming the ranges of both sequences it covers, as `start,length` with lines counted from one;
a range of one line is just its line, and an empty range starts at the line before it. The
lines follow, kept with a space, removed with `-` and added with `+`, each with its own line
end, so a last line without one runs on into whatever comes next. Two header lines name the
two sides; there are none when nothing differs.
-/

namespace MarkupTidy.Diff

/-- An edit with its ranges cut to `[i1, i2)` and `[j1, j2)`. -/
def Edit.within (e : Edit) (i1 i2 j1 j2 : Nat) : Edit := ⟨e.change, i1, i2, j1, j2⟩

/-- Keeps only the last `n` lines of a leading unchanged run. -/
def trimFirst (n : Nat) : List Edit → List Edit
  | e :: rest =>
    if e.change = .equal then e.within (max e.i1 (e.i2 - n)) e.i2 (max e.j1 (e.j2 - n)) e.j2 :: rest
    else e :: rest
  | [] => []

/-- Keeps only the first `n` lines of a trailing unchanged run. -/
def trimLast (n : Nat) (es : List Edit) : List Edit :=
  match es.getLast? with
  | some e =>
    if e.change = .equal then
      es.dropLast ++ [e.within e.i1 (min e.i2 (e.i1 + n)) e.j1 (min e.j2 (e.j1 + n))]
    else es
  | none => es

/-- Cuts edits into hunks, `group` being the current hunk reversed. -/
def hunksFrom (n : Nat) : List Edit → List Edit → List (List Edit)
  | [], group =>
    match group with
    | [] => []
    | [e] => if e.change = .equal then [] else [[e]]
    | _ => [group.reverse]
  | e :: rest, group =>
    if e.change = .equal ∧ 2 * n < e.i2 - e.i1 then
      let head := e.within e.i1 (min e.i2 (e.i1 + n)) e.j1 (min e.j2 (e.j1 + n))
      let tail := e.within (max e.i1 (e.i2 - n)) e.i2 (max e.j1 (e.j2 - n)) e.j2
      (head :: group).reverse :: hunksFrom n rest [tail]
    else hunksFrom n rest (e :: group)

/-- The hunks of a list of edits with `n` lines of context. -/
def hunks (n : Nat) (es : List Edit) : List (List Edit) :=
  let es := if es.isEmpty then [⟨.equal, 0, 1, 0, 1⟩] else es
  hunksFrom n (trimLast n (trimFirst n es)) []

/-- A range `[start, stop)` as a header shows it. -/
def rangeText (start stop : Nat) : String :=
  let length := stop - start
  if length = 1 then toString (start + 1)
  else if length = 0 then toString start ++ ",0"
  else toString (start + 1) ++ "," ++ toString length

/-- The lines `[lo, hi)` of a sequence, each after a mark. -/
def markedLines (mark : String) (xs : Array String) (lo hi : Nat) : List String :=
  (List.range' lo (hi - lo)).map fun k => mark ++ xs.getD k ""

/-- The lines one edit shows. -/
def Edit.lines (a b : Array String) (e : Edit) : List String :=
  match e.change with
  | .equal => markedLines " " a e.i1 e.i2
  | .delete => markedLines "-" a e.i1 e.i2
  | .insert => markedLines "+" b e.j1 e.j2
  | .replace => markedLines "-" a e.i1 e.i2 ++ markedLines "+" b e.j1 e.j2

/-- The lines of a hunk, header first. -/
def hunkLines (a b : Array String) (hunk : List Edit) : List String :=
  match hunk.head?, hunk.getLast? with
  | some first, some last =>
    ("@@ -" ++ rangeText first.i1 last.i2 ++ " +" ++ rangeText first.j1 last.j2 ++ " @@\n") ::
      hunk.flatMap (Edit.lines a b)
  | _, _ => []

/-- The unified difference of two sequences of lines, under two names. -/
def unified (a b : Array String) (fromName toName : String) : String :=
  match hunks 3 (edits a b) with
  | [] => ""
  | hs => String.join (("--- " ++ fromName ++ "\n") :: ("+++ " ++ toName ++ "\n") ::
      hs.flatMap (hunkLines a b))

end MarkupTidy.Diff
