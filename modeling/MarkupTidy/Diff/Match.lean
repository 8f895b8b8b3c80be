import Std.Data.HashMap

/-!
# Diff/Match — matching blocks between two sequences of lines

Two sequences `a` and `b` are compared by finding the longest block of equal lines, then
comparing what lies left of it and what lies right of it the same way, until no equal line is
left to pair. The longest block is the one that starts first in `a`, and of those the one that
starts first in `b`.

Lines that are too common in a long `b` say little about how the two sequences line up: when
`b` has at least 200 lines, a line that occurs more than once per hundred lines of `b` (plus
one) is never the seed of a block. It may still lengthen a block found from other lines, since
a block is grown over equal neighbours on both ends once found.

The blocks, in order and with neighbours that touch merged, are turned into the edits that take
`a` to `b`: runs kept (`equal`), replaced, deleted and inserted.
-/

namespace MarkupTidy.Diff

/-- A block of equal lines: `size` lines from `a` at `i` and from `b` at `j`. -/
structure Block where
  i : Nat
  j : Nat
  size : Nat
  deriving DecidableEq, Repr

/-- Where each line of `b` occurs, in increasing order, leaving out the lines too common to seed
a block. -/
def occurrences (b : Array String) : Std.HashMap String (Array Nat) :=
  let all := (List.range b.size).foldl
    (fun m j => let line := b.getD j ""; m.insert line ((m.getD line #[]).push j)) ∅
  if 200 ≤ b.size then
    let limit := b.size / 100 + 1
    all.filter fun _ js => js.size ≤ limit
  else all

/-- Grows a block backwards while the lines before it are equal and inside the bounds. -/
def growBack (a b : Array String) (alo blo : Nat) (i j size : Nat) : Block :=
  if h : alo < i ∧ blo < j ∧ a.getD (i - 1) "" = b.getD (j - 1) "" then
    growBack a b alo blo (i - 1) (j - 1) (size + 1)
  else ⟨i, j, size⟩
termination_by i
decreasing_by omega

/-- Grows a block forwards while the lines after it are equal and inside the bounds. -/
def growForward (a b : Array String) (ahi bhi : Nat) (i j size : Nat) : Block :=
  if h : i + size < ahi ∧ j + size < bhi ∧ a.getD (i + size) "" = b.getD (j + size) "" then
    growForward a b ahi bhi i j (size + 1)
  else ⟨i, j, size⟩
termination_by ahi - (i + size)
decreasing_by omega

/-- One line `i` of `a` against its occurrences in `b` within `[blo, bhi)`: the lengths of the
equal runs ending at each occurrence, and the longest block so far. -/
def stepLine (blo bhi i : Nat) (js : Array Nat) (previous : Std.HashMap Nat Nat)
    (best : Block) : Std.HashMap Nat Nat × Block :=
  js.foldl (fun (lens, best) j =>
    if j < blo || bhi ≤ j then (lens, best)
    else
      let k := (if j = 0 then 0 else previous.getD (j - 1) 0) + 1
      let best := if best.size < k then ⟨i + 1 - k, j + 1 - k, k⟩ else best
      (lens.insert j k, best)) (∅, best)

/-- The longest block of equal lines between `a[alo, ahi)` and `b[blo, bhi)`, of size zero
at `(alo, blo)` when there is none. -/
def longestBlock (a b : Array String) (index : Std.HashMap String (Array Nat))
    (alo ahi blo bhi : Nat) : Block :=
  let (_, seed) := (List.range' alo (ahi - alo)).foldl
    (fun (lens, best) i => stepLine blo bhi i (index.getD (a.getD i "") #[]) lens best)
    ((∅ : Std.HashMap Nat Nat), (⟨alo, blo, 0⟩ : Block))
  let back := growBack a b alo blo seed.i seed.j seed.size
  growForward a b ahi bhi back.i back.j back.size

/-- The blocks found by splitting around longest blocks, working through a stack of ranges
`(alo, ahi, blo, bhi)`; each range either has no block or is split into ranges that hold
fewer lines, so twice the total number of lines bounds the work. -/
def blocksFrom (a b : Array String) (index : Std.HashMap String (Array Nat)) :
    Nat → List (Nat × Nat × Nat × Nat) → List Block → List Block
  | 0, _, found => found
  | _, [], found => found
  | fuel + 1, (alo, ahi, blo, bhi) :: stack, found =>
    let x := longestBlock a b index alo ahi blo bhi
    if x.size = 0 then blocksFrom a b index fuel stack found
    else
      let left := if alo < x.i ∧ blo < x.j then [(alo, x.i, blo, x.j)] else []
      let right :=
        if x.i + x.size < ahi ∧ x.j + x.size < bhi then [(x.i + x.size, ahi, x.j + x.size, bhi)]
        else []
      blocksFrom a b index fuel (right ++ left ++ stack) (x :: found)

/-- Merges blocks that touch, keeping order. -/
def mergeTouching : List Block → List Block
  | x :: y :: rest =>
    if x.i + x.size = y.i ∧ x.j + x.size = y.j then
      mergeTouching (⟨x.i, x.j, x.size + y.size⟩ :: rest)
    else x :: mergeTouching (y :: rest)
  | blocks => blocks
termination_by blocks => blocks.length

/-- The matching blocks of `a` and `b` in order, merged where they touch, ended by the empty
block at the two ends. -/
def matchingBlocks (a b : Array String) : List Block :=
  let found := blocksFrom a b (occurrences b) (2 * (a.size + b.size) + 1)
    [(0, a.size, 0, b.size)] []
  let sorted := found.mergeSort fun x y => x.i ≤ y.i
  mergeTouching sorted ++ [⟨a.size, b.size, 0⟩]

/-- What an edit does with its range of `a` and its range of `b`. -/
inductive Change where
  | equal
  | replace
  | delete
  | insert
  deriving DecidableEq, Repr

/-- An edit: `a[i1, i2)` becomes `b[j1, j2)`. -/
structure Edit where
  change : Change
  i1 : Nat
  i2 : Nat
  j1 : Nat
  j2 : Nat
  deriving DecidableEq, Repr

/-- The edits between the lines before each block and the blocks, from positions `i` and `j`. -/
def editsFrom : Nat → Nat → List Block → List Edit
  | _, _, [] => []
  | i, j, x :: rest =>
    let gap : List Edit :=
      if i < x.i ∧ j < x.j then [⟨.replace, i, x.i, j, x.j⟩]
      else if i < x.i then [⟨.delete, i, x.i, j, x.j⟩]
      else if j < x.j then [⟨.insert, i, x.i, j, x.j⟩]
      else []
    let kept : List Edit :=
      if x.size = 0 then [] else [⟨.equal, x.i, x.i + x.size, x.j, x.j + x.size⟩]
    gap ++ kept ++ editsFrom (x.i + x.size) (x.j + x.size) rest

/-- The edits that take `a` to `b`. -/
def edits (a b : Array String) : List Edit :=
  editsFrom 0 0 (matchingBlocks a b)

end MarkupTidy.Diff
