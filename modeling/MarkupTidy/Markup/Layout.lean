import MarkupTidy.Markup.Scan
import MarkupTidy.Markup.Segment
import MarkupTidy.Text.Find

/-!
# Markup/Layout — one segment per line, indented by depth

The text is cut into segments at its seams (`Markup.Segment`), and each segment that is not
blank becomes one trimmed line, with its `<` and `>` given back where the seams took them. The
depth starts at zero:

* it drops by one (but not below zero) before a line that starts with `</`, or whose leading tag
  is written with `/>`;
* it rises by one after a line whose leading tag is an opening tag, unless that tag mentions the
  name of a void element anywhere in its text (`<div class="hr">` counts), or the line's last
  element tag closes it (`<li>text</li>`).

Each line is indented by the indent unit repeated depth times, and the lines are joined with line
feeds. One level of indentation is built before any line, and each line's indentation when it is
written: a width past a machine index overflows, and a text past what memory holds cannot be
built (`Indent.fits`).
-/

namespace MarkupTidy.Markup

open MarkupTidy.Text

/-! ## Indentation -/

/-- What one level of depth is indented with. -/
inductive Indent where
  | tab
  | spaces (width : Nat)
  deriving DecidableEq, Repr

/-- The longest text a machine index can measure, `2 ^ 63 - 1` characters. -/
def indexLimit : Nat := Nat.pow 2 63 - 1

/-- The longest indentation memory holds, `2 ^ 36` characters: a longer text cannot be
allocated. -/
def memoryLimit : Nat := Nat.pow 2 36

/-- Why the indentation of a text cannot be built. -/
inductive TooWide where
  /-- The width of one level does not fit a machine index. -/
  | unit
  /-- One level, or the indentation of some line, does not fit in memory. -/
  | memory
  deriving DecidableEq, Repr

/-- The words indentation that cannot be built reports; running out of memory says nothing. -/
def TooWide.message : TooWide → String
  | .unit => "cannot fit 'int' into an index-sized integer"
  | .memory => ""

namespace Indent

/-- The indent from a width and a choice of tabs; a negative width counts as zero and the width
does not matter when tabs are chosen. -/
def ofWidth (width : Int) (tabs : Bool) : Indent :=
  if tabs then .tab else .spaces width.toNat

/-- The number of characters of one level. -/
def width : Indent → Nat
  | .tab => 1
  | .spaces n => n

/-- The text of one level. -/
def unit : Indent → List Char
  | .tab => ['\t']
  | .spaces n => List.replicate n ' '

/-- The text before a line at a depth: one level repeated depth times, built at once. -/
def text : Indent → Nat → List Char
  | .tab, depth => List.replicate depth '\t'
  | .spaces n, depth => List.replicate (depth * n) ' '

/-- The text before a line is the text of one level, repeated. -/
theorem text_eq_flatten (i : Indent) (depth : Nat) :
    i.text depth = (List.replicate depth i.unit).flatten := by
  induction depth with
  | zero => cases i <;> simp [text]
  | succ d ih =>
    rw [List.replicate_succ, List.flatten_cons, ← ih]
    cases i with
    | tab => simp [text, unit, List.replicate_succ]
    | spaces n => simp [text, unit, Nat.succ_mul, Nat.add_comm, List.replicate_append_replicate]

/-- Whether one level, and the text before a line at each of the given depths, can be built: a
width past a machine index overflows, and a text past memory cannot be allocated. One level is
built even when no line is indented. -/
def fits (i : Indent) (depths : List Nat) : Except TooWide Unit :=
  if indexLimit < i.width then .error .unit
  else if memoryLimit < i.width || depths.any (fun d => memoryLimit < d * i.width) then
    .error .memory
  else .ok ()

end Indent

/-! ## Lines -/

/-- Letters folded to lower case as far as the void names can tell: ASCII capitals and the
Kelvin sign, whose lower case is `k`. -/
def foldForNames (c : Char) : Char :=
  if c = '\u212A' then 'k' else c.toLower

/-- A tag mentions a void element when the name of one occurs anywhere in its folded text. -/
def mentionsVoid (t : Tag) : Bool :=
  let folded := t.raw.toList.map foldForNames
  voidNames.any fun name => occurs name.toList folded

/-- The last element tag of a line closes its leading tag. -/
def closesOwn (line : List Char) (leading : Tag) : Bool :=
  match (scanFrom (line.drop leading.raw.length) 0).getLast? with
  | some last => last.kind = .closing && last.name = leading.name
  | none => false

/-- A line after which the depth rises. -/
def opensLevel (line : List Char) : Option Tag → Bool
  | some t => t.kind = .opening && !mentionsVoid t && !closesOwn line t
  | none => false

/-- A line before which the depth drops. -/
def closesLevel (line : List Char) : Option Tag → Bool
  | some t => ['<', '/'].isPrefixOf line || t.writtenSelfClosing
  | none => ['<', '/'].isPrefixOf line

/-- The depth and text of each line of the segments that follow, from the given depth; `first`
tells whether the next segment is the text's first, whose `<` no seam took. -/
def placedFrom : Nat → Bool → List (List Char) → List (Nat × List Char)
  | _, _, [] => []
  | depth, first, seg :: rest =>
    let body := trim seg
    if body.isEmpty then placedFrom depth false rest
    else
      let line := (if first then body else '<' :: body) ++ (if rest.isEmpty then [] else ['>'])
      let leading := read? line 0
      let here := if closesLevel line leading then depth - 1 else depth
      let next := if opensLevel line leading then here + 1 else here
      (here, line) :: placedFrom next false rest

/-- The depth and text of each line of a text. -/
def placed (s : List Char) : List (Nat × List Char) :=
  placedFrom 0 true (segments s)

/-- The laid-out lines of a text, each indented for its depth, when the indentation can be
built. -/
def Indent.lines? (indent : Indent) (s : List Char) : Except TooWide (List (List Char)) := do
  let ps := placed s
  indent.fits (ps.map Prod.fst)
  return ps.map fun p => indent.text p.1 ++ p.2

/-- The laid-out text: its lines joined with line feeds. -/
def layout (indent : Indent) (s : List Char) : Except TooWide (List Char) := do
  return List.intercalate ['\n'] (← indent.lines? s)

end MarkupTidy.Markup
