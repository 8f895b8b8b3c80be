import MarkupTidy.Markup.Scan
import MarkupTidy.Text.Find

/-!
# Markup/Signed — reading a tag at a signed position

A position may be negative, and then counts back from the end of the text, as slice notation
does: `-1` is the last character. Each step of the reading resolves its own position this way —
the test for `<`, every search, every cut and every look at one character — and positions past
either end are clamped, except for a look at one character, which fails before the start.

So a reading at a negative position is not the reading at the position it stands for: the start
is reported as given, the cut of the tag's text is taken between two resolved positions (and is
empty when they cross), and the name may run on past the end of the text into its beginning.
At a position of zero or more, `readAt` is `read?` on what follows the position (`readAt_ofNat`).
-/

namespace MarkupTidy.Markup

/-! ## Resolving positions -/

/-- Where a search or a cut that starts at `p` starts in a text of `n` characters. -/
def resolve (n : Nat) (p : Int) : Nat :=
  if p < 0 then (p + n).toNat else min p.toNat n

/-- The characters between two signed positions; empty when they cross. -/
def cut (text : List Char) (a b : Int) : List Char :=
  let i := resolve text.length a
  (text.drop i).take (resolve text.length b - i)

/-- The first position at or after the resolved position `p` where `pat` occurs. -/
def findFrom (text pat : List Char) (p : Int) : Option Nat :=
  let i := resolve text.length p
  Text.indexFrom pat (text.drop i) i

/-- Whether `pat` occurs at the resolved position `p`. -/
def occursAt (text pat : List Char) (p : Int) : Bool :=
  pat.isPrefixOf (text.drop (resolve text.length p))

/-- A look at one character: negative positions count back from the end, and a look outside the
text finds nothing. -/
def charAt? (text : List Char) (i : Int) : Option Char :=
  if i < 0 then
    if i + text.length < 0 then none else text[(i + text.length).toNat]?
  else text[i.toNat]?

/-- The position after a run of name characters that starts at `i`; the run may pass from the
end of the text's negative positions to its positive ones. -/
def nameEnd (text : List Char) (i : Int) : Int :=
  if i < text.length then
    match charAt? text i with
    | some c => if isNameChar c then nameEnd text (i + 1) else i
    | none => i
  else i
termination_by (text.length - i).toNat

/-! ## Reading -/

/-- A reading that looked at a character before the start of the text. -/
inductive OutOfRange where
  | beforeStart
  deriving DecidableEq, Repr

/-- The words a reading that ran out of range reports. -/
def OutOfRange.message : OutOfRange → String
  | .beforeStart => "string index out of range"

/-- The element tag whose `<` is at `p`, its name starting at `i`. -/
def readElementAt (text : List Char) (p i : Int) : Except OutOfRange (Option Tag) :=
  if text.length ≤ i then .ok none
  else
    match charAt? text i with
    | none => .error .beforeStart
    | some c =>
      if !isNameStart c then .ok none
      else
        let stop := nameEnd text i
        let name := String.ofList ((cut text i stop).map Char.toLower)
        match findFrom text ['>'] stop with
        | none => .ok none
        | some close =>
          let raw := cut text p (close + 1)
          .ok (some ⟨name, classify raw name, String.ofList raw, p, close + 1⟩)

/-- The tag at a signed position of a text. -/
def readAt (text : List Char) (p : Int) : Except OutOfRange (Option Tag) :=
  if 0 ≤ p then .ok (read? (text.drop p.toNat) p.toNat)
  else if !occursAt text ['<'] p then .ok none
  else if occursAt text ['<', '!', '-', '-'] p then
    let stop : Nat := match findFrom text ['-', '-', '>'] (p + 4) with
      | some close => close + 3
      | none => text.length
    .ok (some ⟨"", .comment, String.ofList (cut text p (Int.ofNat stop)), p, stop⟩)
  else if occursAt text ['<', '!'] p then
    match findFrom text ['>'] (p + 2) with
    | none => .ok none
    | some close =>
      .ok (some ⟨"", .declaration, String.ofList (cut text p (close + 1)), p, close + 1⟩)
  else if occursAt text ['/'] (p + 1) then readElementAt text p (p + 2)
  else readElementAt text p (p + 1)

/-- At a position of zero or more, a signed reading is the reading of what follows it. -/
theorem readAt_ofNat (text : List Char) (p : Nat) :
    readAt text p = .ok (read? (text.drop p) p) := by
  simp [readAt]

end MarkupTidy.Markup
