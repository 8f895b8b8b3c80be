/-!
# Markup/Tag — what a `<` can start

A tag is one of five kinds: an opening, closing or self-closing element tag, a comment or a
declaration. Element tags carry a lower-case name; a tag records the exact text it was read from
and where that text starts and stops.

An element tag is self-closing when it is written with `/>` or names a void element (an element
that never has content, such as `br` or `img`); that wins over a leading `</`, so `</br>` is
self-closing too.
-/

namespace MarkupTidy.Markup

/-! ## Kinds -/

/-- The five things that a `<` can start. -/
inductive Kind where
  /-- `<p ...>` -/
  | opening
  /-- `</p>` -/
  | closing
  /-- `<br>`, `<p/>` -/
  | selfClosing
  /-- `<!-- ... -->` -/
  | comment
  /-- `<!DOCTYPE ...>` and every other `<!` -/
  | declaration
  deriving DecidableEq, Repr

/-- The word each kind is reported by. -/
def Kind.label : Kind → String
  | .opening => "open"
  | .closing => "close"
  | .selfClosing => "self_closing"
  | .comment => "comment"
  | .declaration => "declaration"

/-- Element tags are the kinds that open, close or stand alone as an element. -/
def Kind.isElement : Kind → Bool
  | .opening | .closing | .selfClosing => true
  | .comment | .declaration => false

/-! ## Names -/

/-- The elements that never have content. -/
def voidNames : List String :=
  ["area", "base", "br", "col", "embed", "hr", "img", "input", "link", "meta", "param",
    "source", "track", "wbr"]

/-- A tag name starts with an ASCII letter. -/
def isNameStart (c : Char) : Bool := c.isAlpha

/-- A tag name goes on with ASCII letters and digits. -/
def isNameChar (c : Char) : Bool := c.isAlphanum

/-- An element tag's kind, read off its text and its (lower-case) name: written with `/>` or
naming a void element makes it self-closing, else a leading `</` makes it closing. -/
def classify (raw : List Char) (name : String) : Kind :=
  if ['/', '>'].isSuffixOf raw || voidNames.contains name then .selfClosing
  else if ['<', '/'].isPrefixOf raw then .closing
  else .opening

/-! ## Tags -/

/-- A tag as read from a text: its name (empty for comments and declarations), its kind, the
exact text it spans, and the positions where that text starts and stops. -/
structure Tag where
  name : String
  kind : Kind
  raw : String
  start : Int
  stop : Nat
  deriving DecidableEq, Repr

namespace Tag

/-- An element tag, as opposed to a comment or a declaration. -/
def isElement (t : Tag) : Bool := t.kind.isElement

/-- An element tag written with a closing `/>`. -/
def writtenSelfClosing (t : Tag) : Bool :=
  t.isElement && ['/', '>'].isSuffixOf t.raw.toList

end Tag

end MarkupTidy.Markup
