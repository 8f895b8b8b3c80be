/-!
# Text/Surrogate — lone surrogates carried in a text

An escape in JSON or YAML text can name a surrogate code point (`U+D800`–`U+DFFF`) on its own,
and the text read holds such a *lone surrogate* as one character of its own. A `Char` is never a
surrogate, so a text that may hold lone surrogates is kept as a `String` in which each one is
written by a *stand-in*: the character at the same place in a block of 2048 private-use code
points that the text does not otherwise use (`StandIns.avoiding`). A stand-in is told apart from
the text's own characters by its block alone, and it behaves as a lone surrogate does wherever
the library looks at characters: it is no blank, letter or digit, has no other case, and does
not print as itself.
-/

namespace MarkupTidy.Text

/-- The first surrogate code point. -/
def surrogateFirst : Nat := 0xD800

/-- The number of surrogate code points. -/
def surrogateCount : Nat := 0x800

/-- Whether a code point is a surrogate. -/
def isSurrogate (n : Nat) : Bool := surrogateFirst ≤ n && n < surrogateFirst + surrogateCount

/-- A block of stand-ins: the character `base + k` stands for the surrogate `U+D800 + k`. -/
structure StandIns where
  base : Nat
  deriving DecidableEq, Repr, Inhabited

namespace StandIns

/-- The blocks stand-ins are taken from: the 64 blocks of the private-use planes 15 and 16. -/
def blocks : List StandIns :=
  (List.range 64).map fun k => ⟨0xF0000 + k * surrogateCount⟩

/-- Whether a character lies in a block. -/
def covers (b : StandIns) (c : Char) : Bool :=
  b.base ≤ c.toNat && c.toNat < b.base + surrogateCount

/-- The first block that none of the given characters lies in; the first block of all when
every block is used. -/
def avoiding (used : List Char) : StandIns :=
  (blocks.find? fun b => !used.any b.covers).getD ⟨0xF0000⟩

/-- The stand-in of a surrogate code point. -/
def char (b : StandIns) (code : Nat) : Char :=
  Char.ofNat (b.base + (code - surrogateFirst))

/-- The surrogate code point a character stands in for, if it is a stand-in. -/
def surrogate? (b : StandIns) (c : Char) : Option Nat :=
  if b.covers c then some (c.toNat - b.base + surrogateFirst) else none

/-- Whether a text holds a stand-in, that is, a lone surrogate. -/
def occursIn (b : StandIns) (s : String) : Bool := s.any b.covers

/-- A block chosen to avoid some characters holds none of them, when some block is free. -/
theorem avoiding_free (used : List Char) (h : ∃ b ∈ blocks, ∀ c ∈ used, b.covers c = false) :
    ∀ c ∈ used, (avoiding used).covers c = false := by
  obtain ⟨b, hb, hfree⟩ := h
  have hsome : (blocks.find? fun b => !used.any b.covers).isSome := by
    rw [List.find?_isSome]
    exact ⟨b, hb, by simpa using hfree⟩
  obtain ⟨b', hb'⟩ := Option.isSome_iff_exists.mp hsome
  have hfree' := List.find?_some hb'
  simp only [avoiding, hb', Option.getD_some]
  simpa using hfree'

end StandIns

end MarkupTidy.Text
