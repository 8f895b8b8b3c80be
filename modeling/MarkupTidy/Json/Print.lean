import MarkupTidy.Json.Value
import MarkupTidy.Text.Quote

/-!
# Json/Print — JSON as text, indented

A value is printed with every array item and object member on a line of its own, indented two
spaces a level, members as `"name": value` and separated by commas at the ends of lines; empty
arrays and objects are `[]` and `{}`. Texts are quoted with only printable ASCII left as it is:
the quote and the backslash are escaped, the usual controls by their letters, and every other
character as `\uXXXX` in lower-case hexadecimal, characters beyond the basic plane as a pair of
surrogates.
-/

namespace MarkupTidy.Json

open MarkupTidy.Text

/-- The escape of one UTF-16 unit. -/
def unitEscape (n : Nat) : String := "\\u" ++ String.ofList (hexDigits 4 n)

/-- One character inside a quoted JSON text. -/
def escapeChar (c : Char) : String :=
  if c = '"' then "\\\""
  else if c = '\\' then "\\\\"
  else if c = '\n' then "\\n"
  else if c = '\r' then "\\r"
  else if c = '\t' then "\\t"
  else if c = '\x08' then "\\b"
  else if c = '\x0c' then "\\f"
  else if ' ' ≤ c && c ≤ '~' then c.toString
  else if c.toNat < 0x10000 then unitEscape c.toNat
  else
    let v := c.toNat - 0x10000
    unitEscape (0xD800 + v / 0x400) ++ unitEscape (0xDC00 + v % 0x400)

/-- A text as a quoted JSON text. -/
def quote (s : String) : String :=
  "\"" ++ String.join (s.toList.map escapeChar) ++ "\""

/-- The text of a decimal `m × 10 ^ e`. -/
def decimalText (m e : Int) : String :=
  if e < 0 then
    let digits := toString m.natAbs
    let k := (-e).toNat
    let padded := String.ofList (List.replicate (k + 1 - digits.length) '0') ++ digits
    (if m < 0 then "-" else "") ++ String.ofList (padded.toList.take (padded.length - k)) ++ "." ++
      String.ofList (padded.toList.drop (padded.length - k))
  else toString (m * (Nat.pow 10 e.toNat : Int))

/-- A value printed with an indent of two spaces a level, starting at a level. -/
def Value.pretty (level : Nat) : Value → String
  | .null => "null"
  | .bool b => if b then "true" else "false"
  | .int n => toString n
  | .decimal m e => decimalText m e
  | .nonFinite => "NaN"
  | .str s => quote s
  | .arr [] => "[]"
  | .arr items =>
    let inner := String.ofList (List.replicate (2 * (level + 1)) ' ')
    let outer := String.ofList (List.replicate (2 * level) ' ')
    "[\n" ++ ",\n".intercalate (items.attach.map fun ⟨v, _⟩ => inner ++ v.pretty (level + 1)) ++
      "\n" ++ outer ++ "]"
  | .obj [] => "{}"
  | .obj members =>
    let inner := String.ofList (List.replicate (2 * (level + 1)) ' ')
    let outer := String.ofList (List.replicate (2 * level) ' ')
    "\x7b\n" ++ ",\n".intercalate (members.attach.map fun ⟨m, _⟩ =>
      inner ++ quote m.1 ++ ": " ++ m.2.pretty (level + 1)) ++ "\n" ++ outer ++ "\x7d"
termination_by v => sizeOf v
decreasing_by
  · have := List.sizeOf_lt_of_mem ‹_ ∈ items›
    simp only [Value.arr.sizeOf_spec]
    omega
  · have := List.sizeOf_lt_of_mem ‹_ ∈ members›
    obtain ⟨k, v⟩ := m
    simp only [Value.obj.sizeOf_spec, Prod.mk.sizeOf_spec] at this ⊢
    omega

end MarkupTidy.Json
