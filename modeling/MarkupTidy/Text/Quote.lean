import MarkupTidy.Text.Printable
import MarkupTidy.Text.Surrogate

/-!
# Text/Quote — a text quoted for a message

Messages show a text between single quotes, or between double quotes when it holds a single quote
and no double quote. Inside, the chosen quote and the backslash are escaped with a backslash, tab,
line feed and carriage return are written `\t`, `\n` and `\r`, and every other unprintable
character is written by its code point in lower-case hexadecimal: `\xhh` below `U+0100`, `\uhhhh`
below `U+10000`, else `\Uhhhhhhhh`. A lone surrogate is unprintable too: in a text that carries
them by stand-ins (`Text.Surrogate`), `quotedWith` writes each stand-in as `\udxxx`.
-/

namespace MarkupTidy.Text

/-- The lower-case hexadecimal digits of `n`, padded with zeros to `width`. -/
def hexDigits (width n : Nat) : List Char :=
  let ds := Nat.toDigits 16 n
  List.replicate (width - ds.length) '0' ++ ds

/-- One character as it stands between the given quotes. -/
def quoteChar (q c : Char) : List Char :=
  if c = q || c = '\\' then ['\\', c]
  else if c = '\t' then ['\\', 't']
  else if c = '\n' then ['\\', 'n']
  else if c = '\r' then ['\\', 'r']
  else if isPrintable c then [c]
  else if c.toNat < 0x100 then '\\' :: 'x' :: hexDigits 2 c.toNat
  else if c.toNat < 0x10000 then '\\' :: 'u' :: hexDigits 4 c.toNat
  else '\\' :: 'U' :: hexDigits 8 c.toNat

/-- A text between quotes, escaped. -/
def quoted (s : String) : String :=
  let cs := s.toList
  let q := if cs.contains '\'' && !cs.contains '"' then '"' else '\''
  String.ofList (q :: (cs.flatMap (quoteChar q) ++ [q]))

/-- One character between the given quotes, a stand-in written as the surrogate it stands for. -/
def quoteCharWith (si : StandIns) (q c : Char) : List Char :=
  match si.surrogate? c with
  | some n => '\\' :: 'u' :: hexDigits 4 n
  | none => quoteChar q c

/-- A text that carries lone surrogates by stand-ins, between quotes and escaped. -/
def quotedWith (si : StandIns) (s : String) : String :=
  let cs := s.toList
  let q := if cs.contains '\'' && !cs.contains '"' then '"' else '\''
  String.ofList (q :: (cs.flatMap (quoteCharWith si q) ++ [q]))

end MarkupTidy.Text
