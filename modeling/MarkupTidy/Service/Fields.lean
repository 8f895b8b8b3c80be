import MarkupTidy.Json.Double
import MarkupTidy.Json.Value

/-!
# Service/Fields — checking the fields of a request

A request body is a JSON object whose fields are checked one by one, each problem reported with
the field it is in and its kind. The checks are lenient the way a form is:

* a text field takes only a text;
* an integer field takes an integer, a boolean (as 0 or 1), a number that is a whole number once
  read as a double (`2.0`, but not `2.5`, and no infinity) strictly between `-2^63` and `2^63`,
  or a text that reads as an integer: blanks around it, then a sign, digits with single
  underscores between them, and a fraction of zeros (`3.000`, but not `3.`) allowed; a text
  with more than 4300 digits after its leading zeros, once its blanks and zero fraction are
  dropped, is too long to read;
* a boolean field takes a boolean, the integers 0 and 1, the whole numbers 0.0 and 1.0, and the
  words `0 f n no off false` and `1 t y on yes true` in any case of letters; another integer or
  whole number is a boolean that does not parse when it fits in 64 bits, and no boolean at all
  when it does not.

An optional field may be absent or null.
-/

namespace MarkupTidy.Service

open MarkupTidy.Json

/-! ## Texts as integers and booleans -/

/-- The blanks trimmed from a text read as an integer. -/
def isTrimmed (c : Char) : Bool :=
  c = ' ' || ('\t' ≤ c && c ≤ '\r') || c = '\x85' || c = '\xa0' || c = '\u1680' ||
    ('\u2000' ≤ c && c ≤ '\u200a') || c = '\u2028' || c = '\u2029' || c = '\u202f' ||
    c = '\u205f' || c = '\u3000'

/-- ASCII digits with single underscores between them, as an integer. -/
def underscoredDigits (s : List Char) : Option Nat :=
  let groups := (String.ofList s).splitOn "_"
  if groups.all fun g => !g.isEmpty && g.all Char.isDigit then
    some ((s.filter Char.isDigit).foldl (fun v d => v * 10 + (d.toNat - '0'.toNat)) 0)
  else none

/-- An integer written with an optional sign and then `underscoredDigits`. -/
def signedDigits (s : List Char) : Option Int :=
  let (sign, rest) : Int × List Char := match s with
    | '-' :: r => (-1, r)
    | '+' :: r => (1, r)
    | r => (1, r)
  (underscoredDigits rest).map fun n => sign * n

/-- A text with a fraction of zeros after its first point dropped: `3.000` becomes `3`; a point
with nothing after it stays. -/
def dropZeroFraction (s : List Char) : List Char :=
  match s.splitOn '.' with
  | whole :: frac :: rest =>
    let after := frac ++ (rest.flatMap ('.' :: ·))
    if !after.isEmpty && after.all (· = '0') then whole else s
  | _ => s

/-- The digits of an integer text that count towards its length: those after its sign and its
leading zeros, underscores not counted. -/
def significantDigits (s : List Char) : Nat :=
  let rest := match s with
    | '-' :: r | '+' :: r => r
    | r => r
  ((rest.dropWhile fun c => c = '0' || c = '_').filter Char.isDigit).length

/-- A text read as an integer: the integer, or the kind of problem. A text with more than 4300
significant digits is too long to read, whether or not it is an integer. -/
def textAsInteger (t : String) : Except String Int :=
  let s := dropZeroFraction ((t.toList.dropWhile isTrimmed).reverse.dropWhile isTrimmed).reverse
  if 4300 < significantDigits s then .error "int_parsing_size"
  else
    match signedDigits s with
    | some n => .ok n
    | none => .error "int_parsing"

/-- A text read as a boolean, if it is one of the words. -/
def textAsBool (t : String) : Option Bool :=
  let w := t.toList.map Char.toLower
  if t = "0" || ["f", "n", "no", "off", "false"].any (·.toList = w) then some false
  else if t = "1" || ["t", "y", "on", "yes", "true"].any (·.toList = w) then some true
  else none

/-! ## Fields -/

/-- Whether an integer lies strictly between `-2^63` and `2^63`, the range in which a double is
taken as a 64-bit integer. -/
def withinWord (n : Int) : Bool := -(Nat.pow 2 63 : Int) < n && n < (Nat.pow 2 63 : Int)

/-- Whether an integer fits in 64 bits. -/
def fitsWord (n : Int) : Bool := -(Nat.pow 2 63 : Int) ≤ n && n < (Nat.pow 2 63 : Int)

/-- A required text field: the text, or the kind of problem. -/
def textField : Option Value → Except String String
  | none => .error "missing"
  | some (.str s) => .ok s
  | some _ => .error "string_type"

/-- An integer value: the integer, or the kind of problem. -/
def integerValue : Value → Except String Int
  | .int n => .ok n
  | .bool b => .ok (if b then 1 else 0)
  | .decimal m e =>
    match decimalAsInteger m e with
    | none => .error "finite_number"
    | some none => .error "int_from_float"
    | some (some n) => if withinWord n then .ok n else .error "int_parsing_size"
  | .nonFinite => .error "finite_number"
  | .str s => textAsInteger s
  | _ => .error "int_type"

/-- An optional integer field that must be at least zero. -/
def widthField : Option Value → Except String (Option Int)
  | none | some .null => .ok none
  | some v => do
    let n ← integerValue v
    if n < 0 then throw "greater_than_equal"
    return some n

/-- An optional boolean field. -/
def switchField : Option Value → Except String (Option Bool)
  | none | some .null => .ok none
  | some (.bool b) => .ok (some b)
  | some (.str s) =>
    match textAsBool s with
    | some b => .ok (some b)
    | none => .error "bool_parsing"
  | some (.int n) =>
    if !fitsWord n then .error "bool_type"
    else if n = 0 then .ok (some false) else if n = 1 then .ok (some true)
    else .error "bool_parsing"
  | some (.decimal m e) =>
    match decimalAsInteger m e with
    | some (some n) =>
      if !withinWord n then .error "bool_type"
      else if n = 0 then .ok (some false) else if n = 1 then .ok (some true)
      else .error "bool_parsing"
    | _ => .error "bool_type"
  | some _ => .error "bool_type"

end MarkupTidy.Service
