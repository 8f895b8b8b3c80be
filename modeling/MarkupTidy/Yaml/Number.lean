import MarkupTidy.Text.Case
import MarkupTidy.Text.Double
import MarkupTidy.Text.Integer
import MarkupTidy.Yaml.Fault

/-!
# Yaml/Number — reading the literals of typed scalars

The literals of explicitly or implicitly typed scalars read as follows.

* An integer drops its underscores and an optional sign; then `0` is zero, `0b…` is binary,
  `0x…` hexadecimal, any other leading `0` octal, `a:b:c` base 60 with decimal parts, and
  anything else decimal (`Text.Integer`).
* A float drops its underscores, is read in lower case (`Text.lowerText`) with an optional
  sign; then `.inf` and `.nan` are infinite and not a number, `a:b:c` is base 60 with float parts, and anything else is
  a decimal float: blanks, a sign, digits with an optional point and exponent, or `inf`,
  `infinity`, `nan`, read as a double (`Text.Double`). The places of a base-60 float are added up
  in double arithmetic, so `1:-60` is zero, and a place whose power of sixty is beyond every
  double is refused. Only whether the float is zero matters to a reader of settings.

The words of a refusal quote the text with its lone surrogates written as such (`StandIns`).
-/

namespace MarkupTidy.Yaml

open MarkupTidy.Text

/-- How a typed literal is refused: the kind and the words. -/
abbrev Refused := Refusal × String

/-- The words of a refused empty literal. -/
def emptyLiteral : Refused := (.empty, "string index out of range")

/-- A refused integer text in a base. -/
def badInteger (si : StandIns) (base : Nat) (text : String) (f : IntegerFault) : Refused :=
  (.badValue, f.messageWith (quotedWith si) base text)

/-- An integer in a base, or its refusal. -/
def integerIn (si : StandIns) (base : Nat) (text : List Char) : Except Refused Int :=
  let s := String.ofList text
  match readInteger base s with
  | .ok n => .ok n
  | .error f => .error (badInteger si base s f)

/-- The value of an integer literal. -/
def intLiteral (si : StandIns) (text : String) : Except Refused Int := do
  let v := text.toList.filter (· != '_')
  let (sign, v) ← match v with
    | [] => throw emptyLiteral
    | '-' :: r => pure ((-1 : Int), r)
    | '+' :: r => pure (1, r)
    | r => pure (1, r)
  match v with
  | [] => throw emptyLiteral
  | ['0'] => return 0
  | '0' :: 'b' :: r => return sign * (← integerIn si 2 r)
  | '0' :: 'x' :: r => return sign * (← integerIn si 16 r)
  | '0' :: r => return sign * (← integerIn si 8 ('0' :: r))
  | _ =>
    if v.contains ':' then
      let parts := (String.ofList v).splitOn ":"
      let mut total : Int := 0
      for p in parts do
        total := total * 60 + (← integerIn si 10 p.toList)
      return sign * total
    else return sign * (← integerIn si 10 v)

/-! ## Floats -/

/-- A run of ASCII digits with single underscores between them: the digits and the rest. -/
def digitPart (s : List Char) : Option (List Char × List Char) :=
  match s with
  | d :: _ =>
    if d.isDigit then
      let rec go : List Char → List Char × List Char
        | c :: r =>
          if c.isDigit then let (ds, rest) := go r; (c :: ds, rest)
          else if c = '_' then
            match r with
            | e :: _ => if e.isDigit then go r else ([], c :: r)
            | [] => ([], [c])
          else ([], c :: r)
        | [] => ([], [])
      some (go s)
    else none
  | [] => none

/-- The exponent part `e±digits` of a decimal float, or nothing. -/
def exponentPart : List Char → Option (Int × List Char)
  | e :: r =>
    if e = 'e' || e = 'E' then
      let (neg, r) := match r with
        | '-' :: r' => (true, r')
        | '+' :: r' => (false, r')
        | r' => (false, r')
      (digitPart r).map fun (ds, rest) =>
        let n : Int := ds.foldl (fun v d => v * 10 + (d.toNat - '0'.toNat)) 0
        (if neg then -n else n, rest)
    else some (0, e :: r)
  | [] => some (0, [])

/-- The number a run of ASCII digits writes. -/
def digitsValue (digits : List Char) : Nat :=
  digits.foldl (fun v d => v * 10 + (d.toNat - '0'.toNat)) 0

/-- A decimal float: blanks, a sign, then digits with an optional point and exponent, or one of
the words `inf`, `infinity` and `nan` in any case, then blanks; the double it stands for. -/
def decimalFloat (text : String) : Option Double :=
  let s := (asciiForm text.toList).dropWhile isNumberBlank
  let s := (s.reverse.dropWhile isNumberBlank).reverse
  let (negative, s) := match s with
    | '+' :: r => (false, r)
    | '-' :: r => (true, r)
    | r => (false, r)
  let lower := s.map Char.toLower
  if lower = "inf".toList || lower = "infinity".toList then some (.infinite negative)
  else if lower = "nan".toList then some .nan
  else
    let (intDigits, rest) := (digitPart s).getD ([], s)
    let (fracDigits, rest) := match rest with
      | '.' :: r => match digitPart r with
        | some (ds, r') => (ds, r')
        | none => ([], r)
      | r => ([], r)
    if intDigits.isEmpty && fracDigits.isEmpty then none
    else
      match exponentPart rest with
      | some (e, []) =>
        some (Double.ofDecimal negative (digitsValue (intDigits ++ fracDigits))
          (e - fracDigits.length))
      | _ => none

/-- The words of a refused float text. -/
def badFloat (si : StandIns) (text : String) : Refused :=
  (.badValue, "could not convert string to float: " ++ quotedWith si text)

/-- The words of a base-60 place too large for a double. -/
def placeTooLarge : Refused := (.tooLarge, "int too large to convert to float")

/-- The value of base-60 float places, the least significant first: each place is multiplied
by its power of sixty, which is first made a double and must fit one, and the products are
added up from the least significant. -/
def sexagesimal (places : List Double) : Except Refused Double :=
  let rec go : List Double → Nat → Double → Except Refused Double
    | [], _, value => .ok value
    | d :: ds, base, value =>
      match Double.ofNat base with
      | .infinite _ => .error placeTooLarge
      | b => go ds (base * 60) (value.add (d.mul b))
  go places 1 (.finite false 0 0)

/-- Whether a float literal is zero, or its refusal. A literal of base-60 places reads every
place before adding them up. -/
def floatLiteralIsZero (si : StandIns) (text : String) : Except Refused Bool := do
  let v := (lowerText (String.ofList (text.toList.filter (· != '_')))).toList
  let v ← match v with
    | [] => throw emptyLiteral
    | '-' :: r => pure r
    | '+' :: r => pure r
    | r => pure r
  if v = ".inf".toList || v = ".nan".toList then return false
  if v.contains ':' then
    let places ← ((String.ofList v).splitOn ":").mapM fun p =>
      match decimalFloat p with
      | some d => pure d
      | none => throw (badFloat si p)
    return (← sexagesimal places.reverse).isZero
  match decimalFloat (String.ofList v) with
  | some d => return d.isZero
  | none => throw (badFloat si (String.ofList v))

end MarkupTidy.Yaml
