import MarkupTidy.Text.Blank
import MarkupTidy.Text.Digits
import MarkupTidy.Text.Quote

/-!
# Text/Integer — reading an integer written in a base

An integer is written as: blanks (`isNumberBlank`), an optional sign, for bases 2, 8 and 16 an optional `0b`, `0o`
or `0x` (in either case) that may be followed by one underscore, then digits of the base with
single underscores between them, then blanks. Digits may be the decimal digits of any script,
and letters stand for the digits from ten up.

A decimal text with more than 4300 digits is refused for its length (`digitLimit`), and an integer
with more digits than that is not written out in decimal either (`decimalText?`).
-/

namespace MarkupTidy.Text

/-- Why a text is not an integer. -/
inductive IntegerFault where
  /-- The text is not an integer in the base. -/
  | malformed
  /-- The text has more decimal digits than `digitLimit`. -/
  | tooLong (digits : Nat)
  deriving DecidableEq, Repr

/-- The most decimal digits an integer text may have. -/
def digitLimit : Nat := 4300

/-- The blanks that may stand around a number: the space and the controls from tab to carriage
return. -/
def isNumberBlank (c : Char) : Bool :=
  c = ' ' || (9 ≤ c.toNat && c.toNat ≤ 13)

/-- ASCII characters before the delete stay as they are; beyond them blanks become spaces,
decimal digits of every script become ASCII digits, and everything else becomes `?`, which is no
digit. So an information separator is kept, and is neither a blank nor a digit of a number. -/
def asciiForm (cs : List Char) : List Char :=
  cs.map fun c =>
    if c.toNat < 127 then c
    else if isBlank c then ' '
    else match decimalValue? c with
      | some d => Char.ofNat ('0'.toNat + d)
      | none => '?'

/-- The letter that marks a base after a leading zero. -/
def baseMark (base : Nat) : Option Char :=
  if base = 16 then some 'x' else if base = 8 then some 'o' else if base = 2 then some 'b'
  else none

/-- Drops a leading `0x`, `0o` or `0b` that names the base, and one underscore after it. -/
def dropBaseMark (base : Nat) : List Char → List Char
  | '0' :: m :: rest =>
    if baseMark base = some m.toLower then
      match rest with
      | '_' :: more => more
      | _ => rest
    else '0' :: m :: rest
  | cs => cs

/-- The digits of a base at the head of a text with single underscores between them: their
values, most significant first, and the rest of the text; `none` for a doubled or trailing
underscore. -/
def digitRun (base : Nat) : List Char → Bool → Option (List Nat × List Char)
  | [], afterUnderscore => if afterUnderscore then none else some ([], [])
  | c :: rest, afterUnderscore =>
    if c = '_' then
      if afterUnderscore then none else digitRun base rest true
    else
      match asciiDigitValue? c with
      | some d =>
        if d < base then (digitRun base rest false).map fun (ds, r) => (d :: ds, r)
        else if afterUnderscore then none else some ([], c :: rest)
      | none => if afterUnderscore then none else some ([], c :: rest)

/-- The integer a text writes in a base. -/
def readInteger (base : Nat) (s : String) : Except IntegerFault Int :=
  let t := (asciiForm s.toList).dropWhile isNumberBlank
  let (negative, t) := match t with
    | '+' :: r => (false, r)
    | '-' :: r => (true, r)
    | r => (false, r)
  let t := dropBaseMark base t
  match t with
  | '_' :: _ => .error .malformed
  | _ =>
    match digitRun base t false with
    | none => .error .malformed
    | some (ds, rest) =>
      if ds.isEmpty then .error .malformed
      else if base = 10 && digitLimit < ds.length then .error (.tooLong ds.length)
      else if !(rest.all isNumberBlank) then .error .malformed
      else
        let n : Nat := ds.foldl (fun acc d => acc * base + d) 0
        .ok (if negative then -(n : Int) else n)

/-- The words a refused integer text reports, the text quoted by `quote`. -/
def IntegerFault.messageWith (quote : String → String) (base : Nat) (s : String) :
    IntegerFault → String
  | .malformed =>
    "invalid literal for int() with base " ++ toString base ++ ": " ++
      String.ofList ((quote s).toList.take 200)
  | .tooLong n =>
    "Exceeds the limit (" ++ toString digitLimit ++
      " digits) for integer string conversion: value has " ++ toString n ++
      " digits; use sys.set_int_max_str_digits() to increase the limit"

/-- An integer written in decimal, when it has at most `digitLimit` digits. -/
def decimalText? (n : Int) : Option String :=
  let digits := toString n.natAbs
  if digitLimit < digits.length then none else some (toString n)

/-- The words reported when an integer has too many digits to be written in decimal. -/
def tooLongToWrite : String :=
  "Exceeds the limit (" ++ toString digitLimit ++
    " digits) for integer string conversion; use sys.set_int_max_str_digits() to increase the limit"

/-- The words a refused integer text reports. -/
def IntegerFault.message (base : Nat) (s : String) (f : IntegerFault) : String :=
  f.messageWith quoted base s

end MarkupTidy.Text
