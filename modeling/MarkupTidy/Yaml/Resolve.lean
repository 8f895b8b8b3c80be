/-!
# Yaml/Resolve — the type a plain scalar stands for

A scalar written without quotes and without a tag gets its type from its text, by the rules of
YAML 1.1. The first character picks the candidate types, tried in this order: boolean, float,
integer, merge key, null, timestamp, value key, and the reserved `!`, `&`, `*`; the first whose
form the whole text has wins, and a text of no such form is a string. A single line feed at the
very end is ignored when matching forms.

* booleans: `yes no true false on off`, in lower case, capitalised or in capitals;
* integers: binary `0b…`, octal `0…`, decimal, hexadecimal `0x…`, and base 60 `1:30`, all with
  an optional sign and with `_` allowed among the digits;
* floats: with a point, optionally an exponent with a signed power, base 60 with a point,
  `.inf` and `.nan` in three spellings;
* null: `~`, `null` in three spellings, and the empty text;
* timestamps: a date `2001-12-14`, optionally with a time and a zone.
-/

namespace MarkupTidy.Yaml

/-! ## Tags -/

/-- The tag of a type of the YAML 1.1 repository. -/
def coreTag (name : String) : String := "tag:yaml.org,2002:" ++ name

/-- The tag of strings, sequences and mappings, the types of what carries no other. -/
def strTag : String := coreTag "str"
def seqTag : String := coreTag "seq"
def mapTag : String := coreTag "map"

/-! ## Forms -/

/-- An ASCII digit. -/
def isDigitChar (c : Char) : Bool := c.isDigit

/-- Drops an optional sign. -/
def dropSign : List Char → List Char
  | '+' :: r => r
  | '-' :: r => r
  | r => r

/-- Drops base-60 groups, at least one, by counting characters. -/
def sexagesimalRest (s : List Char) : Option (List Char) :=
  let rec go (fuel : Nat) (s : List Char) (any : Bool) : Option (List Char) :=
    match fuel, s with
    | fuel + 1, ':' :: a :: b :: r =>
      if a.isDigit && b.isDigit && a ≤ '5' then go fuel r true
      else if a.isDigit then go fuel (b :: r) true
      else if any then some s else none
    | fuel + 1, ':' :: [a] => if a.isDigit then go fuel [] true else if any then some s else none
    | _, s => if any then some s else none
  go s.length s false

/-- An exponent `e±digits`, or nothing. -/
def exponentOk : List Char → Bool
  | [] => true
  | e :: sgn :: d :: r =>
    (e = 'e' || e = 'E') && (sgn = '+' || sgn = '-') && (d :: r).all isDigitChar
  | _ => false

/-- The form of a float. -/
def floatForm (s : List Char) : Bool :=
  let body := dropSign s
  let signed := body.length != s.length
  match body with
  | '.' :: rest =>
    (rest = "inf".toList || rest = "Inf".toList || rest = "INF".toList) ||
      (!signed && (rest = "nan".toList || rest = "NaN".toList || rest = "NAN".toList)) ||
      (!signed && match rest with
        | d :: more =>
          d.isDigit && exponentOk (more.dropWhile fun c => c.isDigit || c = '_')
        | [] => false)
  | d :: rest =>
    d.isDigit &&
      (let afterInt := rest.dropWhile fun c => c.isDigit || c = '_'
       (match afterInt with
        | '.' :: frac => exponentOk (frac.dropWhile fun c => c.isDigit || c = '_')
        | _ => false) ||
       (match sexagesimalRest afterInt with
        | some ('.' :: frac) => frac.all fun c => c.isDigit || c = '_'
        | _ => false))
  | [] => false

/-- The form of an integer. -/
def intForm (s : List Char) : Bool :=
  match dropSign s with
  | '0' :: 'b' :: r => !r.isEmpty && r.all fun c => c = '0' || c = '1' || c = '_'
  | '0' :: 'x' :: r => !r.isEmpty && r.all fun c => isHexChar c || c = '_'
  | ['0'] => true
  | '0' :: r => !r.isEmpty && r.all fun c => ('0' ≤ c && c ≤ '7') || c = '_'
  | d :: r =>
    '1' ≤ d && d ≤ '9' &&
      (let afterInt := r.dropWhile fun c => c.isDigit || c = '_'
       afterInt.isEmpty || sexagesimalRest afterInt = some [])
  | [] => false
where
  /-- A hexadecimal digit. -/
  isHexChar (c : Char) : Bool := c.isDigit || ('a' ≤ c && c ≤ 'f') || ('A' ≤ c && c ≤ 'F')

/-- The form of a boolean. -/
def boolForm (s : List Char) : Bool :=
  ["yes", "Yes", "YES", "no", "No", "NO", "true", "True", "TRUE", "false", "False", "FALSE",
    "on", "On", "ON", "off", "Off", "OFF"].any fun w => w.toList = s

/-- The form of null. -/
def nullForm (s : List Char) : Bool :=
  s = [] || s = ['~'] || s = "null".toList || s = "Null".toList || s = "NULL".toList

/-- `count` digits at the head, then the rest. -/
def digitsThen (count : Nat) (s : List Char) : Option (List Char) :=
  if (s.take count).length = count && (s.take count).all isDigitChar then some (s.drop count)
  else none

/-- One or two digits at the head, then the rest. -/
def oneOrTwoDigits : List Char → Option (List Char)
  | a :: b :: r => if a.isDigit then (if b.isDigit then some r else some (b :: r)) else none
  | [a] => if a.isDigit then some [] else none
  | [] => none

/-- The zone after a time: blanks then `Z` or a signed hour with optional minutes. -/
def zoneOk (s : List Char) : Bool :=
  match s.dropWhile fun c => c = ' ' || c = '\t' with
  | ['Z'] => true
  | sgn :: r =>
    (sgn = '+' || sgn = '-') &&
      match oneOrTwoDigits r with
      | some [] => true
      | some (':' :: m) => digitsThen 2 m = some []
      | _ => false
  | [] => false

/-- The form of a timestamp. -/
def timestampForm (s : List Char) : Bool :=
  let short := match digitsThen 4 s with
    | some ('-' :: r) => match digitsThen 2 r with
      | some ('-' :: r') => digitsThen 2 r' = some []
      | _ => false
    | _ => false
  let long := match digitsThen 4 s with
    | some ('-' :: r) =>
      match oneOrTwoDigits r with
      | some ('-' :: r) =>
        match oneOrTwoDigits r with
        | some (sep :: r) =>
          let r := if sep = 'T' || sep = 't' then some r
            else if sep = ' ' || sep = '\t' then some (r.dropWhile fun c => c = ' ' || c = '\t')
            else none
          match r.bind oneOrTwoDigits with
          | some (':' :: r) =>
            match digitsThen 2 r with
            | some (':' :: r) =>
              match digitsThen 2 r with
              | some r =>
                let r := match r with
                  | '.' :: f => f.dropWhile isDigitChar
                  | r => r
                r.isEmpty || zoneOk r
              | none => false
            | _ => false
          | _ => false
        | _ => false
      | _ => false
    | _ => false
  short || long

/-- Whether a text has a form, where a single final line feed does not count. -/
def hasForm (form : List Char → Bool) (s : List Char) : Bool :=
  form s || (s.getLast? = some '\n' && form s.dropLast)

/-- The tag a plain scalar's text stands for. -/
def implicitTag (text : String) : String :=
  let s := text.toList
  let candidates : List (String × (List Char → Bool) × List Char) :=
    [("bool", boolForm, "yYnNtTfFoO".toList),
     ("float", floatForm, "-+0123456789.".toList),
     ("int", intForm, "-+0123456789".toList),
     ("merge", (· = ['<', '<']), ['<']),
     ("null", nullForm, "~nN".toList),
     ("timestamp", timestampForm, "0123456789".toList),
     ("value", (· = ['=']), ['=']),
     ("yaml", fun s => s = ['!'] || s = ['&'] || s = ['*'], "!&*".toList)]
  match s with
  | [] => coreTag "null"
  | c :: _ =>
    match candidates.find? fun (_, form, firsts) => firsts.contains c && hasForm form s with
    | some (name, _, _) => coreTag name
    | none => strTag

end MarkupTidy.Yaml
