import MarkupTidy.Json.Double
import MarkupTidy.Json.Value
import MarkupTidy.Text.Surrogate

/-!
# Json/Read — reading JSON text

A JSON text is one value with optional blanks (space, tab, line feed, carriage return) around
it. Besides the standard values, `NaN`, `Infinity` and `-Infinity` are read as numbers that are
not finite. Texts may not hold raw control characters; escapes are the standard ones, and a
high surrogate escape followed by a low one is one character.

When the text is not JSON, the reader reports the position, in characters, where it gave up:

* where a value was expected and none starts, including after a trailing comma in an array;
* where an object expected a quoted member name, a `:`, or a `,`;
* where an array expected a `,`;
* at the opening quote of a text that never ends, at a raw control character inside a text, or
  at a bad escape (`\` for a one-letter escape, the `u` before four hexadecimal digits for a
  `\u` escape);
* where extra characters follow the value.

An integer with more than 4300 digits is refused without a position, and so are arrays and
objects nested more than `nestingLimit` deep. A number with a fraction or an exponent that is too
large for a double reads as an infinity.

A text may hold lone surrogates, written as such or by `\u` escapes that do not pair up; the
reader carries them by stand-ins (`Text.Surrogate`), chosen to avoid every character the text
reads as (`readCodes`).
-/

namespace MarkupTidy.Json

open MarkupTidy.Text

/-- Why a text is not read. -/
inductive ReadFault where
  /-- Not JSON: the position where reading gave up. -/
  | at (pos : Nat)
  /-- An integer too long to convert. -/
  | tooLong
  /-- Arrays and objects nested too deep. -/
  | tooDeep
  deriving DecidableEq, Repr

/-- How deep arrays and objects may nest. -/
def nestingLimit : Nat := 964

/-- The blanks of JSON text. -/
def isJsonBlank (c : Char) : Bool := c = ' ' || c = '\t' || c = '\n' || c = '\r'

/-- The value of a hexadecimal digit. -/
def hexValue? (c : Char) : Option Nat :=
  if '0' ≤ c && c ≤ '9' then some (c.toNat - '0'.toNat)
  else if 'a' ≤ c && c ≤ 'f' then some (c.toNat - 'a'.toNat + 10)
  else if 'A' ≤ c && c ≤ 'F' then some (c.toNat - 'A'.toNat + 10)
  else none

section Reading

variable (s : Array Char) (lone : Nat → Char)

/-- The character at a position, or none past the end. -/
def at? (i : Nat) : Option Char := s[i]?

/-- The position after the blanks from `i`. -/
def skipBlanks (i : Nat) : Nat :=
  if h : i < s.size then
    if isJsonBlank s[i] then skipBlanks (i + 1) else i
  else i
termination_by s.size - i

/-- Four hexadecimal digits from `i`. -/
def hex4 (i : Nat) : Option Nat :=
  [0, 1, 2, 3].foldlM (fun acc k => (at? s (i + k) >>= hexValue?).map (acc * 16 + ·)) 0

/-- Reads the rest of a text whose opening quote is at `begin`, from `i`, the characters so far
given reversed: the text and the position after its closing quote. A lone surrogate escape is
written by `lone`. -/
def readString (begin : Nat) : Nat → Nat → List Char → Except ReadFault (String × Nat)
  | 0, _, _ => .error (.at begin)
  | fuel + 1, i, acc =>
    match at? s i with
    | none => .error (.at begin)
    | some '"' => .ok (String.ofList acc.reverse, i + 1)
    | some '\\' =>
      match at? s (i + 1) with
      | none => .error (.at begin)
      | some 'u' =>
        if s.size ≤ i + 6 then .error (.at (i + 1))
        else
          match hex4 s (i + 2) with
          | none => .error (.at (i + 1))
          | some c =>
            let single := fun (n : Nat) =>
              readString begin fuel (i + 6) ((if isSurrogate n then lone n else Char.ofNat n) :: acc)
            if 0xD800 ≤ c && c < 0xDC00 && i + 6 + 6 < s.size && at? s (i + 6) = some '\\' &&
                at? s (i + 7) = some 'u' then
              match hex4 s (i + 8) with
              | none => .error (.at (i + 7))
              | some c2 =>
                if 0xDC00 ≤ c2 && c2 < 0xE000 then
                  readString begin fuel (i + 12)
                    (Char.ofNat (0x10000 + (c - 0xD800) * 0x400 + (c2 - 0xDC00)) :: acc)
                else single c
            else single c
      | some e =>
        let decoded := match e with
          | '"' => some '"'
          | '\\' => some '\\'
          | '/' => some '/'
          | 'b' => some '\x08'
          | 'f' => some '\x0c'
          | 'n' => some '\n'
          | 'r' => some '\r'
          | 't' => some '\t'
          | _ => none
        match decoded with
        | some d => readString begin fuel (i + 2) (d :: acc)
        | none => .error (.at i)
    | some c =>
      if c.toNat ≤ 0x1f then .error (.at i)
      else readString begin fuel (i + 1) (c :: acc)

/-- The digits from `i`, and the position after them. -/
def digitsFrom (i : Nat) : List Char × Nat :=
  let ds := ((s.toList.drop i).takeWhile Char.isDigit)
  (ds, i + ds.length)

/-- The value of decimal digits. -/
def digitsValue (ds : List Char) : Nat := ds.foldl (fun v d => v * 10 + (d.toNat - '0'.toNat)) 0

/-- Reads a number at `start`: none when no number starts there. -/
def readNumber (start : Nat) : Except ReadFault (Option (Value × Nat)) :=
  let (negative, i) := if at? s start = some '-' then (true, start + 1) else (false, start)
  let intPart : Option (List Char × Nat) :=
    match at? s i with
    | some '0' => some (['0'], i + 1)
    | some c => if '1' ≤ c && c ≤ '9' then some (digitsFrom s i) else none
    | none => none
  match intPart with
  | none => .ok none
  | some (intDigits, i) =>
    let (fracDigits, i) :=
      if at? s i = some '.' && ((at? s (i + 1)).map Char.isDigit).getD false then
        digitsFrom s (i + 1)
      else ([], i)
    let (expo, i, isExp) : Int × Nat × Bool :=
      if at? s i = some 'e' || at? s i = some 'E' then
        let (sign, j) : Int × Nat := match at? s (i + 1) with
          | some '-' => (-1, i + 2)
          | some '+' => (1, i + 2)
          | _ => (1, i + 1)
        let (ds, k) := digitsFrom s j
        if ds.isEmpty then (0, i, false) else (sign * (digitsValue ds : Int), k, true)
      else (0, i, false)
    let sign : Int := if negative then -1 else 1
    if fracDigits.isEmpty && !isExp then
      if intDigits.length > 4300 then .error .tooLong
      else .ok (some (.int (sign * digitsValue intDigits), i))
    else
      let mantissa := sign * (digitsValue (intDigits ++ fracDigits) : Int)
      let exponent := expo - (fracDigits.length : Int)
      if decimalIsFinite mantissa exponent then .ok (some (.decimal mantissa exponent, i))
      else .ok (some (.nonFinite, i))

/-- Whether a word starts at a position. -/
def wordAt (i : Nat) (w : String) : Bool :=
  (s.toList.drop i).take w.length = w.toList

mutual

/-- Reads a value at `i`, inside `depth` arrays and objects: the value and the position after
it. -/
def readValue : Nat → Nat → Nat → Except ReadFault (Value × Nat)
  | 0, _, i => .error (.at i)
  | fuel + 1, depth, i =>
    match at? s i with
    | none => .error (.at i)
    | some '"' => do
      let (t, j) ← readString s lone i (s.size + 1) (i + 1) []
      return (.str t, j)
    | some '{' =>
      if nestingLimit ≤ depth then .error .tooDeep
      else readMembers fuel (depth + 1) (skipBlanks s (i + 1)) [] true
    | some '[' =>
      if nestingLimit ≤ depth then .error .tooDeep
      else readItems fuel (depth + 1) (skipBlanks s (i + 1)) [] true
    | some c =>
      if c = 'n' && wordAt s i "null" then .ok (.null, i + 4)
      else if c = 't' && wordAt s i "true" then .ok (.bool true, i + 4)
      else if c = 'f' && wordAt s i "false" then .ok (.bool false, i + 5)
      else if c = 'N' && wordAt s i "NaN" then .ok (.nonFinite, i + 3)
      else if c = 'I' && wordAt s i "Infinity" then .ok (.nonFinite, i + 8)
      else if c = '-' && wordAt s i "-Infinity" then .ok (.nonFinite, i + 9)
      else do
        match ← readNumber s i with
        | some r => return r
        | none => throw (.at i)

/-- Reads the members of an object from `i`, those so far given reversed. -/
def readMembers :
    Nat → Nat → Nat → List (String × Value) → Bool → Except ReadFault (Value × Nat)
  | 0, _, i, _, _ => .error (.at i)
  | fuel + 1, depth, i, acc, first =>
    if first && at? s i = some '}' then .ok (.obj acc.reverse, i + 1)
    else if at? s i != some '"' then .error (.at i)
    else do
      let (name, j) ← readString s lone i (s.size + 1) (i + 1) []
      let j := skipBlanks s j
      if at? s j != some ':' then throw (.at j)
      let (v, k) ← readValue fuel depth (skipBlanks s (j + 1))
      let k := skipBlanks s k
      match at? s k with
      | some '}' => return (.obj ((name, v) :: acc).reverse, k + 1)
      | some ',' => readMembers fuel depth (skipBlanks s (k + 1)) ((name, v) :: acc) false
      | _ => throw (.at k)

/-- Reads the items of an array from `i`, those so far given reversed. -/
def readItems : Nat → Nat → Nat → List Value → Bool → Except ReadFault (Value × Nat)
  | 0, _, i, _, _ => .error (.at i)
  | fuel + 1, depth, i, acc, first =>
    if first && at? s i = some ']' then .ok (.arr acc.reverse, i + 1)
    else do
      let (v, k) ← readValue fuel depth i
      let k := skipBlanks s k
      match at? s k with
      | some ']' => return (.arr (v :: acc).reverse, k + 1)
      | some ',' => readItems fuel depth (skipBlanks s (k + 1)) (v :: acc) false
      | _ => throw (.at k)

end

end Reading

/-- Reads a JSON text, its lone surrogate escapes written by `lone`. -/
def readWith (lone : Nat → Char) (s : Array Char) : Except ReadFault Value := do
  let (v, i) ← readValue s lone (2 * s.size + 2) 0 (skipBlanks s 0)
  let j := skipBlanks s i
  if j = s.size then return v else throw (.at j)

/-- Reads a JSON text given by its code points, lone surrogates among them: the value, whose
texts carry lone surrogates by stand-ins, and the stand-ins. A first reading, with every lone
surrogate as `U+FFFD`, finds the characters the stand-ins must avoid. -/
def readCodes (codes : List Nat) : Except ReadFault (Value × StandIns) := do
  let written := fun (lone : Nat → Char) =>
    (codes.map fun n => if isSurrogate n then lone n else Char.ofNat n).toArray
  let probe := fun (_ : Nat) => '\uFFFD'
  let first ← readWith probe (written probe)
  let si := StandIns.avoiding ((written probe).toList ++ first.chars)
  let v ← readWith si.char (written si.char)
  return (v, si)

/-- Reads a JSON text. -/
def read (text : String) : Except ReadFault (Value × StandIns) :=
  readCodes (text.toList.map Char.toNat)

end MarkupTidy.Json
