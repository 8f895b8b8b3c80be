/-!
# Json/Encoding — the character encoding of JSON bytes

JSON sent as bytes may be written in UTF-8, UTF-16 or UTF-32, and the first bytes tell which
(`Encoding.detect`): a byte order mark names its encoding; otherwise, of four bytes or more, a
zero first byte means big-endian UTF-16 when the second byte is not zero and big-endian UTF-32
when it is, and a zero second byte means little-endian UTF-16 when the third or fourth byte is
not zero and little-endian UTF-32 when both are; of exactly two bytes, a zero first byte means
big-endian UTF-16 and a zero second byte little-endian UTF-16; anything else is UTF-8.

Decoding gives code points, lone surrogates among them (`Encoding.decode`). In UTF-16 a high
surrogate unit followed by a low one is one code point and any other surrogate unit stands
alone; in UTF-32 each unit is a code point, and one past `U+10FFFF` does not decode. UTF-16 of an
odd number of bytes, or UTF-32 of a number of bytes that is no multiple of four, does not decode.
A byte order mark is not part of the text.
-/

namespace MarkupTidy.Json

/-- An encoding of JSON bytes: whether UTF-16 and UTF-32 are big-endian, and whether a byte
order mark comes first. -/
inductive Encoding where
  | utf8 (marked : Bool)
  | utf16 (bigEndian marked : Bool)
  | utf32 (bigEndian marked : Bool)
  deriving DecidableEq, Repr

/-- Whether a list of bytes starts with the given ones. -/
def startsWithBytes (bs pre : List UInt8) : Bool := pre.isPrefixOf bs

/-- The encoding the first bytes of JSON tell. -/
def Encoding.detect (bs : List UInt8) : Encoding :=
  if startsWithBytes bs [0x00, 0x00, 0xFE, 0xFF] then .utf32 true true
  else if startsWithBytes bs [0xFF, 0xFE, 0x00, 0x00] then .utf32 false true
  else if startsWithBytes bs [0xFE, 0xFF] then .utf16 true true
  else if startsWithBytes bs [0xFF, 0xFE] then .utf16 false true
  else if startsWithBytes bs [0xEF, 0xBB, 0xBF] then .utf8 true
  else
    match bs with
    | b0 :: b1 :: b2 :: b3 :: _ =>
      if b0 = 0 then (if b1 != 0 then .utf16 true false else .utf32 true false)
      else if b1 = 0 then (if b2 != 0 || b3 != 0 then .utf16 false false else .utf32 false false)
      else .utf8 false
    | [b0, b1] =>
      if b0 = 0 then .utf16 true false
      else if b1 = 0 then .utf16 false false
      else .utf8 false
    | _ => .utf8 false

/-- The units of `width` bytes of a list of bytes, in the given byte order; none when the
bytes do not fill whole units. -/
def units (width : Nat) (bigEndian : Bool) (bs : List UInt8) : Option (List Nat) :=
  if bs.length % width != 0 then none
  else
    some (((List.range (bs.length / width)).map fun k =>
      let unit := (bs.drop (k * width)).take width
      let ordered := if bigEndian then unit else unit.reverse
      ordered.foldl (fun v b => v * 256 + b.toNat) 0))

/-- Code points from UTF-16 units: a high surrogate and a low one after it make one code point,
and any other surrogate stands alone. -/
def joinSurrogates : List Nat → List Nat
  | hi :: lo :: rest =>
    if 0xD800 ≤ hi && hi < 0xDC00 && 0xDC00 ≤ lo && lo < 0xE000 then
      (0x10000 + (hi - 0xD800) * 0x400 + (lo - 0xDC00)) :: joinSurrogates rest
    else hi :: joinSurrogates (lo :: rest)
  | units => units

/-- The code points of JSON bytes in an encoding, or none when they do not decode. UTF-8 bytes
are those of `text`, which they were made from. -/
def Encoding.decode (text : String) (bs : List UInt8) : Encoding → Option (List Nat)
  | .utf8 marked =>
    let cs := text.toList.map Char.toNat
    some (if marked then cs.drop 1 else cs)
  | .utf16 big marked => (units 2 big (bs.drop (if marked then 2 else 0))).map joinSurrogates
  | .utf32 big marked => do
    let us ← units 4 big (bs.drop (if marked then 4 else 0))
    if us.all (· ≤ 0x10FFFF) then some us else none

/-- The code points of a text sent as JSON bytes (its UTF-8 bytes), or none when the encoding
they tell does not decode them. -/
def codePointsSent (text : String) : Option (List Nat) :=
  let bs := text.toUTF8.toList
  (Encoding.detect bs).decode text bs

end MarkupTidy.Json
