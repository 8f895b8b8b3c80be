import MarkupTidy.Text.Integer
import MarkupTidy.Text.Surrogate
import MarkupTidy.Yaml.Fault
import MarkupTidy.Yaml.Token

/-!
# Yaml/Lex — cutting a YAML text into tokens

The lexer walks the text once, keeping the position (with line and column), how deep it is in
flow collections, the stack of block indentations, and the places where a *simple key* (a key
without `?`) may have started. A `:` that follows such a place turns it into a key: the lexer
then puts a `key` token, and a `blockMappingStart` when the key opens a deeper indentation, back
in front of the tokens of the key. A simple key must fit on one line and in 1024 characters; one
that starts a line of a block mapping is required, so a line that never reaches its `:` is
malformed.

Indentation closes blocks: a token left of the current indentation ends the blocks it leaves
(`blockEnd`). Tabs never indent, and a tab cannot start a token.

Every step of `next` consumes at least one character or ends the stream, so `tokens?` runs for
as many steps as the text has characters, plus one.

A reader takes tokens while lexing goes on: it has the lexer take a step when it asks for a token
not made yet, or for one where a simple key may still start, since a `:` further on may still put
a `key` in front of it. So the lexer keeps a log of its steps (`Fetch`): how many tokens there
were after each, where it stood, the simple keys still pending, and how deep the calls of the
step went (`Fetch.cost`). From the log a reader can tell at which of its requests each step was
taken (`Yaml.Node`), and, when lexing gave up, at which request the reason shows (`Lexed`).

A double-quoted scalar may name a lone surrogate by an escape; the lexer writes it by the
stand-in it is given (`Text.Surrogate`), or as `U+FFFD` when it is given none.
-/

namespace MarkupTidy.Yaml

open MarkupTidy.Text

/-! ## Characters -/

/-- The end of the text reads as this character; a text holding it is refused beforehand. -/
def endMark : Char := '\x00'

/-- A line break. -/
def isBreak (c : Char) : Bool :=
  c = '\r' || c = '\n' || c = '\x85' || c = '\u2028' || c = '\u2029'

/-- A line break or the end. -/
def isBreakZ (c : Char) : Bool := c = endMark || isBreak c

/-- Whether a text holds an empty line: two line breaks with only spaces and tabs between them,
`\r\n` counting as one break. -/
def emptyLineIn (cs : List Char) : Bool :=
  go cs false
where
  /-- Reads on, knowing whether only blanks came since the last break. -/
  go : List Char → Bool → Bool
    | [], _ => false
    | c :: rest, afterBreak =>
      if c = '\r' && rest.head? = some '\n' then go rest afterBreak
      else if isBreak c then afterBreak || go rest true
      else if c = ' ' || c = '\t' then go rest afterBreak
      else go rest false

/-- A space, a line break or the end (not a tab). -/
def isSpaceZ (c : Char) : Bool := c = ' ' || isBreakZ c

/-- A space, a tab, a line break or the end. -/
def isBlankZ (c : Char) : Bool := c = '\t' || isSpaceZ c

/-- A character of an anchor, a tag handle or a directive name. -/
def isWordChar (c : Char) : Bool := c.isAlphanum || c = '-' || c = '_'

/-- A hexadecimal digit. -/
def isHexDigit (c : Char) : Bool :=
  c.isDigit || ('a' ≤ c && c ≤ 'f') || ('A' ≤ c && c ≤ 'F')

/-- The value of a hexadecimal digit. -/
def hexValue (c : Char) : Nat :=
  if c.isDigit then c.toNat - '0'.toNat
  else if 'a' ≤ c && c ≤ 'f' then c.toNat - 'a'.toNat + 10
  else c.toNat - 'A'.toNat + 10

/-- A character that may stand in a tag. -/
def isUriChar (c : Char) : Bool := c.isAlphanum || "-;/?:@&=+$,_.!~*'()[]%".toList.contains c

/-- A character that the text may hold: tab, line feed, carriage return, the printable ASCII
characters, next line, and everything from `U+00A0` on except the surrogates and
`U+FFFE`–`U+FFFF`. -/
def isAllowed (c : Char) : Bool :=
  let n := c.toNat
  n = 0x09 || n = 0x0A || n = 0x0D || (0x20 ≤ n && n ≤ 0x7E) || n = 0x85 ||
    (0xA0 ≤ n && n ≤ 0xD7FF) || (0xE000 ≤ n && n ≤ 0xFFFD) || 0x10000 ≤ n

/-! ## The lexer's state -/

/-- A place where a simple key may have started. -/
structure SimpleKey where
  tokenNumber : Nat
  required : Bool
  index : Nat
  line : Nat
  column : Nat

/-- What a reader can tell after a step of the lexer: how many tokens there are, whether the
stream has ended, where the lexer stands, the simple keys still pending, and how many calls deep
the step went below the call that asked for it. -/
structure Fetch where
  count : Nat
  done : Bool
  pos : Nat
  line : Nat
  keys : List SimpleKey
  cost : Nat

/-- What a reader can tell before the lexer's first step: the stream has started. -/
def Fetch.initial : Fetch := ⟨1, false, 0, 0, [], 0⟩

/-- The token the first pending simple key starts at, of those not yet stale where the lexer
stands: a key must fit on its line and in 1024 characters. -/
def Fetch.pendingKey (f : Fetch) : Option Nat :=
  (f.keys.filter fun k => k.line == f.line && f.pos - k.index ≤ 1024).foldl
    (fun least k => match least with
      | some n => if k.tokenNumber < n then some k.tokenNumber else some n
      | none => some k.tokenNumber) none

/-- Whether a reader asking for the token at index `i` has the lexer take another step: the
stream has not ended, and the token is not made yet or may still begin a simple key. -/
def Fetch.wants (f : Fetch) (i : Nat) : Bool :=
  !f.done && (f.count ≤ i || f.pendingKey = some i)

/-- The state of the lexer. -/
structure Lexer where
  src : Array Char
  pos : Nat
  line : Nat
  column : Nat
  flowLevel : Int
  tokens : Array Token
  indent : Int
  indents : List Int
  allowSimpleKey : Bool
  simpleKeys : List (Int × SimpleKey)
  done : Bool
  standIns : Option StandIns
  log : Array Fetch

namespace Lexer

/-- The lexer at the start of a text, writing lone surrogates by the given stand-ins. -/
def start (src : Array Char) (si : Option StandIns) : Lexer :=
  ⟨src, 0, 0, 0, 0, #[.streamStart], -1, [], true, [], false, si, #[]⟩

/-- The character `k` places ahead. -/
def charAt (l : Lexer) (k : Nat) : Char := l.src.getD (l.pos + k) endMark

/-- Moves one character on, keeping line and column. -/
def step (l : Lexer) : Lexer :=
  let c := l.charAt 0
  let l' := { l with pos := l.pos + 1 }
  if isBreak c && !(c = '\r' && l'.charAt 0 = '\n') then { l' with line := l.line + 1, column := 0 }
  else if c = '\uFEFF' then l'
  else { l' with column := l.column + 1 }

/-- Moves `k` characters on. -/
def forward : Nat → Lexer → Lexer
  | 0, l => l
  | k + 1, l => forward k l.step

/-- The number of characters from `k` places ahead on that satisfy `p`. -/
def runFrom (l : Lexer) (p : Char → Bool) (k : Nat) : Nat :=
  if l.pos + k < l.src.size then
    if p (l.charAt k) then l.runFrom p (k + 1) else k
  else k
termination_by l.src.size - (l.pos + k)

end Lexer

/-- Lexing: a state and a way to fail. -/
abbrev LexM := ExceptT Fault (StateM Lexer)

/-- Gives up on a malformed text. -/
def malformed : LexM α := throw .malformed

/-- The current character. -/
def peek : LexM Char := return (← get).charAt 0

/-- The character `k` places ahead. -/
def peekAt (k : Nat) : LexM Char := return (← get).charAt k

/-- The next `k` characters. -/
def ahead (k : Nat) : LexM (List Char) := do
  let l ← get
  return (List.range k).map l.charAt

/-- Moves `k` characters on. -/
def forward (k : Nat) : LexM Unit := modify (Lexer.forward k)

/-- Takes the next `k` characters. -/
def take (k : Nat) : LexM (List Char) := do
  let cs ← ahead k
  forward k
  return cs

/-- Skips the characters that satisfy `p`. -/
def skipWhile (p : Char → Bool) : LexM Unit := do
  forward ((← get).runFrom p 0)

/-- Takes the characters that satisfy `p`. -/
def takeWhile (p : Char → Bool) : LexM (List Char) := do
  take ((← get).runFrom p 0)

/-- Reads a line break: `\r\n`, `\r`, `\n` and next line give `\n`, the line and paragraph
separators give themselves, and anything else gives nothing. -/
def lineBreak : LexM (List Char) := do
  let c ← peek
  if c = '\r' || c = '\n' || c = '\x85' then
    if c = '\r' && (← peekAt 1) = '\n' then forward 2 else forward 1
    return ['\n']
  else if c = '\u2028' || c = '\u2029' then
    forward 1
    return [c]
  else return []

/-- Whether the next characters are a document marker (`---` or `...`) standing alone. -/
def atDocumentMarker : LexM Bool := do
  let p ← ahead 3
  return (p = ['-', '-', '-'] || p = ['.', '.', '.']) && isBlankZ (← peekAt 3)

/-- Appends a token. -/
def emit (t : Token) : LexM Unit := modify fun l => { l with tokens := l.tokens.push t }

/-- Sets whether a simple key may start here. -/
def allowKey (b : Bool) : LexM Unit := modify fun l => { l with allowSimpleKey := b }

/-! ## Simple keys and indentation -/

/-- Forgets the places of simple keys that can no longer be keys; a required one is an error. -/
def staleKeys : LexM Unit := do
  let l ← get
  let stale := fun (k : SimpleKey) => k.line != l.line || 1024 < l.pos - k.index
  if l.simpleKeys.any fun (_, k) => stale k && k.required then malformed
  set { l with simpleKeys := l.simpleKeys.filter fun (_, k) => !stale k }

/-- Forgets the place of a simple key at the current flow level; a required one is an error. -/
def removeKey : LexM Unit := do
  let l ← get
  match l.simpleKeys.lookup l.flowLevel with
  | some k =>
    if k.required then malformed
    set { l with simpleKeys := l.simpleKeys.filter (·.1 != l.flowLevel) }
  | none => pure ()

/-- Remembers that a simple key may start here. -/
def saveKey : LexM Unit := do
  let l ← get
  let required := l.flowLevel == 0 && l.indent == l.column
  if l.allowSimpleKey then
    removeKey
    let l ← get
    let k : SimpleKey := ⟨l.tokens.size, required, l.pos, l.line, l.column⟩
    set { l with simpleKeys := (l.flowLevel, k) :: l.simpleKeys.filter (·.1 != l.flowLevel) }

/-- Closes the blocks indented deeper than `column` (only outside flow collections). -/
def unwindIndent (column : Int) : LexM Unit := do
  let l ← get
  if l.flowLevel != 0 then return
  let rec close : List Int → Int → Array Token → List Int × Int × Array Token
    | i :: is, cur, ts =>
      if column < cur then close is i (ts.push .blockEnd) else (i :: is, cur, ts)
    | [], cur, ts => ([], cur, ts)
  let (is, cur, ts) := close l.indents l.indent l.tokens
  set { l with indents := is, indent := cur, tokens := ts }

/-- Opens a deeper block at `column`, if it is deeper. -/
def addIndent (column : Int) : LexM Bool := do
  let l ← get
  if l.indent < column then
    set { l with indents := l.indent :: l.indents, indent := column }
    return true
  else return false

/-! ## Scalars -/

/-- The length of the next piece of a plain scalar. -/
def plainPieceLength (l : Lexer) : Nat :=
  let inFlow := l.flowLevel != 0
  let stops := fun (k : Nat) =>
    let c := l.charAt k
    let d := l.charAt (k + 1)
    isBlankZ c || (c = ':' && (isBlankZ d || (inFlow && ",[]\x7b\x7d".toList.contains d))) ||
      (inFlow && ",?[]\x7b\x7d".toList.contains c)
  go stops 0 (l.src.size - l.pos + 1)
where
  /-- Counts on until a stop, for at most `fuel` characters. -/
  go (stops : Nat → Bool) (k : Nat) : Nat → Nat
    | 0 => k
    | fuel + 1 => if stops k then k else go stops (k + 1) fuel

/-- The blanks after a piece of a plain scalar, as they join it to the next piece: spaces as
they are, and line breaks folded; `none` when a document marker follows a break. -/
def plainSpaces (fuel : Nat) : LexM (Option (List Char)) := do
  let ws ← takeWhile (· = ' ')
  if isBreak (← peek) then
    let first ← lineBreak
    allowKey true
    if ← atDocumentMarker then return none
    let rec breaks : Nat → List Char → LexM (Option (List Char))
      | 0, _ => malformed
      | n + 1, acc => do
        let c ← peek
        if c = ' ' then
          forward 1
          breaks n acc
        else if isBreak c then
          let b ← lineBreak
          if ← atDocumentMarker then return none
          breaks n (acc ++ b)
        else return some acc
    match ← breaks fuel [] with
    | none => return none
    | some bs =>
      let joint := if first != ['\n'] then first else if bs.isEmpty then [' '] else []
      return some (joint ++ bs)
  else return some ws

/-- A plain scalar. -/
def plainScalar : LexM Token := do
  let indent := (← get).indent + 1
  let fuel := (← get).src.size + 1
  let rec pieces : Nat → List Char → List Char → LexM (List Char)
    | 0, _, _ => malformed
    | n + 1, acc, spaces => do
      if (← peek) = '#' then return acc
      let len := plainPieceLength (← get)
      if len = 0 then return acc
      allowKey false
      let piece ← take len
      let acc := acc ++ spaces ++ piece
      match ← plainSpaces fuel with
      | none => return acc
      | some sp =>
        let l ← get
        if sp.isEmpty || l.charAt 0 = '#' || (l.flowLevel == 0 && (l.column : Int) < indent) then
          return acc
        pieces n acc sp
  let text ← pieces fuel [] []
  return .scalar (String.ofList text) true

/-- The character an escape letter of a double-quoted scalar stands for. -/
def escapeFor (c : Char) : Option Char :=
  match c with
  | '0' => some '\x00' | 'a' => some '\x07' | 'b' => some '\x08' | 't' => some '\t'
  | '\t' => some '\t' | 'n' => some '\n' | 'v' => some '\x0b' | 'f' => some '\x0c'
  | 'r' => some '\r' | 'e' => some '\x1b' | ' ' => some ' ' | '"' => some '"'
  | '\\' => some '\\' | '/' => some '/' | 'N' => some '\x85' | '_' => some '\xa0'
  | 'L' => some '\u2028' | 'P' => some '\u2029'
  | _ => none

/-- The number of hexadecimal digits after an escape letter that takes a code point. -/
def escapeWidth (c : Char) : Option Nat :=
  match c with
  | 'x' => some 2 | 'u' => some 4 | 'U' => some 8
  | _ => none

/-- The line breaks inside a quoted scalar after a first one; a document marker there is an
error. -/
def quotedBreaks (fuel : Nat) : LexM (List Char) := do
  let rec go : Nat → List Char → LexM (List Char)
    | 0, _ => malformed
    | n + 1, acc => do
      if ← atDocumentMarker then malformed
      skipWhile fun c => c = ' ' || c = '\t'
      if isBreak (← peek) then
        let b ← lineBreak
        go n (acc ++ b)
      else return acc
  go fuel []

/-- The text of a quoted scalar up to the next blank or quote. -/
def quotedRun (double : Bool) (fuel : Nat) : LexM (List Char) := do
  let rec go : Nat → List Char → LexM (List Char)
    | 0, _ => malformed
    | n + 1, acc => do
      let run ← takeWhile fun c => !("'\"\\".toList.contains c || isBlankZ c)
      let acc := acc ++ run
      let c ← peek
      if !double && c = '\'' && (← peekAt 1) = '\'' then
        forward 2
        go n (acc ++ ['\''])
      else if (double && c = '\'') || (!double && (c = '"' || c = '\\')) then
        forward 1
        go n (acc ++ [c])
      else if double && c = '\\' then
        forward 1
        let e ← peek
        match escapeFor e with
        | some r =>
          forward 1
          go n (acc ++ [r])
        | none =>
          match escapeWidth e with
          | some w =>
            forward 1
            let ds ← ahead w
            if !ds.all isHexDigit then malformed
            let code := ds.foldl (fun v d => v * 16 + hexValue d) 0
            if 0x10FFFF < code then
              throw (.refused .badValue "chr() arg not in range(0x110000)")
            forward w
            let standIns := (← get).standIns
            let written := if isSurrogate code then
                match standIns with
                | some si => si.char code
                | none => '\uFFFD'
              else Char.ofNat code
            go n (acc ++ [written])
          | none =>
            if isBreak e then
              let _ ← lineBreak
              let bs ← quotedBreaks fuel
              go n (acc ++ bs)
            else malformed
      else return acc
  go fuel []

/-- The blanks inside a quoted scalar, as they join its runs: spaces and tabs as they are, and
line breaks folded. -/
def quotedSpaces (fuel : Nat) : LexM (List Char) := do
  let ws ← takeWhile fun c => c = ' ' || c = '\t'
  let c ← peek
  if c = endMark then malformed
  else if isBreak c then
    let first ← lineBreak
    let bs ← quotedBreaks fuel
    let joint := if first != ['\n'] then first else if bs.isEmpty then [' '] else []
    return joint ++ bs
  else return ws

/-- A single- or double-quoted scalar. -/
def quotedScalar (double : Bool) : LexM Token := do
  let fuel := (← get).src.size + 1
  let quote ← peek
  forward 1
  let first ← quotedRun double fuel
  let rec more : Nat → List Char → LexM (List Char)
    | 0, _ => malformed
    | n + 1, acc => do
      if (← peek) = quote then return acc
      let sp ← quotedSpaces fuel
      let run ← quotedRun double fuel
      more n (acc ++ sp ++ run)
  let text ← more fuel first
  forward 1
  return .scalar (String.ofList text) false

/-- The indicators after `|` or `>`: whether to keep (`+`) or strip (`-`) the final line
breaks, and an explicit indentation from 1 to 9. -/
def blockIndicators : LexM (Option Bool × Option Nat) := do
  let digit := fun (c : Char) => if c.isDigit then some (c.toNat - '0'.toNat) else none
  let c ← peek
  let (chomp, inc) ← (do
    if c = '+' || c = '-' then
      forward 1
      match digit (← peek) with
      | some 0 => malformed
      | some d =>
        forward 1
        pure (some (c = '+'), some d)
      | none => pure (some (c = '+'), none)
    else
      match digit c with
      | some 0 => malformed
      | some d =>
        forward 1
        let c' ← peek
        if c' = '+' || c' = '-' then
          forward 1
          pure (some (c' = '+'), some d)
        else pure (none, some d)
      | none => pure (none, none) : LexM (Option Bool × Option Nat))
  if !isSpaceZ (← peek) then malformed
  return (chomp, inc)

/-- Skips spaces and a comment to the end of the line, which must come. -/
def ignoredLine : LexM Unit := do
  skipWhile (· = ' ')
  if (← peek) = '#' then skipWhile fun c => !isBreakZ c
  if !isBreakZ (← peek) then malformed
  let _ ← lineBreak

/-- Skips the spaces and line breaks before the first line of a block scalar whose indentation
is not given: the line breaks, and the deepest column reached. -/
def blockIndentation (fuel : Nat) : LexM (List Char × Nat) := do
  let rec go : Nat → List Char → Nat → LexM (List Char × Nat)
    | 0, _, _ => malformed
    | n + 1, acc, most => do
      let c ← peek
      if c = ' ' then
        forward 1
        go n acc (max most (← get).column)
      else if isBreak c then
        let b ← lineBreak
        go n (acc ++ b) most
      else return (acc, most)
  go fuel [] 0

/-- Skips the indentation (up to `indent` spaces) of lines of a block scalar, and the line
breaks of empty lines. -/
def blockBreaks (indent : Nat) (fuel : Nat) : LexM (List Char) := do
  let indentSpaces : LexM Unit := do
    let l ← get
    forward (min (indent - l.column) (l.runFrom (· = ' ') 0))
  indentSpaces
  let rec go : Nat → List Char → LexM (List Char)
    | 0, _ => malformed
    | n + 1, acc => do
      if isBreak (← peek) then
        let b ← lineBreak
        indentSpaces
        go n (acc ++ b)
      else return acc
  go fuel []

/-- A literal (`|`) or folded (`>`) block scalar. -/
def blockScalar (folded : Bool) : LexM Token := do
  let fuel := (← get).src.size + 1
  forward 1
  let (chomp, inc) ← blockIndicators
  ignoredLine
  let least : Nat := ((← get).indent + 1).toNat.max 1
  let (indent, breaks) ← (do
    match inc with
    | none =>
      let (bs, most) ← blockIndentation fuel
      pure (max least most, bs)
    | some i =>
      let ind := least + i - 1
      let bs ← blockBreaks ind fuel
      pure (ind, bs) : LexM (Nat × List Char))
  let rec lines :
      Nat → List Char → List Char → List Char → LexM (List Char × List Char × List Char)
    | 0, _, _, _ => malformed
    | n + 1, acc, breaks, lastBreak => do
      let l ← get
      if !(l.column = indent && l.charAt 0 != endMark) then return (acc, breaks, lastBreak)
      let acc := acc ++ breaks
      let leadingNonSpace := !(l.charAt 0 = ' ' || l.charAt 0 = '\t')
      let text ← takeWhile fun c => !isBreakZ c
      let acc := acc ++ text
      let lb ← lineBreak
      let bs ← blockBreaks indent fuel
      let l ← get
      if l.column = indent && l.charAt 0 != endMark then
        let c := l.charAt 0
        let acc :=
          if folded && lb = ['\n'] && leadingNonSpace && !(c = ' ' || c = '\t') then
            if bs.isEmpty then acc ++ [' '] else acc
          else acc ++ lb
        lines n acc bs lb
      else return (acc, bs, lb)
  let (body, trailing, lastBreak) ← lines fuel [] breaks []
  let body := if chomp != some false then body ++ lastBreak else body
  let body := if chomp = some true then body ++ trailing else body
  return .scalar (String.ofList body) false

/-! ## Anchors, tags and directives -/

/-- The name after `&` or `*`. -/
def anchorName : LexM String := do
  forward 1
  let name ← takeWhile isWordChar
  if name.isEmpty then malformed
  if !(isBlankZ (← peek) || "?:,]\x7d%@`".toList.contains (← peek)) then malformed
  return String.ofList name

/-- A tag handle: `!`, `!!` or `!word!`. -/
def tagHandle : LexM String := do
  if (← peek) != '!' then malformed
  let l ← get
  if l.charAt 1 = ' ' then return String.ofList (← take 1)
  let k := l.runFrom isWordChar 1
  if l.charAt k != '!' then malformed
  return String.ofList (← take (k + 1))

/-- The characters that `%hh` escapes stand for, read as UTF-8. -/
def uriEscapes (fuel : Nat) : LexM (List Char) := do
  let rec bytes : Nat → List UInt8 → LexM (List UInt8)
    | 0, _ => malformed
    | n + 1, acc => do
      if (← peek) != '%' then return acc
      forward 1
      let ds ← ahead 2
      if !ds.all isHexDigit then malformed
      forward 2
      bytes n (acc ++ [(ds.foldl (fun v d => v * 16 + hexValue d) 0).toUInt8])
  let bs ← bytes fuel []
  match String.fromUTF8? (ByteArray.mk bs.toArray) with
  | some s => return s.toList
  | none => malformed

/-- The characters of a tag after its handle, with `%hh` escapes read; there must be one. -/
def tagUri : LexM String := do
  let fuel := (← get).src.size + 1
  let rec go : Nat → List Char → Bool → LexM (List Char × Bool)
    | 0, _, _ => malformed
    | n + 1, acc, any => do
      let c ← peek
      if c = '%' then
        let e ← uriEscapes fuel
        go n (acc ++ e) true
      else if isUriChar c then
        forward 1
        go n (acc ++ [c]) true
      else return (acc, any)
  let (text, any) ← go fuel [] false
  if !any then malformed
  return String.ofList text

/-- A tag: `!<uri>`, a lone `!`, `!suffix` or `handle!suffix`. -/
def tagToken : LexM Token := do
  let l ← get
  let c := l.charAt 1
  let tok ← (do
    if c = '<' then
      forward 2
      let suffix ← tagUri
      if (← peek) != '>' then malformed
      forward 1
      pure (Token.tag none suffix)
    else if isBlankZ c then
      forward 1
      pure (Token.tag none "!")
    else
      let k := l.runFrom (fun c => !(isSpaceZ c || c = '!')) 1
      if l.charAt k = '!' then
        let handle ← tagHandle
        pure (Token.tag (some handle) (← tagUri))
      else
        forward 1
        pure (Token.tag (some "!") (← tagUri)) : LexM Token)
  if !isSpaceZ (← peek) then malformed
  return tok

/-- A decimal number of a `%YAML` directive. It is read as an integer text, so one of more than
`Text.digitLimit` digits is refused for its length. -/
def directiveNumber : LexM Nat := do
  let ds ← takeWhile Char.isDigit
  if ds.isEmpty then malformed
  if Text.digitLimit < ds.length then
    throw (.refused .badValue ((Text.IntegerFault.tooLong ds.length).message 10 ""))
  return ds.foldl (fun v d => v * 10 + (d.toNat - '0'.toNat)) 0

/-- A directive, from its `%` to the end of its line. -/
def directiveToken : LexM Token := do
  forward 1
  let name ← takeWhile isWordChar
  if name.isEmpty then malformed
  if !isSpaceZ (← peek) then malformed
  let d ← (do
    if name = "YAML".toList then
      skipWhile (· = ' ')
      let major ← directiveNumber
      if (← peek) != '.' then malformed
      forward 1
      let minor ← directiveNumber
      if !isSpaceZ (← peek) then malformed
      pure (Directive.version major minor)
    else if name = "TAG".toList then
      skipWhile (· = ' ')
      let handle ← tagHandle
      if (← peek) != ' ' then malformed
      skipWhile (· = ' ')
      let pfx ← tagUri
      if !isSpaceZ (← peek) then malformed
      pure (Directive.tagPrefix handle pfx)
    else
      skipWhile fun c => !isBreakZ c
      pure Directive.other : LexM Directive)
  ignoredLine
  return .directive d

/-! ## Tokens -/

/-- Skips spaces, comments and line breaks up to the next token; a line break outside flow
collections lets a simple key start. -/
def toNextToken (fuel : Nat) : LexM Unit := do
  let l ← get
  if l.pos = 0 && l.charAt 0 = '\uFEFF' then forward 1
  let rec go : Nat → LexM Unit
    | 0 => malformed
    | n + 1 => do
      skipWhile (· = ' ')
      if (← peek) = '#' then skipWhile fun c => !isBreakZ c
      let b ← lineBreak
      if b.isEmpty then return
      if (← get).flowLevel == 0 then allowKey true
      go n
  go fuel

/-- Whether the next character starts a plain scalar. -/
def startsPlain (l : Lexer) : Bool :=
  let c := l.charAt 0
  let blankNext := isBlankZ (l.charAt 1)
  !(isBlankZ c || "-?:,[]\x7b\x7d#&*!|>'\"%@`".toList.contains c) ||
    (!blankNext && (c = '-' || (l.flowLevel == 0 && (c = '?' || c = ':'))))

/-- An indicator of one character that opens or closes a flow collection or separates its
entries. -/
def flowIndicator (t : Token) (opens closes : Bool) : LexM Unit := do
  if opens then
    saveKey
    modify fun l => { l with flowLevel := l.flowLevel + 1 }
    allowKey true
  else if closes then
    removeKey
    modify fun l => { l with flowLevel := l.flowLevel - 1 }
    allowKey false
  else
    allowKey true
    removeKey
  forward 1
  emit t

/-- The `:` of a value: turns a remembered simple key into a key. -/
def valueIndicator : LexM Unit := do
  let l ← get
  match l.simpleKeys.lookup l.flowLevel with
  | some k =>
    set { l with simpleKeys := l.simpleKeys.filter (·.1 != l.flowLevel),
                 tokens := l.tokens.insertIdxIfInBounds k.tokenNumber .key }
    if l.flowLevel == 0 then
      if ← addIndent k.column then
        modify fun l =>
          { l with tokens := l.tokens.insertIdxIfInBounds k.tokenNumber .blockMappingStart }
    allowKey false
  | none =>
    if l.flowLevel == 0 then
      if !l.allowSimpleKey then malformed
      if ← addIndent l.column then emit .blockMappingStart
    allowKey (l.flowLevel == 0)
    removeKey
  forward 1
  emit .value

/-- Reads the next token (or tokens), and tells how many calls deep the step went: skipping to
the token goes three deep and closing blocks four; making a token goes deeper by its kind, six
for a flow collection's start where a simple key may begin, six or seven for a quoted scalar
(seven when it holds an empty line), seven for a block scalar, and seven for a tag or directive
with `%` escapes. -/
def next : LexM Nat := do
  toNextToken ((← get).src.size + 1)
  staleKeys
  let before := (← get).tokens.size
  unwindIndent (← get).column
  let base : Nat := if before < (← get).tokens.size then 4 else 3
  let l ← get
  let c := l.charAt 0
  let atLineStart := l.column = 0
  let marker := fun (m : Char) => atLineStart && l.charAt 1 = m && l.charAt 2 = m &&
    isBlankZ (l.charAt 3)
  let inFlow := l.flowLevel != 0
  let closing : LexM Nat := do
    let before := (← get).tokens.size
    unwindIndent (-1)
    return if before < (← get).tokens.size then 1 else 0
  let escapes := fun (start : Nat) => do
    let l ← get
    return if (l.src.extract start l.pos).contains '%' then 2 else 0
  let cost ← (do
    if c = endMark then
      let extra ← closing
      removeKey
      modify fun l => { l with allowSimpleKey := false, simpleKeys := [], done := true }
      emit .streamEnd
      pure (4 + extra)
    else if c = '%' && atLineStart then
      let _ ← closing
      removeKey
      allowKey false
      let d ← directiveToken
      emit d
      match d with
      | .directive (.tagPrefix _ _) => pure (6 + (← escapes l.pos))
      | _ => pure 5
    else if (c = '-' && marker '-') || (c = '.' && marker '.') then
      let extra ← closing
      removeKey
      allowKey false
      forward 3
      emit (if c = '-' then .documentStart else .documentEnd)
      pure (5 + extra)
    else if c = '[' || c = '{' then
      flowIndicator (if c = '[' then .flowSequenceStart else .flowMappingStart) true false
      pure (if l.allowSimpleKey then 6 else 5)
    else if c = ']' || c = '}' then
      flowIndicator (if c = ']' then .flowSequenceEnd else .flowMappingEnd) false true
      pure 5
    else if c = ',' then
      flowIndicator .flowEntry false false
      pure 4
    else if c = '-' && isBlankZ (l.charAt 1) then
      if !inFlow then
        if !l.allowSimpleKey then malformed
        if ← addIndent l.column then emit .blockSequenceStart
      allowKey true
      removeKey
      forward 1
      emit .blockEntry
      pure 4
    else if c = '?' && (inFlow || isBlankZ (l.charAt 1)) then
      if !inFlow then
        if !l.allowSimpleKey then malformed
        if ← addIndent l.column then emit .blockMappingStart
      allowKey (!inFlow)
      removeKey
      forward 1
      emit .key
      pure 4
    else if c = ':' && (inFlow || isBlankZ (l.charAt 1)) then
      valueIndicator
      pure 4
    else if c = '*' || c = '&' then
      saveKey
      allowKey false
      let name ← anchorName
      emit (if c = '*' then .alias name else .anchor name)
      pure 5
    else if c = '!' then
      saveKey
      allowKey false
      emit (← tagToken)
      pure (5 + (← escapes l.pos))
    else if (c = '|' || c = '>') && !inFlow then
      allowKey true
      removeKey
      emit (← blockScalar (c = '>'))
      pure 7
    else if c = '\'' || c = '"' then
      saveKey
      allowKey false
      emit (← quotedScalar (c = '"'))
      let body := (← get).src.extract l.pos (← get).pos
      pure (if emptyLineIn body.toList then 7 else 6)
    else if startsPlain l then
      saveKey
      allowKey false
      emit (← plainScalar)
      pure 5
    else malformed : LexM Nat)
  return if base < cost then cost else base

/-- The tokens of a text as a reader gets them: the tokens, the log of the lexer's steps, and,
when lexing gave up, why; when it did not, the tokens end with `streamEnd`. A reader that needs a
step after the logged ones meets the reason. -/
structure Lexed where
  tokens : Array Token
  fetches : Array Fetch
  stop : Option Fault

/-- What a reader can tell after `s` steps of the lexer. -/
def Lexed.after (lx : Lexed) (s : Nat) : Fetch :=
  if s = 0 then Fetch.initial else lx.fetches.getD (s - 1) Fetch.initial

/-- One step of the lexer, logged. -/
def logStep : LexM Unit := do
  let c ← next
  modify fun l =>
    let f : Fetch := ⟨l.tokens.size, l.done, l.pos, l.line, l.simpleKeys.map (·.2), c⟩
    { l with log := l.log.push f }

/-- The tokens of a text, its lone surrogates written by the given stand-ins. -/
def tokens? (si : Option StandIns) (text : List Char) : Lexed :=
  if !text.all isAllowed then ⟨#[], #[], some .malformed⟩
  else
    let src := text.toArray
    let rec run : Nat → LexM Unit
      | 0 => malformed
      | n + 1 => do
        if (← get).done then return
        logStep
        run n
    match (run (src.size + 2)).run.run (Lexer.start src si) with
    | (.ok (), l) => ⟨l.tokens, l.log, none⟩
    | (.error f, l) => ⟨l.tokens, l.log, some f⟩

/-- The characters of the scalars among some tokens. -/
def scalarChars (ts : Array Token) : List Char :=
  ts.toList.flatMap fun
    | .scalar text _ => text.toList
    | _ => []

/-- The stand-ins for the lone surrogates of a text: a block that neither the text nor any of its
scalars uses. -/
def standInsFor (text : List Char) : StandIns :=
  StandIns.avoiding (text ++ scalarChars (tokens? none text).tokens)

end MarkupTidy.Yaml
