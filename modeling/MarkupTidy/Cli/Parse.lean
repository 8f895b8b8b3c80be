import MarkupTidy.Cli.Grammar
import MarkupTidy.Text.Digits
import MarkupTidy.Text.Quote

/-!
# Cli/Parse — reading a command line by a grammar

Each word of a command line is first classed: `--` ends the options, and every word after it is
an operand; a word naming an option (exactly, with `=value`, by an unambiguous prefix of a long
name, or as a short name with its value or more short flags run on) is an option; a word that
starts with `-` but names none is an unknown option, unless it is a negative number or holds a
blank; anything else is an operand. The classes make a pattern of letters, `O` for an option,
`A` for an operand and `-` for `--`.

The words are then taken from the left. Before each option, the operands waiting there are
matched against the operand arguments not yet filled, as many arguments as can be; then the
option takes its word, if it needs one. A subcommand takes every word after it, options
included, and reads them by its own grammar; what it cannot place is handed back. Words that fit
nowhere are reported as unrecognized, after every argument that must be given is checked.

A word of help stops the reading there and shows the help of the grammar that read it.
-/

namespace MarkupTidy.Cli

open MarkupTidy.Text

/-- The values of a command line, by destination; a later binding hides an earlier one. -/
abbrev Bindings := List (String × Given)

/-- The value bound to a destination. -/
def Bindings.get? (b : Bindings) (dest : String) : Option Given :=
  (b.find? fun p => p.1 = dest).map (·.2)

/-- Binds a destination. -/
def Bindings.bind (b : Bindings) (dest : String) (v : Given) : Bindings := (dest, v) :: b

/-- Why reading stops early: help was asked for, or the line is refused, with the text each
shows (help on the output stream, a refusal on the error stream). -/
inductive Stop where
  | shown (text : String)
  | refused (text : String)
  deriving DecidableEq, Repr

/-- A refusal by a grammar: its usage, then the program's name and the reason. -/
def Grammar.refuse (g : Grammar) (message : String) : Stop :=
  .refused (g.usage ++ g.prog ++ ": error: " ++ message ++ "\n")

/-- An argument's complaint, as the refusal names it. -/
def argumentError (a : Arg) (message : String) : String :=
  "argument " ++ a.name ++ ": " ++ message

/-! ## Classing words -/

/-- A word classed as an option: the option's position in the grammar, if it names one, the
name used, and the value written with it (after `=`, or after a one-letter name). -/
structure OptWord where
  arg : Option Nat
  name : String
  explicit : Option String
  deriving DecidableEq, Repr

/-- The option names of a grammar with their positions, in order. -/
def Grammar.optionNames (g : Grammar) : List (String × Nat) :=
  ((List.range g.args.length).zip g.args).flatMap fun (i, a) =>
    match a with
    | .opt o => o.names.map (·, i)
    | _ => []

/-- Whether a word looks like a negative number: `-` and digits, or `-`, optional digits, a point
and digits, where digits are the decimal digits of any script and one line feed may follow. -/
def isNegativeNumber (w : String) : Bool :=
  let cs := w.toList
  let shape := fun (cs : List Char) =>
    match cs with
    | '-' :: rest =>
      let isDigit := fun c => (decimalValue? c).isSome
      let (ds, more) := (rest.takeWhile isDigit, rest.dropWhile isDigit)
      (!ds.isEmpty && more.isEmpty) ||
        (match more with
         | '.' :: frac => !frac.isEmpty && frac.all isDigit
         | _ => false)
    | _ => false
  shape cs || (cs.getLast? = some '\n' && shape cs.dropLast)

/-- The readings of a word as an option by prefix: long names split at `=`, short names with
what follows. -/
def prefixReadings (g : Grammar) (w : String) : List OptWord :=
  match w.toList with
  | '-' :: '-' :: _ =>
    let (pre, explicit) := match (w.toList.splitOn '=').map String.ofList with
      | [p] => (p, none)
      | p :: rest => (p, some ("=".intercalate rest))
      | [] => (w, none)
    (g.optionNames.filter fun (n, _) => pre.isPrefixOf n).map fun (n, i) =>
      ⟨some i, n, explicit⟩
  | '-' :: _ =>
    let short := String.ofList (w.toList.take 2)
    let rest := String.ofList (w.toList.drop 2)
    g.optionNames.filterMap fun (n, i) =>
      if n = short then some ⟨some i, n, some rest⟩
      else if w.isPrefixOf n then some ⟨some i, n, none⟩
      else none
  | _ => []

/-- How a word is classed: an operand (`none`), or an option. An ambiguous prefix is
refused. -/
def classify (g : Grammar) (w : String) : Except Stop (Option OptWord) :=
  if w.isEmpty || !w.startsWith "-" then .ok none
  else
    match g.optionNames.lookup w with
    | some i => .ok (some ⟨some i, w, none⟩)
    | none =>
      if w.length = 1 then .ok none
      else
        let exact := match (w.toList.splitOn '=').map String.ofList with
          | p :: rest@(_ :: _) =>
            (g.optionNames.lookup p).map fun i =>
              (⟨some i, p, some ("=".intercalate rest)⟩ : OptWord)
          | _ => none
        match exact with
        | some ow => .ok (some ow)
        | none =>
          match prefixReadings g w with
          | [ow] => .ok (some ow)
          | _ :: _ :: _ =>
            let names := ", ".intercalate ((prefixReadings g w).map (·.name))
            .error (g.refuse ("ambiguous option: " ++ w ++ " could match " ++ names))
          | [] =>
            if isNegativeNumber w then .ok none
            else if w.toList.contains ' ' then .ok none
            else .ok (some ⟨none, w, none⟩)

/-! ## Matching operands -/

/-- A piece of the pattern an argument takes: any number of some classes, exactly one class,
or at most one. -/
inductive Piece where
  | many (classes : List Char)
  | one (c : Char)
  | maybe (c : Char)
  deriving DecidableEq, Repr

/-- The pattern pieces an operand argument takes. -/
def Arg.pieces : Arg → List Piece
  | .command _ _ => [.many ['-'], .one 'A', .many ['-', 'A', 'O']]
  | _ => [.many ['-'], .maybe 'A', .many ['-']]

/-- Matches pieces at the start of a pattern, each as much as it can while the rest still
matches: how many letters each piece takes. -/
def matchPieces : List Piece → List Char → Option (List Nat)
  | [], _ => some []
  | .one c :: ps, x :: xs => if x = c then (matchPieces ps xs).map (1 :: ·) else none
  | .one _ :: _, [] => none
  | .maybe c :: ps, input =>
    let taken := match input with
      | x :: xs => if x = c then (matchPieces ps xs).map (1 :: ·) else none
      | [] => none
    taken.orElse fun _ => (matchPieces ps input).map (0 :: ·)
  | .many cs :: ps, input =>
    let most := (input.takeWhile (cs.contains ·)).length
    (List.range (most + 1)).reverse.findSome? fun k =>
      (matchPieces ps (input.drop k)).map (k :: ·)

/-- Sums consecutive counts by group sizes. -/
def groupCounts : List Nat → List Nat → List Nat
  | [], _ => []
  | size :: sizes, counts =>
    (counts.take size).foldl (· + ·) 0 :: groupCounts sizes (counts.drop size)

/-- How many words each of the first arguments takes, for as many arguments as can be matched
together. -/
def matchPartial (args : List Arg) (pattern : List Char) : List Nat :=
  let tries := (List.range args.length).reverse.map fun k => args.take (k + 1)
  (tries.findSome? fun front =>
    (matchPieces (front.flatMap Arg.pieces) pattern).map
      (groupCounts (front.map fun a => a.pieces.length))).getD []

/-! ## Reading -/

/-- The state of a reading: the bindings, the operand arguments not yet filled, the words that
fit nowhere, the arguments seen and those given a value other than their default. -/
structure Reading where
  bindings : Bindings
  waiting : List Nat
  extras : List String
  seen : List Nat
  given : List Nat

/-- The value words give an argument, or why they are refused. -/
def Arg.value (a : Arg) (words : List String) : Except String Given :=
  match a with
  | .opt o =>
    match o.effect, words with
    | .store _ read, [w] => read w
    | .const v, _ => .ok v
    | _, _ => .ok .none
  | .operand _ fallback _ =>
    match words.erase "--" with
    | [] => .ok (.text fallback)
    | w :: _ => .ok (.text w)
  | .command _ cs =>
    match words with
    | name :: _ =>
      if (cs.map (·.1)).contains name then .ok (.text name)
      else .error ("invalid choice: " ++ quoted name ++ " (choose from " ++
        ", ".intercalate (cs.map fun c => quoted c.1) ++ ")")
    | [] => .ok .none

/-- The arguments an argument excludes: the other members of its exclusive groups. -/
def Grammar.rivals (g : Grammar) (k : Nat) : List Nat :=
  (g.exclusive.filter (·.contains k)).flatten.filter (· != k)

/-- The bindings a reading starts from: every argument's default, the last argument's first. -/
def Grammar.defaults (g : Grammar) : Bindings :=
  g.args.reverse.filterMap fun a =>
    match a with
    | .opt o => o.default.map (o.dest, ·)
    | .operand d fallback _ => some (d, .text fallback)
    | .command d _ => some (d, .none)

/-- Reads a subcommand's words: its bindings and the words it could not place. -/
abbrev SubReader := String → List String → Except Stop (Bindings × List String)

section Reading

variable (g : Grammar) (subRead : SubReader) (words : List String) (pattern : List Char)
  (options : List (Nat × OptWord))

/-- Gives argument `k` its words: checks them, checks that no option of its exclusive groups
was given before it, and binds its value; help stops the reading, and a subcommand reads the
rest by its own grammar. -/
def apply (k : Nat) (ws : List String) (r : Reading) : Except Stop Reading := do
  let some a := g.args[k]? | return r
  let r := { r with seen := r.seen ++ [k] }
  let v ← match a.value ws with
    | .ok v => pure v
    | .error m => throw (g.refuse (argumentError a m))
  let isDefault := match a with
    | .operand _ _ _ => (ws.erase "--").isEmpty
    | _ => false
  let r ← if isDefault then pure r else do
    match (g.rivals k).find? r.given.contains with
    | some j =>
      let other := ((g.args[j]?).map Arg.name).getD ""
      throw (g.refuse (argumentError a ("not allowed with argument " ++ other)))
    | none => pure { r with given := r.given ++ [k] }
  match a with
  | .opt o =>
    match o.effect with
    | .help => throw (.shown g.helpText)
    | _ => return { r with bindings := r.bindings.bind o.dest v }
  | .operand d _ _ => return { r with bindings := r.bindings.bind d v }
  | .command d _ =>
    match ws with
    | name :: rest =>
      let r := { r with bindings := r.bindings.bind d (.text name) }
      let (b, extras) ← subRead name rest
      return { r with bindings := b ++ r.bindings, extras := r.extras ++ extras }
    | [] => return r

/-- The options a word at position `i` names, as steps of argument and words: short flags run
together are taken one by one, and a value after a name is the option's word when it takes
one. Gives the position after the option and its words. -/
def clusters (i : Nat) : Nat → Nat → String → Option String →
    List (Nat × List String) → Reading →
    Except Stop (Nat × List (Nat × List String) × Reading)
  | 0, _, _, _, steps, r => .ok (i + 1, steps, r)
  | fuel + 1, k, name, explicit, steps, r =>
    match g.args[k]? with
    | none => .ok (i + 1, steps, r)
    | some a =>
      let takes := match a with
        | .opt o => o.takesWord
        | _ => false
      match explicit with
      | some e =>
        if !takes && (name.toList.drop 1).head? != some '-' && e != "" then
          let steps := steps ++ [(k, [])]
          let next := "-" ++ String.ofList (e.toList.take 1)
          match g.optionNames.lookup next with
          | some k' =>
            let rest := String.ofList (e.toList.drop 1)
            clusters i fuel k' next (if rest = "" then none else some rest) steps r
          | none => .error (g.refuse (argumentError a ("ignored explicit argument " ++ quoted e)))
        else if takes then .ok (i + 1, steps ++ [(k, [e])], r)
        else .error (g.refuse (argumentError a ("ignored explicit argument " ++ quoted e)))
      | none =>
        if takes then
          if pattern[i + 1]? = some 'A' then
            .ok (i + 2, steps ++ [(k, (words.drop (i + 1)).take 1)], r)
          else .error (g.refuse (argumentError a "expected one argument"))
        else .ok (i + 1, steps ++ [(k, [])], r)

/-- Fills as many waiting operand arguments as match the words from position `i`; gives the
position after their words. -/
def takeOperands (i : Nat) (r : Reading) : Except Stop (Nat × Reading) := do
  let waiting := r.waiting.filterMap fun k => (g.args[k]?).map (k, ·)
  let counts := matchPartial (waiting.map (·.2)) (pattern.drop i)
  let mut i := i
  let mut r := { r with waiting := r.waiting.drop counts.length }
  for ((k, _), n) in waiting.zip counts do
    r ← apply g subRead k ((words.drop i).take n) r
    i := i + n
  return (i, r)

/-- Takes the option at position `i` with its words; gives the position after them. -/
def takeOption (i : Nat) (r : Reading) : Except Stop (Nat × Reading) := do
  let some ow := options.lookup i | return (i + 1, r)
  let some k := ow.arg | return (i + 1, { r with extras := r.extras ++ (words.drop i).take 1 })
  let (stop, steps, r) ← clusters g words pattern i ((ow.explicit.map (·.length)).getD 0 + 1) k
    ow.name ow.explicit [] r
  let mut r := r
  for (k, ws) in steps do
    r ← apply g subRead k ws r
  return (stop, r)

/-- Takes the words from position `i` on: while an option lies ahead, the operands before it
and then the option; then the operands after the last option. Words that fit nowhere are kept
as extras. -/
def takeAll : Nat → Nat → Reading → Except Stop Reading
  | 0, _, r => .ok r
  | fuel + 1, i, r => do
    match (options.map (·.1)).filter (i ≤ ·) |>.min? with
    | none =>
      let (stop, r) ← takeOperands g subRead words pattern i r
      return { r with extras := r.extras ++ words.drop stop }
    | some next =>
      if i != next then
        let (e, r) ← takeOperands g subRead words pattern i r
        if e > i then return ← takeAll fuel e r
        let r := { r with extras := r.extras ++ (words.drop i).take (next - i) }
        let (i, r) ← takeOption g subRead words pattern options next r
        takeAll fuel i r
      else
        let (i, r) ← takeOption g subRead words pattern options i r
        takeAll fuel i r

end Reading

/-- Classes the words of a command line: the pattern letters, and the option words by
position. Words after `--` are operands, unclassed. -/
def classes (g : Grammar) : Nat → List String → Except Stop (List Char × List (Nat × OptWord))
  | _, [] => .ok ([], [])
  | i, w :: rest =>
    if w = "--" then .ok ('-' :: rest.map fun _ => 'A', [])
    else do
      let c ← classify g w
      let (pattern, options) ← classes g (i + 1) rest
      match c with
      | some ow => return ('O' :: pattern, (i, ow) :: options)
      | none => return ('A' :: pattern, options)

/-- Reads words by a grammar, subcommands by `subRead`: the bindings, with every argument's
default first, and the words that fit nowhere. A subcommand that must be given and is not is
refused. -/
def readKnown (g : Grammar) (subRead : SubReader) (words : List String) :
    Except Stop (Bindings × List String) := do
  let indexed := (List.range g.args.length).zip g.args
  let (pattern, options) ← classes g 0 words
  let start : Reading :=
    ⟨g.defaults, (indexed.filter fun (_, a) => !a.isOpt).map (·.1), [], [], []⟩
  let r ← takeAll g subRead words pattern options (words.length + 1) 0 start
  let missing := indexed.filter fun (i, a) =>
    match a with
    | .command _ _ => !r.seen.contains i
    | _ => false
  if !missing.isEmpty then
    throw (g.refuse ("the following arguments are required: " ++
      ", ".intercalate (missing.map fun (_, a) => a.name)))
  return (r.bindings, r.extras)

/-- Reads words by a grammar whose subcommands have grammars of their own, `depth` levels
deep. -/
def readNested (sub : String → Option Grammar) : Nat → Grammar → List String →
    Except Stop (Bindings × List String)
  | 0, _, words => .ok ([], words)
  | depth + 1, g, words =>
    readKnown g (fun name rest =>
      match sub name with
      | some sg => readNested sub depth sg rest
      | none => .ok ([], rest)) words

/-- Reads a whole command line: words that fit nowhere are refused by the outer grammar. -/
def readLine (sub : String → Option Grammar) (g : Grammar) (words : List String) :
    Except Stop Bindings := do
  let (b, extras) ← readNested sub 2 g words
  if !extras.isEmpty then
    throw (g.refuse ("unrecognized arguments: " ++ " ".intercalate extras))
  return b

end MarkupTidy.Cli
