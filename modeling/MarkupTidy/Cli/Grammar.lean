/-!
# Cli/Grammar — what a command line may hold, and how it is shown

A grammar lists the arguments of a command: options (`-v`, `--config CONFIG`), an operand that
may be left out, and a choice of subcommands, each with its own grammar. Options given together
in an exclusive group may not be combined.

A grammar is shown in two ways. Its usage line names every argument, options first (each in
brackets, an exclusive group in one pair of brackets with `|` between its options) and then the
operands; when the line is longer than the width it is broken into parts and wrapped, options
under options and operands on lines of their own, indented past the program's name. Its help
adds the description and, per section, each argument's invocation with its help text wrapped in
a column.
-/

namespace MarkupTidy.Cli

/-- A value an argument leaves: nothing, a flag, a text or a number. -/
inductive Given where
  | none
  | flag (b : Bool)
  | text (s : String)
  | number (n : Int)
  deriving DecidableEq, Repr, Inhabited

/-- What an option does when it is given. -/
inductive Effect where
  /-- Takes one word as its value, read by a reader that may refuse it with words. -/
  | store (metavar : String) (read : String → Except String Given)
  /-- Takes no word and sets a constant. -/
  | const (value : Given)
  /-- Shows the help and stops. -/
  | help

/-- An option: its names, where its value goes, what it does, the value it has when not given
(none: it is left unset), and its help. -/
structure Opt where
  names : List String
  dest : String
  effect : Effect
  default : Option Given
  help : String

/-- Whether an option takes a word. -/
def Opt.takesWord (o : Opt) : Bool :=
  match o.effect with
  | .store _ _ => true
  | _ => false

/-- An argument of a command line. -/
inductive Arg where
  /-- An option. -/
  | opt (o : Opt)
  /-- A word that may be left out, and the text it then stands for. -/
  | operand (dest : String) (fallback : String) (help : String)
  /-- The name of a subcommand, with the help of each choice, followed by the subcommand's own
  words; it must be given. -/
  | command (dest : String) (choices : List (String × String))

/-- The name an argument is reported under: its option names joined by `/`, or its
destination. -/
def Arg.name : Arg → String
  | .opt o => "/".intercalate o.names
  | .operand d _ _ => d
  | .command d _ => d

/-- Whether an argument is an option. -/
def Arg.isOpt : Arg → Bool
  | .opt _ => true
  | _ => false

/-- A command's grammar: its program name as shown, its description, its arguments in order,
and its exclusive groups, as lists of argument positions. -/
structure Grammar where
  prog : String
  description : Option String
  args : List Arg
  exclusive : List (List Nat)

/-- The width help is laid out in. -/
def width : Nat := 78

/-! ## Wrapping text -/

/-- Words packed greedily into lines of at most a width, a word longer than the width being cut
into pieces of that width. -/
def wrapWords (w : Nat) (words : List String) : List String :=
  let pieces := words.flatMap fun word =>
    if word.length ≤ w || w = 0 then [word]
    else (List.range ((word.length + w - 1) / w)).map fun k =>
      String.ofList ((word.toList.drop (k * w)).take w)
  let (lines, current) := pieces.foldl (fun (lines, current) p =>
    match current with
    | none => (lines, some p)
    | some c => if c.length + 1 + p.length ≤ w then (lines, some (c ++ " " ++ p))
      else (lines ++ [c], some p)) (([] : List String), (none : Option String))
  match current with
  | some c => lines ++ [c]
  | none => lines

/-- The words of a text, cut at runs of blanks. -/
def words (s : String) : List String :=
  let blank := fun c => c = ' ' || c = '\t' || c = '\n' || c = '\r' || c = '\x0b' || c = '\x0c'
  (s.split blank).toList.map (·.toString) |>.filter (· ≠ "")

/-- Spaces. -/
def spaces (n : Nat) : String := String.ofList (List.replicate n ' ')

/-! ## Usage -/

/-- How an option shows in a usage line, without brackets. -/
def Opt.usage (o : Opt) : String :=
  match o.effect with
  | .store metavar _ => o.names.headD "" ++ " " ++ metavar
  | _ => o.names.headD ""

/-- The metavariable of a subcommand choice. -/
def choicesText (choices : List (String × String)) : String :=
  "\x7b" ++ ",".intercalate (choices.map (·.1)) ++ "\x7d"

/-- How an operand shows in a usage line. -/
def Arg.usage : Arg → String
  | .opt o => "[" ++ o.usage ++ "]"
  | .operand d _ _ => "[" ++ d ++ "]"
  | .command _ cs => choicesText cs ++ " ..."

/-- The usage text of options, exclusive groups bracketed together. -/
def optionsUsage (g : Grammar) : String :=
  let indexed := (List.range g.args.length).zip g.args
  let opts := indexed.filter fun (_, a) => a.isOpt
  let groupOf (i : Nat) : Option (List Nat) := g.exclusive.find? (·.contains i)
  let parts := opts.filterMap fun (i, a) =>
    match a, groupOf i with
    | .opt _, none => some a.usage
    | .opt _, some grp =>
      if grp.head? = some i then
        some ("[" ++ " | ".intercalate (grp.filterMap fun j =>
          match (g.args[j]? : Option Arg) with
          | some (Arg.opt o) => some o.usage
          | _ => none) ++ "]")
      else none
    | _, _ => none
  " ".intercalate parts

/-- The usage text of operands. -/
def operandsUsage (g : Grammar) : String :=
  " ".intercalate ((g.args.filter fun a => !a.isOpt).map Arg.usage)

/-- Cuts usage text into its parts: a bracketed or parenthesised run up to a closing bracket that
ends a word, or else a run of non-blanks. -/
def usageParts (s : List Char) : List String :=
  let rec go (fuel : Nat) (s : List Char) : List String :=
    match fuel, s.dropWhile (· = ' ') with
    | 0, _ => []
    | _, [] => []
    | fuel + 1, t@(c :: rest) =>
      let close := if c = '[' then some ']' else if c = '(' then some ')' else none
      let bracketed := close.bind fun cl =>
        (List.range rest.length).findSome? fun k =>
          -- the part is `c`, `rest.take k`, then closers up to a blank or the end
          let after := rest.drop k
          let closers := after.takeWhile (· = cl)
          let beyond := after.drop closers.length
          if !closers.isEmpty && (beyond.head?.all (· = ' ')) then
            some (c :: rest.take (k + closers.length), beyond)
          else none
      match bracketed with
      | some (part, beyond) => String.ofList part :: go fuel beyond
      | none =>
        let part := t.takeWhile (· ≠ ' ')
        String.ofList part :: go fuel (t.drop part.length)
  go s.length s

/-- Packs usage parts into lines: a part goes on the current line while the line stays within
the width, the first line starting after a prefix of a given length. -/
def usageLines (parts : List String) (indent : Nat) (start : Nat) : List String :=
  let (lines, line, _) := parts.foldl (fun (lines, line, len) part =>
    if len + 1 + part.length > width && !line.isEmpty then
      (lines ++ [spaces indent ++ " ".intercalate line], [part], indent - 1 + part.length + 1)
    else (lines, line ++ [part], len + part.length + 1))
    (([] : List String), ([] : List String), start - 1)
  if line.isEmpty then lines else lines ++ [spaces indent ++ " ".intercalate line]

/-- The usage of a grammar, after `usage: `, wrapped to the width. -/
def Grammar.usageBody (g : Grammar) : String :=
  let prefixLength := "usage: ".length
  let opt := optionsUsage g
  let pos := operandsUsage g
  let full := " ".intercalate ([g.prog, opt, pos].filter (· ≠ ""))
  if prefixLength + full.length ≤ width then full
  else
    let optParts := usageParts opt.toList
    let posParts := usageParts pos.toList
    if 4 * (prefixLength + g.prog.length) ≤ 3 * width then
      let indent := prefixLength + g.prog.length + 1
      let firstLines (parts : List String) :=
        (usageLines (g.prog :: parts) indent prefixLength).modifyHead fun l =>
          String.ofList (l.toList.drop indent)
      let lines :=
        if !optParts.isEmpty then firstLines optParts ++ usageLines posParts indent indent
        else if !posParts.isEmpty then firstLines posParts
        else [g.prog]
      "\n".intercalate lines
    else
      let indent := prefixLength
      let lines := usageLines (optParts ++ posParts) indent indent
      let lines := if lines.length > 1 then
          usageLines optParts indent indent ++ usageLines posParts indent indent
        else lines
      "\n".intercalate (g.prog :: lines)

/-- The usage text printed before an error. -/
def Grammar.usage (g : Grammar) : String := "usage: " ++ g.usageBody ++ "\n"

/-! ## Help -/

/-- How an argument is invoked, as its help entry shows it. -/
def Arg.invocation : Arg → String
  | .opt o =>
    match o.effect with
    | .store metavar _ => ", ".intercalate (o.names.map (· ++ " " ++ metavar))
    | _ => ", ".intercalate o.names
  | .operand d _ _ => d
  | .command _ cs => choicesText cs

/-- The help text of an argument, if it has one. -/
def Arg.helpText : Arg → Option String
  | .opt o => some o.help
  | .operand _ _ h => some h
  | .command _ _ => none

/-- The column help texts start in, for arguments that take so much room. -/
def helpColumn (longest : Nat) : Nat := min (longest + 2) 24

/-- A help entry: the invocation at an indent, then the help wrapped in its column. -/
def entry (column indent : Nat) (invocation : String) (help : Option String) : String :=
  let room := column - indent - 2
  match help with
  | none => spaces indent ++ invocation ++ "\n"
  | some h =>
    let lines := wrapWords (max (width - column) 11) (words h)
    let (header, firstIndent) :=
      if invocation.length ≤ room then
        (spaces indent ++ invocation ++ spaces (room - invocation.length) ++ "  ", 0)
      else (spaces indent ++ invocation ++ "\n", column)
    match lines with
    | [] => if header.endsWith "\n" then header else header ++ "\n"
    | first :: rest =>
      header ++ spaces firstIndent ++ first ++ "\n" ++
        String.join (rest.map fun l => spaces column ++ l ++ "\n")

/-- The entries of an argument: its own, and one per subcommand choice, further indented. -/
def Arg.entries (column : Nat) (a : Arg) : String :=
  entry column 2 a.invocation a.helpText ++
    match a with
    | .command _ cs => String.join (cs.map fun (name, h) => entry column 4 name (some h))
    | _ => ""

/-- The widest invocation, with its indent, that the help column must make room for. -/
def Arg.room : Arg → Nat
  | .command _ cs => max (choicesText cs).length ((cs.map (·.1.length)).foldl max 0) + 2
  | a => a.invocation.length + 2

/-- A section of the help: its heading and entries, or nothing when it has no arguments. -/
def section? (column : Nat) (heading : String) (args : List Arg) : String :=
  if args.isEmpty then ""
  else heading ++ ":\n" ++ String.join (args.map (Arg.entries column))

/-- The help of a grammar. -/
def Grammar.helpText (g : Grammar) : String :=
  let column := helpColumn ((g.args.map Arg.room).foldl max 0)
  let operands := g.args.filter fun a => !a.isOpt
  let options := g.args.filter Arg.isOpt
  let blocks := ["usage: " ++ g.usageBody ++ "\n"] ++
    (match g.description with
     | some d => ["\n".intercalate (wrapWords width (words d)) ++ "\n"]
     | none => []) ++
    ([section? column "positional arguments" operands, section? column "options" options].filter
      (· ≠ ""))
  "\n".intercalate blocks

end MarkupTidy.Cli
