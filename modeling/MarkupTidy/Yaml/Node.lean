import MarkupTidy.Yaml.Lex
import MarkupTidy.Yaml.Resolve

/-!
# Yaml/Node — the node graph of a YAML document

A document is a graph of nodes: scalars, sequences and mappings, each with its tag. An anchor
(`&a`) names a node and an alias (`*a`) refers to it again, so a node may be reached along several
paths, and a collection may even contain itself. Nodes are kept in an array; a collection holds the
indices of its items.

`Graph.ofTokens?` reads the token stream in two layers. The parser turns tokens into events, one
at a time, by the grammar of YAML: its `Phase` says what it reads next, and a stack keeps the
phases to come back to when a node is done. The composer turns events into nodes, a collection
composing its items in turn. A stream holds at most one document. A tag is resolved when its
node is built: a handle is replaced by its prefix, a plain scalar without a tag (or with the tag
`!`) gets the type its text stands for (`Yaml.Resolve`), and a collection without a tag is a
sequence or a mapping.

## Depth

The reader runs on a stack of calls that may be `recursionLimit` deep, and the loader is called
with some of it in use. Composing a collection takes two calls more than composing the one
around it, and what happens inside a collection goes a fixed number of calls deeper still: the
parser's phase runs two calls below the composer, a node's properties and start are read a few
calls below the phase, and every request for a token goes one call deeper to ask whether the
lexer must take a step, and one more to forget stale simple keys unless the stream has ended.
A request that has the lexer take steps goes as deep as the deepest of them (`Fetch.cost`); so
where a simple key held the lexer back, the tokens of a whole flow collection are made by one
shallow request, and the requests below find them made. A call past the limit gives up the
document (`tooDeep`), and a request needing a step the lexer never finished meets the reason it
gave up.
-/

namespace MarkupTidy.Yaml

/-! ## Nodes -/

/-- A node of a document; the items of a collection are indices of nodes. -/
inductive Node where
  | scalar (tag : String) (text : String)
  | sequence (tag : String) (items : List Nat)
  | mapping (tag : String) (pairs : List (Nat × Nat))
  deriving DecidableEq, Repr, Inhabited

/-- A node's tag. -/
def Node.tag : Node → String
  | .scalar t _ | .sequence t _ | .mapping t _ => t

/-- The nodes of a document and the index of its root. -/
structure Graph where
  nodes : Array Node
  root : Nat

/-- The node at an index; an empty string node past the end. -/
def Graph.node (g : Graph) (i : Nat) : Node := g.nodes.getD i (.scalar strTag "")

/-! ## Events and phases -/

/-- An event of the parse. A scalar tells whether its tag is to be read off its text: it was
plain and had no tag, or had the tag `!`, or is an empty node with no tag. -/
inductive Event where
  | streamStart
  | streamEnd
  | documentStart
  | documentEnd
  | alias (name : String)
  | scalar (anchor : Option String) (tag : Option String) (implicit : Bool) (text : String)
  | sequenceStart (anchor : Option String) (tag : Option String)
  | sequenceEnd
  | mappingStart (anchor : Option String) (tag : Option String)
  | mappingEnd
  deriving DecidableEq, Repr, Inhabited

/-- The anchor an event gives its node. -/
def Event.anchor : Event → Option String
  | .scalar a _ _ _ | .sequenceStart a _ | .mappingStart a _ => a
  | _ => none

/-- What the parser reads next. The `pair` phases read a mapping of one pair written inside a
flow sequence (`[a: b]`). -/
inductive Phase where
  | streamStart
  | implicitDocumentStart
  | documentStart
  | documentEnd
  | documentContent
  | blockNode
  | blockSequenceFirstEntry
  | blockSequenceEntry
  | indentlessSequenceEntry
  | blockMappingFirstKey
  | blockMappingKey
  | blockMappingValue
  | flowSequenceFirstEntry
  | flowSequenceEntry
  | pairKey
  | pairValue
  | pairEnd
  | flowMappingFirstKey
  | flowMappingKey
  | flowMappingValue
  | flowMappingEmptyValue
  | finished
  deriving DecidableEq, Repr, Inhabited

/-! ## Building -/

/-- How deep the stack of calls may go. -/
def recursionLimit : Nat := 1000

/-- The state of building a graph from tokens: the lexer's tokens and log, the steps of it
requests made happen, the tokens taken, the deepest call allowed, the parser's phase, the phases
to come back to and the event made but not yet taken, the tag handles, and the nodes built with
their anchors. -/
structure Builder where
  lexed : Lexed
  steps : Nat
  taken : Nat
  limit : Nat
  phase : Phase
  phases : List Phase
  event : Option Event
  handles : List (String × String)
  nodes : Array Node
  anchors : List (String × Nat)

/-- Building: a state and a way to fail. -/
abbrev BuildM := StateT Builder (Except Fault)

/-- Gives up on a malformed document. -/
def refuse : BuildM α := throw .malformed

/-- The refusal of a document whose reading goes deeper than the stack allows. -/
def tooDeep : Fault := .refused .tooDeep "maximum recursion depth exceeded"

/-- Enters a call at depth `d`, giving up when it is past the limit. -/
def enter (d : Nat) : BuildM Unit := do
  if (← get).limit < d then throw tooDeep

/-- The steps a request for the token at index `i` has the lexer take, from step `s` on: the
step it stops after and the deepest of the steps taken; `none` when it needs a step the lexer
never finished. -/
def Lexed.stepsFor (lx : Lexed) (i : Nat) : Nat → Nat → Nat → Option (Nat × Nat)
  | 0, _, _ => none
  | fuel + 1, s, deepest =>
    if (lx.after s).wants i then
      if s < lx.fetches.size then
        let c := (lx.fetches.getD s Fetch.initial).cost
        lx.stepsFor i fuel (s + 1) (if deepest < c then c else deepest)
      else none
    else some (s, deepest)

/-- The next token, asked for by a call at depth `r`. -/
def nextToken (r : Nat) : BuildM Token := do
  let b ← get
  match b.lexed.stepsFor b.taken (b.lexed.fetches.size + 1) b.steps 0 with
  | none =>
    enter (r + 4)
    throw (b.lexed.stop.getD .malformed)
  | some (s, c) =>
    let asked := if (b.lexed.after s).done then r + 1 else r + 2
    enter (if b.steps < s && asked < r + 1 + c then r + 1 + c else asked)
    set { b with steps := s }
    return b.lexed.tokens.getD b.taken .streamEnd

/-- Takes the next token, asked for by a call at depth `r`. -/
def takeToken (r : Nat) : BuildM Token := do
  let t ← nextToken r
  modify fun b => { b with taken := b.taken + 1 }
  return t

/-- Whether the next token is one of these. -/
def nextIs (r : Nat) (ts : List Token) : BuildM Bool := return ts.contains (← nextToken r)

/-- Whether a token is a directive. -/
def Token.isDirective : Token → Bool
  | .directive _ => true
  | _ => false

/-- Moves the parser to a phase. -/
def setPhase (p : Phase) : BuildM Unit := modify fun b => { b with phase := p }

/-- Keeps a phase to come back to. -/
def pushPhase (p : Phase) : BuildM Unit := modify fun b => { b with phases := p :: b.phases }

/-- Comes back to the last phase kept. -/
def popPhase : BuildM Unit := modify fun b =>
  match b.phases with
  | p :: rest => { b with phase := p, phases := rest }
  | [] => { b with phase := .finished }

/-! ## The parser -/

/-- The handles every document knows. -/
def defaultHandles : List (String × String) := [("!", "!"), ("!!", coreTag "")]

/-- A tag with its handle replaced by the handle's prefix. -/
def fullTag : Option String × String → BuildM String
  | (some h, s) => do
    match (← get).handles.lookup h with
    | some p => return p ++ s
    | none => refuse
  | (none, s) => return s

/-- The properties of a node, read at depth `r`: an anchor and a tag, in either order, each
optional. -/
def properties (r : Nat) : BuildM (Option String × Option (Option String × String)) := do
  match ← nextToken r with
  | .anchor a =>
    let _ ← takeToken r
    match ← nextToken r with
    | .tag h s =>
      let _ ← takeToken r
      return (some a, some (h, s))
    | _ => return (some a, none)
  | .tag h s =>
    let _ ← takeToken r
    match ← nextToken r with
    | .anchor a =>
      let _ ← takeToken r
      return (some a, some (h, s))
    | _ => return (none, some (h, s))
  | _ => return (none, none)

/-- An empty scalar, made by a call at depth `d`. -/
def emptyScalar (d : Nat) : BuildM Event := do
  enter (d + 2)
  return .scalar none none true ""

/-- The event starting a node, read by a call at depth `p`: an alias, a scalar, the start of a
collection, or an empty scalar when the node has properties and nothing else. `block` allows
block collections, and `indentless` a sequence whose entries stand at the indentation of the
mapping it is a value of. -/
def parseNode (p : Nat) (block indentless : Bool) : BuildM Event := do
  let r := p + 1
  match ← nextToken r with
  | .alias a =>
    let _ ← takeToken r
    enter (p + 2)
    popPhase
    return .alias a
  | _ =>
  let (anchor, tagProp) ← properties r
  let tag ← match tagProp with
    | some t => (some <$> fullTag t : BuildM (Option String))
    | none => pure none
  if anchor.isNone && tagProp.isNone then
    let _ ← nextToken r
  let nonSpecific := tag.isNone || tag = some "!"
  let t ← nextToken r
  if indentless && t = .blockEntry then
    let _ ← nextToken r
    enter (p + 2)
    setPhase .indentlessSequenceEntry
    return .sequenceStart anchor tag
  enter (p + 2)
  match t with
  | .scalar text plain =>
    let _ ← takeToken r
    popPhase
    return .scalar anchor tag ((plain && tag.isNone) || tag = some "!") text
  | .flowSequenceStart =>
    let _ ← nextToken r
    setPhase .flowSequenceFirstEntry
    return .sequenceStart anchor tag
  | .flowMappingStart =>
    let _ ← nextToken r
    setPhase .flowMappingFirstKey
    return .mappingStart anchor tag
  | .blockSequenceStart =>
    if block then
      let _ ← nextToken r
      setPhase .blockSequenceFirstEntry
      return .sequenceStart anchor tag
    else if anchor.isSome || tag.isSome then
      popPhase
      return .scalar anchor tag nonSpecific ""
    else refuse
  | .blockMappingStart =>
    if block then
      let _ ← nextToken r
      setPhase .blockMappingFirstKey
      return .mappingStart anchor tag
    else if anchor.isSome || tag.isSome then
      popPhase
      return .scalar anchor tag nonSpecific ""
    else refuse
  | _ =>
    if anchor.isSome || tag.isSome then
      popPhase
      return .scalar anchor tag nonSpecific ""
    else refuse

/-- The directives before an explicit document, read at depth `r`: the tag handles they declare,
with the default ones added. A second `%YAML`, a version other than 1.x, or a handle declared
twice is an error. -/
def directives (r : Nat) (fuel : Nat) : BuildM Unit := do
  let rec go : Nat → Bool → List (String × String) → BuildM (List (String × String))
    | 0, _, _ => refuse
    | n + 1, seenVersion, hs => do
      match ← nextToken r with
      | .directive (.version major _) =>
        let _ ← takeToken r
        if seenVersion || major != 1 then refuse
        go n true hs
      | .directive (.tagPrefix h p) =>
        let _ ← takeToken r
        if (hs.lookup h).isSome then refuse
        go n seenVersion (hs ++ [(h, p)])
      | .directive .other =>
        let _ ← takeToken r
        go n seenVersion hs
      | _ => return hs
  let hs ← go fuel false []
  let missing := defaultHandles.filter fun (h, _) => (hs.lookup h).isNone
  modify fun b => { b with handles := hs ++ missing }

/-- The start of an explicit document, or the end of the stream, read by a call at depth `s`;
`...` markers before it are skipped. -/
def documentStart (s : Nat) : BuildM Event := do
  let fuel := (← get).lexed.tokens.size + 1
  let rec skipEnds : Nat → BuildM Unit
    | 0 => refuse
    | n + 1 => do
      if (← nextToken (s + 1)) = .documentEnd then
        let _ ← takeToken (s + 1)
        skipEnds n
  skipEnds fuel
  if (← nextToken (s + 1)) != .streamEnd then
    let _ ← nextToken (s + 1)
    directives (s + 2) fuel
    if (← nextToken (s + 1)) != .documentStart then refuse
    let _ ← takeToken (s + 1)
    enter (s + 2)
    pushPhase .documentEnd
    setPhase .documentContent
    return .documentStart
  else
    let _ ← takeToken (s + 1)
    enter (s + 2)
    setPhase .finished
    return .streamEnd

/-- The entries of a block sequence, read by a call at depth `s`. -/
def blockSequenceEntry (s : Nat) : BuildM Event := do
  if (← nextToken (s + 1)) = .blockEntry then
    let _ ← takeToken (s + 1)
    if !(← nextIs (s + 1) [.blockEntry, .blockEnd]) then
      pushPhase .blockSequenceEntry
      parseNode (s + 2) true false
    else
      setPhase .blockSequenceEntry
      emptyScalar (s + 1)
  else
    if (← nextToken (s + 1)) != .blockEnd then refuse
    let _ ← takeToken (s + 1)
    enter (s + 2)
    popPhase
    return .sequenceEnd

/-- The keys of a block mapping, read by a call at depth `s`. -/
def blockMappingKey (s : Nat) : BuildM Event := do
  if (← nextToken (s + 1)) = .key then
    let _ ← takeToken (s + 1)
    if !(← nextIs (s + 1) [.key, .value, .blockEnd]) then
      pushPhase .blockMappingValue
      parseNode (s + 2) true true
    else
      setPhase .blockMappingValue
      emptyScalar (s + 1)
  else
    if (← nextToken (s + 1)) != .blockEnd then refuse
    let _ ← takeToken (s + 1)
    enter (s + 2)
    popPhase
    return .mappingEnd

/-- The entries of a flow sequence, read by a call at depth `s`; the first has no `,` before
it, and a `key` starts a mapping of one pair. -/
def flowSequenceEntry (s : Nat) (first : Bool) : BuildM Event := do
  let r := s + 1
  if (← nextToken r) != .flowSequenceEnd then
    if !first then
      if (← nextToken r) = .flowEntry then
        let _ ← takeToken r
      else refuse
    if (← nextToken r) = .key then
      let _ ← nextToken r
      enter (s + 2)
      setPhase .pairKey
      return .mappingStart none none
    else if (← nextToken r) != .flowSequenceEnd then
      pushPhase .flowSequenceEntry
      return ← parseNode (s + 2) false false
  let _ ← takeToken r
  enter (s + 2)
  popPhase
  return .sequenceEnd

/-- The entries of a flow mapping, read by a call at depth `s`; the first has no `,` before it,
and an entry without `key` has an empty value. -/
def flowMappingKey (s : Nat) (first : Bool) : BuildM Event := do
  let r := s + 1
  if (← nextToken r) != .flowMappingEnd then
    if !first then
      if (← nextToken r) = .flowEntry then
        let _ ← takeToken r
      else refuse
    if (← nextToken r) = .key then
      let _ ← takeToken r
      if !(← nextIs r [.value, .flowEntry, .flowMappingEnd]) then
        pushPhase .flowMappingValue
        return ← parseNode (s + 2) false false
      else
        setPhase .flowMappingValue
        return ← emptyScalar (s + 1)
    else if (← nextToken r) != .flowMappingEnd then
      pushPhase .flowMappingEmptyValue
      return ← parseNode (s + 2) false false
  let _ ← takeToken r
  enter (s + 2)
  popPhase
  return .mappingEnd

/-- A value after a `:` or none, read by a call at depth `s`: `ends` are the tokens that leave
the value empty, `block` allows block collections, and the parser goes on to `next`. -/
def valueEntry (s : Nat) (ends : List Token) (block : Bool) (next : Phase) : BuildM Event := do
  if (← nextToken (s + 1)) = .value then
    let _ ← takeToken (s + 1)
    if !(← nextIs (s + 1) ends) then
      pushPhase next
      parseNode (s + 2) block block
    else
      setPhase next
      emptyScalar (s + 1)
  else
    setPhase next
    let _ ← nextToken (s + 1)
    emptyScalar (s + 1)

/-- The next event, made by the parser's phase called at depth `s`. -/
def produce (s : Nat) : BuildM Event := do
  match (← get).phase with
  | .streamStart =>
    let _ ← takeToken (s + 1)
    enter (s + 2)
    setPhase .implicitDocumentStart
    return .streamStart
  | .implicitDocumentStart =>
    let t ← nextToken (s + 1)
    if !(t.isDirective || t = .documentStart || t = .streamEnd) then
      modify fun b => { b with handles := defaultHandles }
      let _ ← nextToken (s + 1)
      enter (s + 2)
      pushPhase .documentEnd
      setPhase .blockNode
      return .documentStart
    else documentStart (s + 1)
  | .documentStart => documentStart s
  | .documentEnd =>
    let _ ← nextToken (s + 1)
    if (← nextToken (s + 1)) = .documentEnd then
      let _ ← takeToken (s + 1)
    enter (s + 2)
    setPhase .documentStart
    return .documentEnd
  | .documentContent =>
    let t ← nextToken (s + 1)
    if t.isDirective || t = .documentStart || t = .documentEnd || t = .streamEnd then
      let _ ← nextToken (s + 1)
      popPhase
      emptyScalar (s + 1)
    else parseNode (s + 2) true false
  | .blockNode => parseNode (s + 1) true false
  | .blockSequenceFirstEntry =>
    let _ ← takeToken (s + 1)
    blockSequenceEntry (s + 1)
  | .blockSequenceEntry => blockSequenceEntry s
  | .indentlessSequenceEntry =>
    if (← nextToken (s + 1)) = .blockEntry then
      let _ ← takeToken (s + 1)
      if !(← nextIs (s + 1) [.blockEntry, .key, .value, .blockEnd]) then
        pushPhase .indentlessSequenceEntry
        parseNode (s + 2) true false
      else
        setPhase .indentlessSequenceEntry
        emptyScalar (s + 1)
    else
      let _ ← nextToken (s + 1)
      enter (s + 2)
      popPhase
      return .sequenceEnd
  | .blockMappingFirstKey =>
    let _ ← takeToken (s + 1)
    blockMappingKey (s + 1)
  | .blockMappingKey => blockMappingKey s
  | .blockMappingValue => valueEntry s [.key, .value, .blockEnd] true .blockMappingKey
  | .flowSequenceFirstEntry =>
    let _ ← takeToken (s + 1)
    flowSequenceEntry (s + 1) true
  | .flowSequenceEntry => flowSequenceEntry s false
  | .pairKey =>
    let _ ← takeToken (s + 1)
    if !(← nextIs (s + 1) [.value, .flowEntry, .flowSequenceEnd]) then
      pushPhase .pairValue
      parseNode (s + 2) false false
    else
      setPhase .pairValue
      emptyScalar (s + 1)
  | .pairValue => valueEntry s [.flowEntry, .flowSequenceEnd] false .pairEnd
  | .pairEnd =>
    setPhase .flowSequenceEntry
    let _ ← nextToken (s + 1)
    enter (s + 2)
    return .mappingEnd
  | .flowMappingFirstKey =>
    let _ ← takeToken (s + 1)
    flowMappingKey (s + 1) true
  | .flowMappingKey => flowMappingKey s false
  | .flowMappingValue => valueEntry s [.flowEntry, .flowMappingEnd] false .flowMappingKey
  | .flowMappingEmptyValue =>
    setPhase .flowMappingKey
    let _ ← nextToken (s + 1)
    emptyScalar (s + 1)
  | .finished => refuse

/-- The event at hand, asked for by a call at depth `d`: the one made before and not yet taken,
or one the parser makes now, one call deeper. -/
def currentEvent (d : Nat) : BuildM Event := do
  match (← get).event with
  | some e => return e
  | none =>
    let e ← produce (d + 1)
    modify fun b => { b with event := some e }
    return e

/-- Takes the event at hand, asked for by a call at depth `d`. -/
def takeEvent (d : Nat) : BuildM Event := do
  let e ← currentEvent d
  modify fun b => { b with event := none }
  return e

/-! ## The composer -/

/-- Adds a node and gives its index. -/
def addNode (n : Node) : BuildM Nat := do
  let b ← get
  set { b with nodes := b.nodes.push n }
  return b.nodes.size

/-- Puts a node at an index reserved before. -/
def setNode (i : Nat) (n : Node) : BuildM Unit :=
  modify fun b => { b with nodes := b.nodes.setIfInBounds i n }

/-- Names a node. -/
def nameNode (anchor : Option String) (i : Nat) : BuildM Unit := do
  match anchor with
  | some a => modify fun b => { b with anchors := (a, i) :: b.anchors }
  | none => pure ()

/-- The tag of a collection: its own, unless it has none or `!`. -/
def collectionTag (tag : Option String) (dflt : String) : String :=
  if tag.isNone || tag = some "!" then dflt else tag.getD dflt

mutual

/-- Composes a node, by a call at depth `c`: an alias gives the node it names, and an anchor
must name no node yet. -/
def composeNode (fuel : Nat) (c : Nat) : BuildM Nat := do
  match fuel with
  | 0 => refuse
  | fuel + 1 =>
  match ← currentEvent (c + 1) with
  | .alias a =>
    let _ ← takeEvent (c + 1)
    match (← get).anchors.lookup a with
    | some i => return i
    | none => refuse
  | e =>
    if let some a := e.anchor then
      if ((← get).anchors.lookup a).isSome then refuse
    match e with
    | .scalar anchor tag implicit text =>
      let _ ← takeEvent (c + 2)
      let resolved := if tag.isNone || tag = some "!" then
          (if implicit then implicitTag text else strTag)
        else tag.getD strTag
      let i ← addNode (.scalar resolved text)
      nameNode anchor i
      return i
    | .sequenceStart anchor tag =>
      let _ ← takeEvent (c + 2)
      let t := collectionTag tag seqTag
      let i ← addNode (.sequence t [])
      nameNode anchor i
      let items ← composeItems fuel (c + 1) []
      setNode i (.sequence t items)
      return i
    | .mappingStart anchor tag =>
      let _ ← takeEvent (c + 2)
      let t := collectionTag tag mapTag
      let i ← addNode (.mapping t [])
      nameNode anchor i
      let pairs ← composePairs fuel (c + 1) []
      setNode i (.mapping t pairs)
      return i
    | _ => refuse

/-- Composes the items of a sequence composed by a call at depth `d`, up to its end. -/
def composeItems (fuel : Nat) (d : Nat) (acc : List Nat) : BuildM (List Nat) := do
  match fuel with
  | 0 => refuse
  | fuel + 1 =>
  if (← currentEvent (d + 1)) = .sequenceEnd then
    let _ ← takeEvent (d + 1)
    return acc
  let i ← composeNode fuel (d + 1)
  composeItems fuel d (acc ++ [i])

/-- Composes the pairs of a mapping composed by a call at depth `d`, up to its end. -/
def composePairs (fuel : Nat) (d : Nat) (acc : List (Nat × Nat)) :
    BuildM (List (Nat × Nat)) := do
  match fuel with
  | 0 => refuse
  | fuel + 1 =>
  if (← currentEvent (d + 1)) = .mappingEnd then
    let _ ← takeEvent (d + 1)
    return acc
  let k ← composeNode fuel (d + 1)
  let v ← composeNode fuel (d + 1)
  composePairs fuel d (acc ++ [(k, v)])

end

/-- The root of the one document of the stream, or `none` when the stream has none, composed by
a call at depth `g`. -/
def singleDocument (g : Nat) : BuildM (Option Nat) := do
  let fuel := 4 * ((← get).lexed.tokens.size + 1)
  let _ ← takeEvent (g + 1)
  let root ← (do
    if (← currentEvent (g + 1)) != .streamEnd then
      let c := g + 1
      let _ ← takeEvent (c + 1)
      let node ← composeNode fuel (c + 1)
      let _ ← takeEvent (c + 1)
      pure (some node)
    else pure none : BuildM (Option Nat))
  if (← currentEvent (g + 1)) != .streamEnd then
    let _ ← takeEvent (g + 1)
    refuse
  let _ ← takeEvent (g + 1)
  return root

/-- The graph of the one document of a token stream, or `none` for a stream without one, read by
a loader called with `depth` calls in use: the loader, its reader and the call that composes the
stream take four more. -/
def Graph.ofTokens? (depth : Nat) (lexed : Lexed) : Except Fault (Option Graph) := do
  let start : Builder :=
    ⟨lexed, 0, 0, recursionLimit, .streamStart, [], none, defaultHandles, #[], []⟩
  let (root, b) ← (singleDocument (depth + 4)).run start
  return root.map fun r => ⟨b.nodes, r⟩

end MarkupTidy.Yaml
