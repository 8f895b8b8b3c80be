import MarkupTidy.Yaml.Node
import MarkupTidy.Yaml.Number
import MarkupTidy.Text.Case

/-!
# Yaml/Value — the values a YAML document stands for

Each node of a document stands for a value of its tag's type: null, a boolean, an integer, a
float, a string, bytes, a timestamp, a sequence, a mapping, a set, or a list of pairs (ordered
maps and pairs). A collection is one value however many paths reach it, so collections are named
by their node and their contents are kept apart (`Contents`); a collection may contain itself.

Values are built in the order a reader of YAML builds them: the root first; a collection is made
empty at once and filled later, in the order collections were met, and filling a collection builds
its items in order. A key that is a collection cannot be a key of a mapping, and a tag without a
type is refused.

Filling a mapping first *flattens* it, changing the graph as it goes (`flatten`): its pairs are
walked in order; a pair with a `<<` key is removed, and the mapping it names (flattened first), or
the mappings of the list it names (each flattened first, later ones in front), are gathered;
an `=` key becomes a string key. The gathered pairs then go in front of what is left. A mapping
may merge itself: it is then walked again from the start, as it stands at that moment.

Only what a reader of settings asks is kept of a scalar's value: floats keep whether they are zero,
bytes whether they are empty, and timestamps nothing.
-/

namespace MarkupTidy.Yaml

open MarkupTidy.Text

/-! ## Values -/

/-- A value; a collection is named by the node it comes from. -/
inductive Value where
  | null
  | bool (b : Bool)
  | int (n : Int)
  | float (isZero : Bool)
  | str (s : String)
  | bytes (isEmpty : Bool)
  | timestamp
  | sequence (node : Nat)
  | mapping (node : Nat)
  | set (node : Nat)
  | pairList (node : Nat)
  deriving DecidableEq, Repr, Inhabited

/-- What a collection holds: items, or pairs of key and value. -/
inductive Contents where
  | items (vs : List Value)
  | pairs (ps : List (Value × Value))
  deriving Repr, Inhabited

/-- A collection can be the key of a mapping only if it is not a collection. -/
def Value.isHashable : Value → Bool
  | .sequence _ | .mapping _ | .set _ | .pairList _ => false
  | _ => true

/-- A document's value: its root, and the contents of its collections by node. -/
structure Document where
  root : Value
  contents : Array (Option Contents)

/-- The contents of a collection. -/
def Document.contentsOf (d : Document) (node : Nat) : Contents :=
  (d.contents.getD node none).getD (.items [])

/-- The value that a mapping gives a string key: the last one it was given. -/
def Document.lookup (d : Document) (node : Nat) (key : String) : Option Value :=
  match d.contentsOf node with
  | .pairs ps => (ps.reverse.find? fun (k, _) => k = .str key).map (·.2)
  | .items _ => none

/-- Whether a mapping has a string key. -/
def Document.hasKey (d : Document) (node : Nat) (key : String) : Bool :=
  (d.lookup node key).isSome

/-- A value counts as false when it is null, false, zero, empty text or bytes, or an empty
collection. -/
def Document.isFalsy (d : Document) : Value → Bool
  | .null => true
  | .bool b => !b
  | .int n => n = 0
  | .float z => z
  | .str s => s.isEmpty
  | .bytes e => e
  | .timestamp => false
  | .sequence n | .mapping n | .set n | .pairList n =>
    match d.contentsOf n with
    | .items vs => vs.isEmpty
    | .pairs ps => ps.isEmpty

/-! ## Building values -/

/-- The state of building values: the value of each node built so far, the nodes being built,
the collections still to fill, their contents, and the keys turned into strings. -/
structure Building where
  graph : Graph
  standIns : StandIns
  built : Array (Option Value)
  building : List Nat
  toFill : List Nat
  contents : Array (Option Contents)
  asString : List Nat

/-- Building values: a state and a way to fail. -/
abbrev ValueM := StateT Building (Except Fault)

/-- The number of children a node has: the keys and values of a mapping count as one per pair. -/
def Node.childCount : Node → Nat
  | .mapping _ ps => ps.length
  | .sequence _ items => items.length
  | .scalar _ _ => 0

/-- A bound on the steps of flattening a mapping: every step removes a merge key or moves past a
pair, and no list of pairs grows past the cube of the graph's size. -/
def Building.flattenFuel (b : Building) : Nat :=
  let size := b.graph.nodes.size + b.graph.nodes.toList.foldl (fun acc n => acc + n.childCount) 0 + 2
  size * size * size

/-- Refuses a typed literal. -/
def refuseLiteral (r : Refused) : ValueM α := throw (.refused r.1 r.2)

/-- Lifts a literal reading. -/
def literal (e : Except Refused α) : ValueM α :=
  match e with
  | .ok a => pure a
  | .error r => refuseLiteral r

/-- A node's tag, after `=` keys were turned into strings. -/
def tagOf (i : Nat) : ValueM String := do
  let b ← get
  if b.asString.contains i then return strTag else return (b.graph.node i).tag

/-- The text of a scalar; a mapping stands for the value of its `=` key. Following `=` keys
round a cycle never ends, and is given up for its depth: with fuel for one step per node, only a
cycle runs out. -/
def scalarText (fuel : Nat) (i : Nat) : ValueM String := do
  match fuel with
  | 0 => throw (.refused .tooDeep "maximum recursion depth exceeded")
  | fuel + 1 =>
  match (← get).graph.node i with
  | .scalar _ text => return text
  | .mapping _ pairs =>
    let mut found : Option Nat := none
    for (k, v) in pairs do
      if found.isNone && (← tagOf k) = coreTag "value" then found := some v
    match found with
    | some v => scalarText fuel v
    | none => throw .malformed
  | .sequence _ _ => throw .malformed

/-- The pairs a mapping node has now. -/
def pairsNow (i : Nat) : ValueM (List (Nat × Nat)) := do
  match (← get).graph.node i with
  | .mapping _ pairs => return pairs
  | _ => return []

/-- Gives a mapping node new pairs. -/
def setPairs (i : Nat) (pairs : List (Nat × Nat)) : ValueM Unit :=
  modify fun b => { b with graph := { b.graph with nodes := b.graph.nodes.modify i fun
    | .mapping t _ => .mapping t pairs
    | n => n } }

/-- Whether a node is a mapping. -/
def isMappingNode (i : Nat) : ValueM Bool := do
  match (← get).graph.node i with
  | .mapping _ _ => return true
  | _ => return false

mutual

/-- Flattens a mapping node. -/
def flatten : Nat → Nat → ValueM Unit
  | 0, _ => throw .malformed
  | fuel + 1, i => flattenFrom fuel i 0 []

/-- Walks the pairs of a mapping node from `index` on, the pairs gathered from merges so far
given; at the end they go in front of what is left. -/
def flattenFrom : Nat → Nat → Nat → List (Nat × Nat) → ValueM Unit
  | 0, _, _, _ => throw .malformed
  | fuel + 1, i, index, merged => do
    let pairs ← pairsNow i
    match pairs[index]? with
    | none => if !merged.isEmpty then setPairs i (merged ++ pairs)
    | some (k, v) =>
      let t ← tagOf k
      if t = coreTag "merge" then
        setPairs i (pairs.eraseIdx index)
        match (← get).graph.node v with
        | .mapping _ _ =>
          flatten fuel v
          flattenFrom fuel i index (merged ++ (← pairsNow v))
        | .sequence _ subs =>
          let groups ← flattenEach fuel subs []
          flattenFrom fuel i index (merged ++ groups.reverse.flatten)
        | .scalar _ _ => throw .malformed
      else
        if t = coreTag "value" then
          modify fun b => { b with asString := k :: b.asString }
        flattenFrom fuel i (index + 1) merged

/-- Flattens each mapping of a list named by a merge key, gathering their pairs in order; an
item that is no mapping is refused. -/
def flattenEach : Nat → List Nat → List (List (Nat × Nat)) → ValueM (List (List (Nat × Nat)))
  | 0, _, _ => throw .malformed
  | _ + 1, [], acc => return acc
  | fuel + 1, s :: rest, acc => do
    if !(← isMappingNode s) then throw .malformed
    flatten fuel s
    flattenEach fuel rest (acc ++ [← pairsNow s])

end

/-- Days in a month of a year. -/
def daysIn (year month : Nat) : Nat :=
  if month = 2 then
    if (year % 4 = 0 && year % 100 != 0) || year % 400 = 0 then 29 else 28
  else if month = 4 || month = 6 || month = 9 || month = 11 then 30
  else 31

/-- A span of seconds as a time delta is written: whole days and the seconds left. -/
def deltaText (seconds : Int) : String :=
  let days := seconds / 86400
  let rest := seconds - days * 86400
  let fields := (if days != 0 then ["days=" ++ toString days] else []) ++
    (if rest != 0 then ["seconds=" ++ toString rest] else [])
  "datetime.timedelta(" ++ (if fields.isEmpty then "0" else ", ".intercalate fields) ++ ")"

/-- A timestamp literal: a date, optionally with a time and a zone, checked field by field. One
line feed may end it. -/
def timestampLiteral (text : String) : Except Refused Unit := do
  let s := text.toList
  let s := if s.getLast? = some '\n' then s.dropLast else s
  let num := fun (ds : List Char) => ds.foldl (fun v d => v * 10 + (d.toNat - '0'.toNat)) 0
  let noDate : Refused := (.noDate, "'NoneType' object has no attribute 'groupdict'")
  let bad := fun (m : String) => (Refusal.badValue, m)
  let digits := fun (lo hi : Nat) (s : List Char) =>
    let ds := (s.takeWhile Char.isDigit).take hi
    if lo ≤ ds.length then some (ds, s.drop ds.length) else none
  let some (y, r) := digits 4 4 s | throw noDate
  let '-' :: r := r | throw noDate
  let some (mo, r) := digits 1 2 r | throw noDate
  let '-' :: r := r | throw noDate
  let some (d, r) := digits 1 2 r | throw noDate
  let (year, month, day) := (num y, num mo, num d)
  if r.isEmpty then
    if year = 0 then throw (bad "year 0 is out of range")
    if month < 1 || 12 < month then throw (bad "month must be in 1..12")
    if day < 1 || daysIn year month < day then throw (bad "day is out of range for month")
    return
  let afterDate : Option (List Char) := match r with
    | c :: r' =>
      if c = 'T' || c = 't' then some r'
      else if c = ' ' || c = '\t' then some (r'.dropWhile fun c => c = ' ' || c = '\t')
      else none
    | [] => none
  let some r := afterDate | throw noDate
  let some (h, r) := digits 1 2 r | throw noDate
  let ':' :: r := r | throw noDate
  let some (mi, r) := digits 2 2 r | throw noDate
  let ':' :: r := r | throw noDate
  let some (se, r) := digits 2 2 r | throw noDate
  let r := match r with
    | '.' :: f => f.dropWhile Char.isDigit
    | r => r
  let zone ← (do
    let z := r.dropWhile fun c => c = ' ' || c = '\t'
    if r.isEmpty then pure none
    else match z with
      | ['Z'] => pure none
      | sgn :: zr =>
        if sgn != '+' && sgn != '-' then throw noDate
        let some (zh, zr) := digits 1 2 zr | throw noDate
        let zm ← match zr with
          | [] => pure []
          | ':' :: m => match digits 2 2 m with
            | some (zm, []) => pure zm
            | _ => throw noDate
          | _ => throw noDate
        let secs : Int := (num zh * 3600 + num zm * 60 : Nat)
        pure (some (if sgn = '-' then -secs else secs))
      | [] => throw noDate : Except Refused (Option Int))
  if let some secs := zone then
    if secs ≤ -86400 || 86400 ≤ secs then
      throw (bad ("offset must be a timedelta strictly between -timedelta(hours=24) and " ++
        "timedelta(hours=24), not " ++ deltaText secs ++ "."))
  if year = 0 then throw (bad "year 0 is out of range")
  if month < 1 || 12 < month then throw (bad "month must be in 1..12")
  if day < 1 || daysIn year month < day then throw (bad "day is out of range for month")
  if 23 < num h then throw (bad "hour must be in 0..23")
  if 59 < num mi then throw (bad "minute must be in 0..59")
  if 59 < num se then throw (bad "second must be in 0..59")

/-- A character of the base64 alphabet. -/
def isBase64 (c : Char) : Bool :=
  ('A' ≤ c && c ≤ 'Z') || ('a' ≤ c && c ≤ 'z') || ('0' ≤ c && c ≤ '9') || c = '+' || c = '/'

/-- Whether base64 data decodes to no bytes, or `none` when it does not decode. Characters
outside the alphabet are skipped; the data is read in groups of four characters, and it ends
early at `=` pads that complete a group of at least two characters; a group left incomplete at
the end does not decode. `group` counts the characters of the current group, `pads` the pads
after it, and `bytes` whether a byte was made. -/
def base64Empty? : List Char → Nat → Nat → Bool → Option Bool
  | [], group, _, bytes => if group = 0 then some !bytes else none
  | c :: rest, group, pads, bytes =>
    if c = '=' then
      if 2 ≤ group then
        if 4 ≤ group + pads + 1 then some !bytes else base64Empty? rest group (pads + 1) bytes
      else base64Empty? rest group pads bytes
    else if isBase64 c then base64Empty? rest ((group + 1) % 4) 0 (bytes || group != 0)
    else base64Empty? rest group pads bytes

/-- Whether binary data decodes to no bytes; data beyond ASCII, or that does not decode, is
refused. -/
def bytesEmpty (text : String) : Except Fault Bool :=
  if text.toList.any (·.toNat ≥ 128) then .error .malformed
  else
    match base64Empty? text.toList 0 0 false with
    | some e => .ok e
    | none => .error .malformed

/-- The value of a node, built on first use. -/
def build (i : Nat) : ValueM Value := do
  let b ← get
  if let some (some v) := b.built[i]? then return v
  if b.building.contains i then throw .malformed
  set { b with building := i :: b.building }
  let fuel := b.graph.nodes.size + 1
  let t ← tagOf i
  let collection := fun (v : Value) => do
    modify fun b => { b with toFill := b.toFill ++ [i] }
    pure v
  let v ← (do
    if t = coreTag "null" then
      let _ ← scalarText fuel i
      pure Value.null
    else if t = coreTag "bool" then
      let text ← scalarText fuel i
      let lower := Text.lowerText text
      if lower = "yes" || lower = "true" || lower = "on" then pure (Value.bool true)
      else if lower = "no" || lower = "false" || lower = "off" then pure (Value.bool false)
      else refuseLiteral (.unknownWord, Text.quotedWith b.standIns lower)
    else if t = coreTag "int" then
      pure (Value.int (← literal (intLiteral b.standIns (← scalarText fuel i))))
    else if t = coreTag "float" then
      pure (Value.float (← literal (floatLiteralIsZero b.standIns (← scalarText fuel i))))
    else if t = coreTag "binary" then
      match bytesEmpty (← scalarText fuel i) with
      | .ok e => pure (Value.bytes e)
      | .error f => throw f
    else if t = coreTag "timestamp" then
      let text ← scalarText fuel i
      match b.graph.node i with
      | .mapping _ _ =>
        refuseLiteral (.notText, "expected string or bytes-like object, got 'list'")
      | _ =>
        literal (timestampLiteral text)
        pure Value.timestamp
    else if t = strTag then pure (Value.str (← scalarText fuel i))
    else if t = seqTag then collection (Value.sequence i)
    else if t = mapTag then collection (Value.mapping i)
    else if t = coreTag "set" then collection (Value.set i)
    else if t = coreTag "omap" || t = coreTag "pairs" then collection (Value.pairList i)
    else throw .malformed : ValueM Value)
  modify fun b => { b with
    built := b.built.setIfInBounds i (some v),
    building := b.building.erase i }
  return v

/-- Records a collection's contents. -/
def store (i : Nat) (c : Contents) : ValueM Unit :=
  modify fun b => { b with contents := b.contents.setIfInBounds i (some c) }

/-- The pairs of a mapping node, built; a key that is a collection is refused. -/
def buildPairs (i : Nat) : ValueM (List (Value × Value)) := do
  flatten (← get).flattenFuel i
  let pairs ← pairsNow i
  let mut out : List (Value × Value) := []
  for (k, v) in pairs do
    let key ← build k
    if !key.isHashable then throw .malformed
    let value ← build v
    out := out ++ [(key, value)]
  return out

/-- Fills a collection made empty before. A mapping or a set must come from a mapping node, and
a sequence or a list of pairs from a sequence node. -/
def fill (i : Nat) : ValueM Unit := do
  let g := (← get).graph
  match (← get).built[i]? with
  | some (some (.sequence _)) =>
    match g.node i with
    | .sequence _ items =>
      let mut vs : List Value := []
      for it in items do
        vs := vs ++ [← build it]
      store i (.items vs)
    | _ => throw .malformed
  | some (some (.mapping _)) =>
    if !(← isMappingNode i) then throw .malformed
    store i (.pairs (← buildPairs i))
  | some (some (.set _)) =>
    if !(← isMappingNode i) then throw .malformed
    let ps ← buildPairs i
    store i (.items (ps.map (·.1)))
  | some (some (.pairList _)) =>
    match g.node i with
    | .sequence _ subs =>
      let mut ps : List (Value × Value) := []
      for s in subs do
        match g.node s with
        | .mapping _ [(k, v)] =>
          let key ← build k
          let value ← build v
          ps := ps ++ [(key, value)]
        | _ => throw .malformed
      store i (.pairs ps)
    | _ => throw .malformed
  | _ => pure ()

/-- Fills the collections waiting, in the order they were met, until none waits. -/
def fillAll : Nat → ValueM Unit
  | 0 => pure ()
  | n + 1 => do
    match (← get).toFill with
    | [] => pure ()
    | i :: rest =>
      modify fun b => { b with toFill := rest }
      fill i
      fillAll n

/-- The value of a document graph whose text writes lone surrogates by the given stand-ins. -/
def Document.ofGraph (g : Graph) (si : StandIns) : Except Fault Document := do
  let n := g.nodes.size
  let start : Building := ⟨g, si, Array.replicate n none, [], [], Array.replicate n none, []⟩
  let (root, b) ← (do
    let r ← build g.root
    fillAll (n + 1)
    pure r : ValueM Value).run start
  return ⟨root, b.contents⟩

/-- The value of a YAML text, read by a loader called with `depth` calls in use: null when the
text holds no document. -/
def Document.load (depth : Nat) (text : String) : Except Fault Document := do
  let si := standInsFor text.toList
  match ← Graph.ofTokens? depth (tokens? (some si) text.toList) with
  | none => return ⟨.null, #[]⟩
  | some g => Document.ofGraph g si

end MarkupTidy.Yaml
