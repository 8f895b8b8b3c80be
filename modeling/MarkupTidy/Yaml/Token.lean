/-!
# Yaml/Token — the tokens of a YAML text

A YAML text reads as a stream of tokens: indicators, the starts and ends of blocks that
indentation opens and closes, and scalars with their properties.
-/

namespace MarkupTidy.Yaml

/-- What a `%` directive says. -/
inductive Directive where
  /-- `%YAML major.minor` -/
  | version (major minor : Nat)
  /-- `%TAG handle prefix` -/
  | tagPrefix (handle pfx : String)
  /-- any other directive, which is ignored -/
  | other
  deriving DecidableEq, Repr

/-- A token of a YAML text. -/
inductive Token where
  | streamStart
  | streamEnd
  | directive (d : Directive)
  | documentStart
  | documentEnd
  | blockSequenceStart
  | blockMappingStart
  | blockEnd
  | flowSequenceStart
  | flowSequenceEnd
  | flowMappingStart
  | flowMappingEnd
  | key
  | value
  | blockEntry
  | flowEntry
  | alias (name : String)
  | anchor (name : String)
  /-- A tag: its handle (none for a verbatim tag or a lone `!`) and suffix. -/
  | tag (handle : Option String) (suffix : String)
  /-- A scalar, and whether it was written plain (without quotes or block indicator). -/
  | scalar (text : String) (plain : Bool)
  deriving DecidableEq, Repr

end MarkupTidy.Yaml
