/-!
# Yaml/Fault — why a YAML text gives no value

A text that is not YAML, or that this loader refuses (an unknown tag, a key that cannot be
hashed, several documents), is `malformed`; how it is malformed is not reported. A literal with
an explicit type that it does not fit (`!!int abc`) is `refused`, with the kind of refusal and
its words; so is a document nested deeper than the loader follows.
-/

namespace MarkupTidy.Yaml

/-- The ways a typed literal can be refused. -/
inductive Refusal where
  /-- The literal does not read as its type (`!!int abc`, `!!float x`, a day out of range). -/
  | badValue
  /-- A boolean literal that is no known word. -/
  | unknownWord
  /-- A number literal with no characters at all. -/
  | empty
  /-- A timestamp literal with no date in it. -/
  | noDate
  /-- A timestamp given by a mapping, whose own value is no text to match. -/
  | notText
  /-- A number too large for the arithmetic that reads it. -/
  | tooLarge
  /-- Collections nested deeper than the loader follows. -/
  | tooDeep
  deriving DecidableEq, Repr

/-- Why a YAML text gives no value. -/
inductive Fault where
  | malformed
  | refused (kind : Refusal) (message : String)
  deriving DecidableEq, Repr

end MarkupTidy.Yaml
