/-
**Tokens of a document.**

A document is taken apart into tokens. Some stand for an indicator in the text, others for a change
of indentation: they mark where a block collection starts and ends.

* `Token`: the tokens.
-/

namespace DisplayFilter.Yaml

/-- A token of a document. -/
inductive Token where
  /-- The end of the text. -/
  | streamEnd
  /-- The version of the format that a document is written in. -/
  | version (major minor : Nat)
  /-- A tag handle and the address that it is short for. -/
  | handle (name address : String)
  | documentStart
  | documentEnd
  /-- A more deeply indented sequence. -/
  | blockSequence
  /-- A more deeply indented mapping. -/
  | blockMapping
  /-- The end of a block collection. -/
  | blockEnd
  | flowSequence
  | flowSequenceEnd
  | flowMapping
  | flowMappingEnd
  /-- The hyphen before an item of a block sequence. -/
  | blockEntry
  /-- The comma between items of a flow collection. -/
  | flowEntry
  /-- The start of a key, with or without an indicator. -/
  | key
  /-- The colon before a value. -/
  | value
  | alias (name : String)
  | anchor (name : String)
  /-- A tag as a handle and a suffix; a whole tag has no handle. -/
  | tag (handle suffix : String)
  /-- A scalar, and whether it is plain. -/
  | scalar (text : String) (plain : Bool)
deriving DecidableEq, Repr

end DisplayFilter.Yaml
