/-
**What can be wrong with a document.**

A text fails to be a document, or a document fails to have the wanted form, for one of a few causes.
They are told apart here by the rule that is broken.

* `Error`: the causes.
-/

namespace DisplayFilter.Yaml

/-- The rule that a text or document breaks. -/
inductive Error where
  /-- A character that no document may hold. -/
  | character
  /-- A character at which no token starts. -/
  | token
  /-- Indentation by a tab, or an indicator where the indentation does not admit it. -/
  | indentation
  /-- A key without its colon. -/
  | key
  /-- Collections nested too deeply. -/
  | nesting
  /-- A malformed or repeated directive. -/
  | directive
  /-- A malformed anchor, alias or tag. -/
  | property
  /-- A scalar that is cut off or holds an unknown escape. -/
  | scalar
  /-- Tokens in an order that forms no document. -/
  | grammar
  /-- An alias without its anchor, or one that stands inside its own anchor. -/
  | alias
  /-- A mapping with the same key twice. -/
  | duplicate
  /-- A merge of something that is not a mapping. -/
  | merge
  /-- A value that is not of the wanted kind. -/
  | kind
  /-- Aliases that make a document grow out of proportion. -/
  | growth
deriving DecidableEq, Repr

end DisplayFilter.Yaml
