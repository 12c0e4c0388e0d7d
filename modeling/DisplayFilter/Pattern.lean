/-
**Patterns.**

The right side of a `matches` test is a regular expression, kept by its source text once the text
has been found well formed.
-/

import DisplayFilter.Pattern.Grammar

namespace DisplayFilter

/-- A regular expression, by its source text. -/
structure Pattern where
  source : String
deriving DecidableEq, Repr

/-- The pattern of a text that is well formed. -/
def Pattern.compile (text : RawText) : Except Pattern.GrammarError Pattern :=
  (Pattern.check text).map fun _ => ⟨text.shown⟩

end DisplayFilter
