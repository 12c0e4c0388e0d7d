/-
**Protocol fields and registries.**

A `Field` is one registered protocol field. Several fields may share an abbreviation; a `Registry`
tells which of them represents the others and lists them all.
-/

import DisplayFilter.RawText

namespace DisplayFilter

/-- One registered protocol field. Fields are told apart by what they hold and not by where they are
kept: two records with the same contents are one field. A table numbers its fields, so it has no two
such records. -/
structure Field where
  /-- The number in the table, from zero on. A field made by hand may have any. -/
  id : Int
  abbreviation : RawText
  name : RawText
  type : RawText
deriving DecidableEq, Repr

/-- What a compilation asks about fields that share an abbreviation. -/
structure Registry where
  /-- The first-defined field that shares the field's abbreviation. -/
  canonical : Field → Field
  /-- Every field that shares the field's abbreviation, the canonical one first. -/
  siblings : Field → List Field

/-- The registry in which every field stands for itself. -/
def Registry.identity : Registry where
  canonical field := field
  siblings field := [field]

end DisplayFilter
