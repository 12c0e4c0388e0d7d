/-
**Resolving field abbreviations.**

While a tree is read from a document, its field abbreviations are resolved to fields. A `Resolver`
answers with a field or a fault and may add to the table on the way.

* `Resolver.lookup`: looks abbreviations up and suggests similar ones for those it does not know.
* `Resolver.registering`: registers the abbreviations it does not know.
-/

import DisplayFilter.Field.Table
import DisplayFilter.Suggestion

namespace DisplayFilter

/-- Answers an abbreviation with a field, given the table, and hands on the table. -/
abbrev Resolver := RawText → Table → Except Fault (Field × Table)

namespace Resolver

/-- Looks an abbreviation up in the table. -/
def lookup : Resolver := fun abbreviation table =>
  match table.lookup? abbreviation with
  | some field => .ok (field, table)
  | none =>
    let similar := Suggestion.suggest abbreviation table.abbreviations
    .error (.tree .unknownField "" ("unknown field " ++ abbreviation.quoted)
      (Suggestion.hint similar))

/-- Looks an abbreviation up in the table and registers it if it is not there. -/
def registering : Resolver := fun abbreviation table =>
  match table.lookup? abbreviation with
  | some field => .ok (field, table)
  | none => .ok (table.register abbreviation .empty .empty)

end Resolver

end DisplayFilter
