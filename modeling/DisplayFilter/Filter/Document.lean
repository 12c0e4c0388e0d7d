/-
**Compiling filters given as documents.**

A filter tree given as a document is decoded and compiled in one go. With a field table its fields
are looked up there; without one every abbreviation is registered in a new table when it is met.

* `compileDocument`: the program of a document, with its log and the table used.
-/

import DisplayFilter.Filter
import DisplayFilter.Outline.Decode

namespace DisplayFilter

/-- The tree that a document holds and the table used for its fields. -/
def decodeDocument (table? : Option Table) (text : RawText) : Except Fault (Node × Table) :=
  match table? with
  | some table => (Outline.decode .lookup text).run table
  | none => (Outline.decode .registering text).run .empty

/-- The program of a document, with what its log shows and the table used. -/
def compileDocument (table? : Option Table) (options : List FilterOption) (text : RawText) :
    Except Fault (Program × List CompileEvent × Table) := do
  let (root, table) ← decodeDocument table? text
  let (program, events) ← compileFilter table.registry options root
  return (program, events, table)

end DisplayFilter
