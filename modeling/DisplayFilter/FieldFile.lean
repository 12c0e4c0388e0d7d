/-
**Field tables in files.**

A field table can be given as a document with a list of fields, each with an abbreviation and
optionally a name and a type. The fields are registered in the order of the list.

* `FieldFile.load`: the table that a text holds.
-/

import DisplayFilter.Field.Table
import DisplayFilter.Fault
import DisplayFilter.Yaml.Reading

namespace DisplayFilter.FieldFile

/-- An entry of a list of fields. -/
structure FieldEntry where
  abbreviation : RawText
  name : RawText
  type : RawText
deriving DecidableEq, Repr

/-- How the value of a key is added to an entry. -/
def addText? : String → Option (FieldEntry → Yaml.Tree → Yaml.Reading FieldEntry)
  | "abbrev" => some (adding fun entry abbreviation => { entry with abbreviation })
  | "name" => some (adding fun entry name => { entry with name })
  | "type" => some (adding fun entry type => { entry with type })
  | _ => none
where
  /-- Adds a text, if there is one. -/
  adding (change : FieldEntry → RawText → FieldEntry) (entry : FieldEntry) (tree : Yaml.Tree) :
      Yaml.Reading FieldEntry := do
    return (← tree.text?).elim entry (change entry)

/-- Reads the list of entries; those that are nothing at all are left out. -/
def readEntries (depth : Nat) (tree : Yaml.Tree) : Yaml.Reading (List FieldEntry) := do
  let items ← tree.items? fun item => item.record? depth ⟨.empty, .empty, .empty⟩ addText?
  return (items.getD []).filterMap id

/-- Reads the entries of a document. -/
def entries (depth : Nat) (tree : Yaml.Tree) : Yaml.Reading (Option (List FieldEntry)) :=
  tree.record? depth [] fun name =>
    if name = "fields" then some fun _ tree => readEntries depth tree else none

/-- Registers entries from the given index on; each has to have an abbreviation. -/
def register : Table → Nat → List FieldEntry → Except Fault Table
  | table, _, [] => .ok table
  | table, index, entry :: entries =>
    if entry.abbreviation.isEmpty then
      .error (.plain ("field registry entry " ++ Number.decimal index ++ ": missing abbrev"))
    else register (table.register entry.abbreviation entry.name entry.type).2 (index + 1) entries

/-- The entries that a text holds. -/
def read (text : RawText) : Except Yaml.Error (List FieldEntry) := do
  let document ← Yaml.Document.read text
  return (← document.readWith (entries document.depth)).getD []

/-- The table that a text holds. -/
def load (text : RawText) : Except Fault Table :=
  match read text with
  | .ok entries => register .empty 0 entries
  | .error _ => .error (.document "decoding field registry")

end DisplayFilter.FieldFile
