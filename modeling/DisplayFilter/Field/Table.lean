/-
**Field tables.**

A `Table` numbers fields in the order they are registered. Fields with one abbreviation form a
chain: each entry links to the one registered before it under that abbreviation and to the one
registered after it. The table remembers the last entry of each chain, where the next field is
hooked in; the first entry is the chain's canonical field.

* `Table.register`: adds a field at the end of its chain.
* `Table.place?`: where the table holds a field of its own.
* `Table.canonical`, `Table.siblings`: the first field of a chain, and all of it.
* `Table.lookup?`: the canonical field under an abbreviation.
* `Table.abbreviations`: the registered abbreviations.
-/

import DisplayFilter.Fault
import DisplayFilter.Field

namespace DisplayFilter

/-- A registered field with its neighbours in the chain of its abbreviation. -/
structure Entry where
  field : Field
  previous : Option Nat
  next : Option Nat
deriving DecidableEq, Repr

/-- Registered fields by number, and the last number registered under each abbreviation. -/
structure Table where
  entries : Array Entry
  latest : List (RawText × Nat)
deriving DecidableEq, Repr

namespace Table

/-- The table without fields. -/
def empty : Table := ⟨#[], []⟩

/-- How many fields are registered. -/
def size (table : Table) : Nat :=
  table.entries.size

/-- The number of the last field registered under an abbreviation. -/
def latest? (table : Table) (abbreviation : RawText) : Option Nat :=
  table.latest.lookup abbreviation

/-- The field with the given number. -/
def field? (table : Table) (id : Nat) : Option Field :=
  table.entries[id]?.map (·.field)

/-- The field with the given number, or the fault that there is none. -/
def get (table : Table) (id : Int) : Except Fault Field :=
  match if id < 0 then none else table.field? id.toNat with
  | some field => .ok field
  | none => .error (.plain ("unknown field id " ++ Number.decimal id))

/-- The number of the field registered before this one under its abbreviation. -/
def previous? (table : Table) (id : Nat) : Option Nat :=
  table.entries[id]?.bind (·.previous)

/-- The number of the field registered after this one under its abbreviation. -/
def next? (table : Table) (id : Nat) : Option Nat :=
  table.entries[id]?.bind (·.next)

/-- Points an entry to its successor in the chain. -/
def link (entries : Array Entry) (id next : Nat) : Array Entry :=
  entries.modify id fun entry => { entry with next := some next }

/-- Adds a field at the end of the chain of its abbreviation. -/
def register (table : Table) (abbreviation name type : RawText) : Field × Table :=
  let id := table.size
  let field : Field := ⟨id, abbreviation, name, type⟩
  let previous := table.latest? abbreviation
  let entries :=
    match previous with
    | some last => link table.entries last id
    | none => table.entries
  let others := table.latest.filter fun entry => entry.1 != abbreviation
  (field, ⟨entries.push ⟨field, previous, none⟩, (abbreviation, id) :: others⟩)

/-- The number of the first field in the chain through a number. -/
def first (table : Table) (id : Nat) : Nat :=
  match table.previous? id with
  | none => id
  | some previous => if previous < id then table.first previous else id
termination_by id

/-- The numbers from one on to the end of its chain. -/
def chainFrom (table : Table) (id : Nat) : List Nat :=
  match table.next? id with
  | none => [id]
  | some next =>
    if id < next ∧ next < table.size then id :: table.chainFrom next else [id]
termination_by table.size - id

/-- The number under which the table holds a field, if it is one of its own. -/
def place? (table : Table) (field : Field) : Option Nat :=
  if table.field? field.id.toNat = some field then some field.id.toNat else none

/-- The first-defined field that shares the field's abbreviation. A field that is not of this table is
in no chain of it and stands for itself. -/
def canonical (table : Table) (field : Field) : Field :=
  ((table.place? field).bind fun id => table.field? (table.first id)).getD field

/-- Every field that shares the field's abbreviation, in the order of registration; only the field
itself if it is not of this table. -/
def siblings (table : Table) (field : Field) : List Field :=
  match table.place? field with
  | none => [field]
  | some id => (table.chainFrom (table.first id)).filterMap table.field?

/-- The registry that follows the table's chains. -/
def registry (table : Table) : Registry where
  canonical := table.canonical
  siblings := table.siblings

/-- The canonical field registered under an abbreviation. -/
def lookup? (table : Table) (abbreviation : RawText) : Option Field :=
  (table.latest? abbreviation).bind fun id => table.field? (table.first id)

/-- Every registered abbreviation once, in the order of first registration. -/
def abbreviations (table : Table) : List RawText :=
  table.entries.toList.filterMap fun entry =>
    if entry.previous.isNone then some entry.field.abbreviation else none

/-- The table with the given fields registered in order. -/
def ofList (fields : List (RawText × RawText × RawText)) : Table :=
  fields.foldl (fun table field => (table.register field.1 field.2.1 field.2.2).2) empty

end Table

end DisplayFilter
