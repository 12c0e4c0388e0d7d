/-
**Definitions of TOML keys.**

A key of a document is defined once: as a value, as a table, or as an array of tables. A header
opens a table and lays down the tables above it, and a key of several parts lays down the tables in
between, which may be added to until the next header closes them. Each new table of an array starts
afresh.

* `Definitions.openTable`, `Definitions.openArrayTable`: what is defined after a header.
* `Definitions.assign`: what is defined after an assignment.
* `checkValue`: checks the keys inside a value.
-/

import DisplayFilter.Toml.Value

namespace DisplayFilter.Toml

/-- What a key is defined as. -/
inductive DefinitionKind where
  | value
  | table
  | arrayTable
deriving DecidableEq, Repr

/-- The name of a kind of definition. -/
def DefinitionKind.name : DefinitionKind → String
  | .value => "value"
  | .table => "table"
  | .arrayTable => "array table"

/-- What can be wrong with the keys of a document. -/
inductive DefinitionError where
  | again (name : RawText)
  | notTable (name : RawText) (kind : DefinitionKind)
  | closed (name : RawText)
  | headerNotTable (name : RawText) (kind : DefinitionKind)
  | headerAgain (name : RawText)
  | headerNotArray (name : RawText) (kind : DefinitionKind)
deriving DecidableEq, Repr

/-- The wording of a definition error. -/
def DefinitionError.message : DefinitionError → String
  | .again name => "key " ++ name.shown ++ " is already defined"
  | .notTable name kind => "expected " ++ name.shown ++ " to be a table, not a " ++ kind.name
  | .closed name =>
    "cannot redefine table " ++ name.shown ++ " that has already been explicitly defined"
  | .headerNotTable name kind => "key " ++ name.shown ++ " should be a table, not a " ++ kind.name
  | .headerAgain name => "table " ++ name.shown ++ " already exists"
  | .headerNotArray name kind =>
    "key " ++ kind.name ++ " already exists as a " ++ name.shown ++
      ",  but should be an array table"

/-- A key that is defined. -/
structure Definition where
  path : Key
  kind : DefinitionKind
  /-- Whether nothing may be added to it. -/
  isClosed : Bool
  /-- Whether an assignment laid it down that a header can still close. -/
  isAssigned : Bool
deriving DecidableEq, Repr

/-- The keys that are defined so far, and the table that assignments go to. -/
structure Definitions where
  known : List Definition
  current : Key

namespace Definitions

/-- No definitions. -/
def none : Definitions := ⟨[], []⟩

/-- The definition of a key. -/
def find? (definitions : Definitions) (path : Key) : Option Definition :=
  definitions.known.find? (·.path = path)

/-- One more definition. -/
def add (definitions : Definitions) (definition : Definition) : Definitions :=
  { definitions with known := definition :: definitions.known }

/-- The definitions with another one for a key. -/
def replace (definitions : Definitions) (changed : Definition) : Definitions :=
  { definitions with
    known := definitions.known.map fun known =>
      if known.path = changed.path then changed else known }

/-- Whether a key is inside the table of another. -/
def isInside (table path : Key) : Bool :=
  table.isPrefixOf path && table.length < path.length

/-- Closes the tables that assignments laid down in the current table. -/
def closeCurrent (definitions : Definitions) : Definitions :=
  { definitions with
    known := definitions.known.map fun known =>
      if known.isAssigned && isInside definitions.current known.path then
        { known with isClosed := true, isAssigned := false }
      else known }

/-- The keys of the tables above the one with the given key, the outermost first. -/
def above (path : Key) : List Key :=
  (List.range' 1 (path.length - 1)).map path.take

/-- The last part of a key. -/
def lastName (path : Key) : RawText :=
  path.getLast?.getD .empty

/-- Lays down a table above the one that a header opens. -/
def layDown (definitions : Definitions) (path : Key) : Except DefinitionError Definitions :=
  match definitions.find? path with
  | .none => .ok (definitions.add ⟨path, .table, false, false⟩)
  | some known =>
    if known.kind = .value then .error (.notTable (lastName path) known.kind)
    else .ok definitions

/-- What is defined after the header of a table. -/
def openTable (definitions : Definitions) (path : Key) : Except DefinitionError Definitions := do
  let definitions ← (above path).foldlM layDown definitions.closeCurrent
  let definitions := { definitions with current := path }
  match definitions.find? path with
  | .none => return definitions.add ⟨path, .table, true, false⟩
  | some known =>
    if known.kind ≠ .table then throw (.headerNotTable (lastName path) known.kind)
    if known.isClosed then throw (.headerAgain (lastName path))
    return definitions.replace { known with isClosed := true }

/-- What is defined after the header of one more table of an array. -/
def openArrayTable (definitions : Definitions) (path : Key) :
    Except DefinitionError Definitions := do
  let definitions ← (above path).foldlM layDown definitions.closeCurrent
  let definitions := { definitions with current := path }
  match definitions.find? path with
  | .none => return definitions.add ⟨path, .arrayTable, true, false⟩
  | some known =>
    if known.kind ≠ .arrayTable then throw (.headerNotArray (lastName path) known.kind)
    let left := definitions.known.filter fun known => !isInside path known.path
    return { definitions with known := left }

/-- Lays down a table on the way to the key of an assignment. -/
def passThrough (definitions : Definitions) (path : Key) : Except DefinitionError Definitions :=
  match definitions.find? path with
  | .none => .ok (definitions.add ⟨path, .table, false, true⟩)
  | some known =>
    if known.kind ≠ .table then .error (.notTable (lastName path) known.kind)
    else if known.isClosed then .error (.closed (lastName path))
    else .ok definitions

/-- What is defined after an assignment to a key of the current table. -/
def assign (definitions : Definitions) (key : Key) : Except DefinitionError Definitions := do
  let path := definitions.current ++ key
  let between := (above path).drop definitions.current.length
  let definitions ← between.foldlM passThrough definitions
  if (definitions.find? path).isSome then throw (.again (lastName path))
  return definitions.add ⟨path, .value, false, true⟩

end Definitions

mutual

/-- Checks the keys inside a value. -/
def checkValue : Value → Except DefinitionError Unit
  | .array items => checkItems items
  | .table entries => checkEntries .none entries
  | _ => .ok ()

/-- Checks the keys inside the items of an array. -/
def checkItems : List Value → Except DefinitionError Unit
  | [] => .ok ()
  | item :: items => do
    checkValue item
    checkItems items

/-- Checks the keys of a table in braces after those that are already defined. -/
def checkEntries (definitions : Definitions) : List (Key × Value) → Except DefinitionError Unit
  | [] => .ok ()
  | (key, value) :: entries => do
    let definitions ← definitions.assign key
    checkValue value
    checkEntries definitions entries

end

end DisplayFilter.Toml
