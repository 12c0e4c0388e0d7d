/-
**Values of TOML.**

A value is read as it is written; its constant is told afterwards. Numbers, dates and times keep
their signs until then, because a document can be wrong in other ways before they count. A table
has its entries under keys of several parts, each part but the last naming a table inside.

* `Value`: the values as they are written.
* `update`: a table with a change under a key.
* `Value.constant`: the constant that a value stands for.
-/

import DisplayFilter.Toml.Moment
import DisplayFilter.Toml.Number

namespace DisplayFilter.Toml

/-- The parts of a key. -/
abbrev Key := List RawText

/-- A value as it is written. -/
inductive Value where
  | text (value : RawText)
  | truth (value : Bool)
  | integer (written : List Char)
  | real (written : List Char)
  | moment (kind : MomentKind) (written : List Char)
  | array (items : List Value)
  | table (entries : List (Key × Value))

/-- What can be wrong with a value that is well written. -/
inductive ValueError where
  | number (error : NumberError)
  | moment (error : MomentError)
deriving DecidableEq, Repr

/-- The wording of a value error. -/
def ValueError.message : ValueError → String
  | .number error => error.message
  | .moment error => error.message

/-! ### Tables -/

/-- The entries of a table. -/
abbrev Entries := List (RawText × Constant)

namespace Entries

/-- The entries with one more, which takes the place of an entry with the same key. -/
def put (entries : Entries) (key : RawText) (value : Constant) : Entries :=
  if entries.any fun entry => entry.1 = key then
    entries.map fun entry => if entry.1 = key then (key, value) else entry
  else entries ++ [(key, value)]

/-- The entries of a constant: those of a table, or of the last table of an array. -/
def ofConstant : Constant → Entries
  | .record entries => entries
  | .list items =>
    match items.getLast? with
    | some (.record entries) => entries
    | _ => []
  | _ => []

/-- A constant with other entries in the place of its own. -/
def within : Constant → Entries → Constant
  | .list items, entries => .list (items.dropLast ++ [.record entries])
  | _, entries => .record entries

end Entries

/-- A constant with a change to the part of it that a key names; where there is no such part the
change applies to an empty table. -/
def update (change : Constant → Constant) : Key → Constant → Constant
  | [], constant => change constant
  | name :: names, constant =>
    let entries := Entries.ofConstant constant
    let part := (entries.lookup name).getD (.record [])
    Entries.within constant (entries.put name (update change names part))

/-! ### Constants -/

mutual

/-- The constant that a value stands for. -/
def Value.constant : Value → Except ValueError Constant
  | .text value => .ok (.string value)
  | .truth value => .ok (.bool value)
  | .integer written => ((integer written).map (.integer .int64 ·)).mapError .number
  | .real written => ((real written).map (.real .double ·)).mapError .number
  | .moment kind written => (moment kind written).mapError .moment
  | .array items => (itemConstants items).map .list
  | .table entries => tableConstant (.record []) entries

/-- The constants of the items of an array. -/
def itemConstants : List Value → Except ValueError (List Constant)
  | [] => .ok []
  | item :: items => do
    let first ← item.constant
    return first :: (← itemConstants items)

/-- A table with the constants of further entries. -/
def tableConstant (table : Constant) : List (Key × Value) → Except ValueError Constant
  | [] => .ok table
  | (key, value) :: entries => do
    let constant ← value.constant
    tableConstant (update (fun _ => constant) key table) entries

end

end DisplayFilter.Toml
