/-
**Configuration files.**

A configuration file gives values to the names of flags. Its format is told by the extension of its
name. Names are compared in lower case; a later value of a name replaces an earlier one. A file of
variables can refer to the environment, which is asked for while it is read.

* `Config.read`: the configuration that a text of some format holds.
* `Config.value?`: the value of a name.
-/

import DisplayFilter.Dotenv
import DisplayFilter.Fault
import DisplayFilter.JsonValue.Reader
import DisplayFilter.Text.Lower
import DisplayFilter.Toml.Document
import DisplayFilter.Yaml.Reading

namespace DisplayFilter.Cli

/-- The values of a configuration. -/
abbrev Config := List (RawText × Constant)

/-- A format of configuration files. -/
inductive ConfigFormat where
  | yaml
  | json
  | toml
  | dotenv
  /-- A format that is known by its extension but cannot be read. -/
  | other
deriving DecidableEq, Repr

namespace ConfigFormat

/-- The extensions of configuration files. -/
def extensions : List (String × ConfigFormat) :=
  [("json", .json), ("toml", .toml), ("yaml", .yaml), ("yml", .yaml), ("properties", .other),
    ("props", .other), ("prop", .other), ("hcl", .other), ("tfvars", .other), ("dotenv", .dotenv),
    ("env", .dotenv), ("ini", .other)]

/-- What follows the last point in the last part of a path; nothing without a point. -/
def extensionOf (path : String) : String :=
  let name := path.toList.reverse.takeWhile (· ≠ '/')
  if name.contains '.' then String.ofList (name.takeWhile (· ≠ '.')).reverse else ""

end ConfigFormat

namespace Config

/-! ### YAML -/

/-- The values of a YAML mapping. -/
def ofYaml (text : RawText) : Except Yaml.Error Config := do
  let document ← Yaml.Document.read text
  return (← document.readWith (Yaml.Tree.table? document.depth)).getD []

/-! ### JSON -/

mutual

/-- The constant of a JSON value. -/
def constantOf : JsonValue → Constant
  | .null => .null
  | .bool value => .bool value
  | .number text => .real .double (Number.Format.double.ofText text)
  | .string value => .string value
  | .array items => .list (constantsOf items)
  | .object members => .record (entriesOf members)

/-- The constants of JSON values. -/
def constantsOf : List JsonValue → List Constant
  | [] => []
  | item :: items => constantOf item :: constantsOf items

/-- The constants of the members of a JSON object. -/
def entriesOf : List (String × JsonValue) → List (RawText × Constant)
  | [] => []
  | (key, value) :: members => (key, constantOf value) :: entriesOf members

end

/-- A number of a JSON document that no constant can hold, and the keys and positions that lead to
it. -/
structure Excess where
  path : List String
  number : String

mutual

/-- The first number in a JSON value that no constant can hold. -/
def excess? : JsonValue → Option Excess
  | .number text =>
    if (Number.Format.double.read? text.toList).isNone then some ⟨[], text⟩ else none
  | .array items => excessItem? 0 items
  | .object members => excessMember? members
  | _ => none

/-- The first number in the items of an array that no constant can hold. -/
def excessItem? (position : Nat) : List JsonValue → Option Excess
  | [] => none
  | item :: items =>
    match excess? item with
    | some excess => some { excess with path := Number.decimal position :: excess.path }
    | none => excessItem? (position + 1) items

/-- The first number in the members of an object that no constant can hold. -/
def excessMember? : List (String × JsonValue) → Option Excess
  | [] => none
  | (key, value) :: members =>
    match excess? value with
    | some excess => some { excess with path := key :: excess.path }
    | none => excessMember? members

end

/-- A key in a path, where a slash and a tilde are written with a digit behind a tilde. -/
def pathPart (key : String) : String :=
  String.ofList (key.toList.flatMap fun character =>
    if character = '~' then ['~', '0'] else if character = '/' then ['~', '1'] else [character])

/-- The fault of a number that no constant can hold. -/
def Excess.fault (excess : Excess) : Fault :=
  .plain ("json: cannot unmarshal number " ++ excess.number ++ " into Go struct field ." ++
    ".".intercalate (excess.path.map pathPart) ++ " of type float64")

/-- The fault of a JSON document that is no object. -/
def notObject (kind : String) : Fault :=
  .plain ("json: cannot unmarshal " ++ kind
    ++ " into Go value of type map[string]interface \x7b\x7d")

/-- The values of a JSON object. -/
def ofJson (text : RawText) : Except Fault Config :=
  match JsonValue.read text with
  | .error error => .error (.plain error.message)
  | .ok .null => .ok []
  | .ok (.object members) =>
    match excessMember? members with
    | some excess => .error excess.fault
    | none => .ok (entriesOf members)
  | .ok (.array _) => .error (notObject "array")
  | .ok (.bool _) => .error (notObject "bool")
  | .ok (.number _) => .error (notObject "number")
  | .ok (.string _) => .error (notObject "string")

/-! ### Configurations -/

/-- What a fault of reading is reported as. -/
def parsing : String := "While parsing config"

/-- The configuration that a text of some format holds, given the environment. -/
def read {m : Type → Type} [Monad m] (environment : String → m (Option String))
    (format : ConfigFormat) (text : RawText) : ExceptT Fault m Config := do
  let wrapped (message : String) : Fault := .wrapped parsing (.plain message)
  let result (outcome : Except Fault Config) : ExceptT Fault m Config := ExceptT.mk (pure outcome)
  match format with
  | .yaml => result ((ofYaml text).mapError fun _ => .document parsing)
  | .json => result ((ofJson text).mapError (.wrapped parsing))
  | .toml => result ((Toml.read text).mapError fun error => wrapped error.message)
  | .dotenv =>
    let read ← (Dotenv.read environment text).adapt fun error => wrapped error.message
    return read.reverse.map fun (name, value) => (name, .string value)
  | .other => throw (wrapped "decoder not found for this format")

/-- The value of a name; nothing at all is no value. -/
def value? (config : Config) (name : String) : Option Constant :=
  match config.reverse.find? fun entry => Text.lowerCase entry.1.shown = name with
  | some (_, .null) | none => none
  | some (_, value) => some value

end Config

end DisplayFilter.Cli
