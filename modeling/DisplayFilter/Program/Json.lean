/-
**The JSON form of a program.**

The form in which a program is handed to the machine. Instructions show the slots that their opcode
uses; operands show what their kind holds and leave out what is empty.

* `Program.toJson`: the document, or the first operand that has no JSON form.
* `Program.json`: its text.
-/

import DisplayFilter.Fault
import DisplayFilter.JsonValue
import DisplayFilter.Program

namespace DisplayFilter

/-- Why a program has no JSON form. -/
inductive JsonError where
  | fieldWithoutInfo (index : Nat)
  | unknownKind (index : Nat) (kind : String)
  | unsupportedNumber (text : String)
deriving DecidableEq, Repr

/-- The wording of a JSON error. -/
def JsonError.message : JsonError → String
  | .fieldWithoutInfo index =>
    "value " ++ Number.decimal index ++ ": field operand without field info"
  | .unknownKind index kind =>
    "value " ++ Number.decimal index ++ ": unknown operand kind: " ++ kind
  | .unsupportedNumber text => "json: unsupported value: " ++ text

/-- A whole number as a JSON number. -/
def JsonValue.ofInt (number : Int) : JsonValue :=
  .number (Number.decimal number)

/-- An object member that is left out when its text is empty. -/
def JsonValue.textMember (key : String) (value : RawText) : List (String × JsonValue) :=
  if value.isEmpty then [] else [(key, .string value)]

/-- Whether a constant is a number that JSON cannot write. -/
def Constant.unsupported? : Constant → Option String
  | .real width .nan => some (Number.jsonLayout.write width.format .nan)
  | .real width (.infinite negative) =>
    some (Number.jsonLayout.write width.format (.infinite negative))
  | _ => none

/-- A constant as a JSON value; collections and times are written as their text, and no constant at
all is left out. -/
def Constant.toJson? : Constant → Option JsonValue
  | .null => none
  | .bool value => some (.bool value)
  | .string value => some (.string value)
  | .integer _ value => some (.ofInt value)
  | .real width value => some (.number (Number.jsonLayout.write width.format value))
  | constant => some (.string constant.text)

namespace Program

/-- The members that an operand shows besides its kind. -/
def operandMembers (index : Nat) (operand : Operand) :
    Except JsonError (List (String × JsonValue)) :=
  match operand.content with
  | .register | .target | .count => .ok [("number", .ofInt operand.number)]
  | .field none _ => .error (.fieldWithoutInfo index)
  | .field (some field) raw =>
    .ok (JsonValue.textMember "field" field.abbreviation ++ [("field_id", .ofInt field.id)] ++
      (if raw then [("raw", .bool true)] else []))
  | .range range? => .ok (JsonValue.textMember "range" (ByteRange.text (windows range?)))
  | .constant value => .ok (value.toJson?.toList.map fun json => ("constant", json))
  | .function name => .ok (JsonValue.textMember "function" name)
  | .pattern none => .ok []
  | .pattern (some pattern) => .ok (JsonValue.textMember "pattern" pattern.source)
  | .empty => .ok []
  | .unknown _ => .error (.unknownKind index operand.kindName)

/-- An operand as a JSON object. -/
def operandJson (index : Nat) (operand : Operand) : Except JsonError JsonValue :=
  (operandMembers index operand).map fun members =>
    .object (("kind", .string operand.kindName) :: members)

/-- An instruction as a JSON object, with the slots that its opcode uses. -/
def instructionJson (instruction : Instruction) : JsonValue :=
  .object [("id", .ofInt instruction.id), ("op", .string instruction.opcode.mnemonic),
    ("args", .array
      ((instruction.slots.take instruction.opcode.operandCount).map JsonValue.ofInt))]

/-- A field as a JSON object. -/
def fieldJson (field : Field) : JsonValue :=
  .object [("id", .ofInt field.id), ("abbrev", .string field.abbreviation)]

/-- A list of fields that is left out when it is empty. -/
def fieldsMember (key : String) (fields : List Field) : List (String × JsonValue) :=
  if fields.isEmpty then [] else [(key, .array (fields.map fieldJson))]

/-- The first number among the operands that JSON cannot write. -/
def unsupportedNumber? (program : Program) : Option String :=
  program.arena.toList.findSome? fun operand =>
    match operand.content with
    | .constant value => value.unsupported?
    | _ => none

/-- The program as a JSON document. -/
def toJson (program : Program) : Except JsonError JsonValue := do
  let operands ← program.arena.toList.zipIdx.mapM fun (operand, index) => operandJson index operand
  match program.unsupportedNumber? with
  | some text => throw (.unsupportedNumber text)
  | none =>
    return .object ([("instructions", .array (program.instructions.toList.map instructionJson)),
      ("values", .array operands), ("registers", .ofInt program.registers),
      ("interesting_fields", if program.interesting.isEmpty then .null
        else .array (program.interesting.map fieldJson))] ++
      fieldsMember "references" program.references ++
      fieldsMember "raw_references" program.rawReferences)

/-- The JSON text of the program. -/
def json (program : Program) : Except Fault String :=
  match program.toJson with
  | .ok document => .ok document.compact
  | .error error => .error (.plain error.message)

/-- The wording of a JSON error inside a larger document. -/
def nestedError (error : JsonError) : Fault :=
  .plain ("json: error calling MarshalJSON for type *bytecode.Program: " ++ error.message)

/-- The JSON text of the program inside a larger document. -/
def nestedJson (program : Program) : Except Fault String :=
  match program.toJson with
  | .ok document => .ok document.compact
  | .error error => .error (nestedError error)

end Program

end DisplayFilter
