/-
**Program listings.**

A listing shows a program one instruction a line, with the operands arranged as the operation reads
and writes them, and then the fields that the program reads.

* `Program.disassemble`: the instructions with their operands as text.
* `Program.listing`: the whole listing, coloured or not.
-/

import DisplayFilter.Program
import DisplayFilter.Text.Style

namespace DisplayFilter

/-- The symbol between the operands of a relation. -/
def Opcode.relationSymbol? : Opcode → Option String
  | .allEq => some "==="
  | .anyEq => some "=="
  | .allNe => some "!="
  | .anyNe => some "!=="
  | .allGt | .anyGt => some ">"
  | .allGe | .anyGe => some ">="
  | .allLt | .anyLt => some "<"
  | .allLe | .anyLe => some "<="
  | .allContains | .anyContains => some "contains"
  | .allMatches | .anyMatches => some "matches"
  | _ => none

/-- The symbol between the operands of a binary arithmetic operation. -/
def Opcode.arithmeticSymbol? : Opcode → Option String
  | .add => some "+"
  | .subtract => some "-"
  | .multiply => some "*"
  | .divide => some "/"
  | .modulo => some "%"
  | .bitAnd => some "&"
  | _ => none

/-- The style of an opcode in a listing. -/
def Opcode.style : Opcode → Text.Style
  | .ifTrueGoto | .ifFalseGoto => [.foreground 33]
  | .halt => [.foreground 35, .bold]
  | .readTree | .readTreeRange | .readReference | .readReferenceRange => [.foreground 36]
  | _ => []

/-- One line of a listing. -/
structure ListedInstruction where
  offset : Int
  opcode : Opcode
  operands : String

namespace Program

/-- A text without the parentheses that follow a function's name. -/
def withoutParentheses (text : String) : String :=
  match text.toList.reverse with
  | ')' :: '(' :: rest => String.ofList rest.reverse
  | _ => text

/-- The operands of an operation, given the texts of its three slots. -/
def arrange (opcode : Opcode) (first second third : String) : String :=
  match opcode.relationSymbol?, opcode.arithmeticSymbol? with
  | some symbol, _ => first ++ " " ++ symbol ++ " " ++ second
  | none, some symbol => first ++ " " ++ symbol ++ " " ++ second ++ " -> " ++ third
  | none, none =>
    match opcode with
    | .readTree | .readReference | .length | .putValue => first ++ " -> " ++ second
    | .readTreeRange | .readReferenceRange | .slice => first ++ third ++ " -> " ++ second
    | .checkExistsRange => first ++ second
    | .valueString => "vals(" ++ first ++ ") " ++ second ++ " -> " ++ third
    | .negate => "-" ++ first ++ " -> " ++ second
    | .setAddRange => first ++ ".." ++ second
    | .callFunction => withoutParentheses first ++ "/" ++ third ++ " -> " ++ second
    | _ => " ".intercalate ([first, second, third].filter (· ≠ ""))

/-- The instructions with their operands as text. -/
def disassemble (program : Program) : List ListedInstruction :=
  program.instructions.toList.map fun instruction =>
    { offset := instruction.id
      opcode := instruction.opcode
      operands := arrange instruction.opcode (program.operand instruction.first).text
        (program.operand instruction.second).text (program.operand instruction.third).text }

/-- An offset with at least four places; a minus sign takes one of them. -/
def offsetText (offset : Int) : String :=
  if offset < 0 then "-" ++ String.ofList (Number.padded 3 offset.natAbs)
  else String.ofList (Number.padded 4 offset.natAbs)

/-- A text without the blanks at its end. -/
def trimEnd (text : String) : String :=
  String.ofList ((text.toList.reverse.dropWhile (· = ' ')).reverse)

/-- One line of a listing, with the mnemonic filled up to a width. -/
def line (color : Bool) (width : Nat) (listed : ListedInstruction) : String :=
  let mnemonic := listed.opcode.mnemonic
  let style := listed.opcode.style
  let painted := if style.isEmpty then mnemonic else Text.paint color style mnemonic
  trimEnd (offsetText listed.offset ++ " " ++ painted ++
    String.ofList (List.replicate (width - mnemonic.length) ' ') ++ "  " ++ listed.operands) ++ "\n"

/-- A section of a listing that lists fields; without fields there is none. -/
def fieldSection (color : Bool) (title : String) (entries : List String) : String :=
  if entries.isEmpty then ""
  else
    "\n" ++ Text.paint color [.bold] title ++ "\n" ++
      String.join (entries.map fun entry => "  " ++ entry ++ "\n")

/-- The listing of a program. -/
def listing (program : Program) (color : Bool) : String :=
  let listed := program.disassemble
  let width := (listed.map fun entry => entry.opcode.mnemonic.length).foldl max 0
  String.join (listed.map (line color width)) ++
    fieldSection color "Interesting fields:" (program.interesting.map fun field =>
      Number.decimal field.id ++ " " ++ field.abbreviation.shown) ++
    fieldSection color "References:" (program.references.map (·.abbreviation.shown)) ++
    fieldSection color "Raw references:" (program.rawReferences.map (·.abbreviation.shown))

end Program

end DisplayFilter
