/-
**Opcodes of the filter machine.**

An `Opcode` names what one instruction does. Each has a number, a mnemonic and a count of operand
slots; numbers that no operation uses are kept as `unknown`, which has no mnemonic of its own.

* `Opcode.ofCode`: the opcode with a given number.
* `Opcode.isBranch`, `Opcode.opposite`: the two conditional branches and how they are paired.
* `Opcode.family?`: the ALL and ANY members of a quantified relation.
-/

namespace DisplayFilter

/-- The operation of one instruction. -/
inductive Opcode where
  | ifTrueGoto
  | ifFalseGoto
  | not
  | halt
  | noOp
  | checkExists
  | checkExistsRange
  | readTree
  | readTreeRange
  | readReference
  | readReferenceRange
  | putValue
  | allEq
  | anyEq
  | allNe
  | anyNe
  | allGt
  | anyGt
  | allGe
  | anyGe
  | allLt
  | anyLt
  | allLe
  | anyLe
  | allContains
  | anyContains
  | allMatches
  | anyMatches
  | setAllIn
  | setAnyIn
  | setAllNotIn
  | setAnyNotIn
  | setAdd
  | setAddRange
  | setClear
  | slice
  | length
  | valueString
  | bitAnd
  | negate
  | add
  | subtract
  | multiply
  | divide
  | modulo
  | callFunction
  | stackPush
  | stackPop
  | notAllZero
  | unknown (code : UInt16)
deriving DecidableEq, Repr

namespace Opcode

/-- Every operation of the machine. -/
def declared : List Opcode :=
  [.ifTrueGoto, .ifFalseGoto, .not, .halt, .noOp, .checkExists, .checkExistsRange, .readTree,
    .readTreeRange, .readReference, .readReferenceRange, .putValue, .allEq, .anyEq, .allNe, .anyNe,
    .allGt, .anyGt, .allGe, .anyGe, .allLt, .anyLt, .allLe, .anyLe, .allContains, .anyContains,
    .allMatches, .anyMatches, .setAllIn, .setAnyIn, .setAllNotIn, .setAnyNotIn, .setAdd,
    .setAddRange, .setClear, .slice, .length, .valueString, .bitAnd, .negate, .add, .subtract,
    .multiply, .divide, .modulo, .callFunction, .stackPush, .stackPop, .notAllZero]

/-- The number of an opcode. -/
def code : Opcode → UInt16
  | .ifTrueGoto => 1
  | .ifFalseGoto => 2
  | .not => 3
  | .halt => 4
  | .noOp => 5
  | .checkExists => 10
  | .checkExistsRange => 11
  | .readTree => 20
  | .readTreeRange => 21
  | .readReference => 22
  | .readReferenceRange => 23
  | .putValue => 24
  | .allEq => 30
  | .anyEq => 31
  | .allNe => 32
  | .anyNe => 33
  | .allGt => 34
  | .anyGt => 35
  | .allGe => 36
  | .anyGe => 37
  | .allLt => 38
  | .anyLt => 39
  | .allLe => 40
  | .anyLe => 41
  | .allContains => 42
  | .anyContains => 43
  | .allMatches => 44
  | .anyMatches => 45
  | .setAllIn => 50
  | .setAnyIn => 51
  | .setAllNotIn => 52
  | .setAnyNotIn => 53
  | .setAdd => 54
  | .setAddRange => 55
  | .setClear => 56
  | .slice => 60
  | .length => 61
  | .valueString => 62
  | .bitAnd => 70
  | .negate => 71
  | .add => 72
  | .subtract => 73
  | .multiply => 74
  | .divide => 75
  | .modulo => 76
  | .callFunction => 80
  | .stackPush => 81
  | .stackPop => 82
  | .notAllZero => 90
  | .unknown code => code

/-- The opcode with the given number. -/
def ofCode (code : UInt16) : Opcode :=
  (declared.find? fun opcode => opcode.code == code).getD (.unknown code)

/-- The name of an opcode; an unknown one has the empty name. -/
def name : Opcode → String
  | .ifTrueGoto => "IF_TRUE_GOTO"
  | .ifFalseGoto => "IF_FALSE_GOTO"
  | .not => "NOT"
  | .halt => "RETURN"
  | .noOp => "NO_OP"
  | .checkExists => "CHECK_EXISTS"
  | .checkExistsRange => "CHECK_EXISTS_R"
  | .readTree => "READ_TREE"
  | .readTreeRange => "READ_TREE_R"
  | .readReference => "READ_REFERENCE"
  | .readReferenceRange => "READ_REFERENCE_R"
  | .putValue => "PUT_FVALUE"
  | .allEq => "ALL_EQ"
  | .anyEq => "ANY_EQ"
  | .allNe => "ALL_NE"
  | .anyNe => "ANY_NE"
  | .allGt => "ALL_GT"
  | .anyGt => "ANY_GT"
  | .allGe => "ALL_GE"
  | .anyGe => "ANY_GE"
  | .allLt => "ALL_LT"
  | .anyLt => "ANY_LT"
  | .allLe => "ALL_LE"
  | .anyLe => "ANY_LE"
  | .allContains => "ALL_CONTAINS"
  | .anyContains => "ANY_CONTAINS"
  | .allMatches => "ALL_MATCHES"
  | .anyMatches => "ANY_MATCHES"
  | .setAllIn => "SET_ALL_IN"
  | .setAnyIn => "SET_ANY_IN"
  | .setAllNotIn => "SET_ALL_NOT_IN"
  | .setAnyNotIn => "SET_ANY_NOT_IN"
  | .setAdd => "SET_ADD"
  | .setAddRange => "SET_ADD_RANGE"
  | .setClear => "SET_CLEAR"
  | .slice => "SLICE"
  | .length => "LENGTH"
  | .valueString => "VALUE_STRING"
  | .bitAnd => "BITWISE_AND"
  | .negate => "UNARY_MINUS"
  | .add => "ADD"
  | .subtract => "SUBTRACT"
  | .multiply => "MULTIPLY"
  | .divide => "DIVIDE"
  | .modulo => "MODULO"
  | .callFunction => "CALL_FUNCTION"
  | .stackPush => "STACK_PUSH"
  | .stackPop => "STACK_POP"
  | .notAllZero => "NOT_ALL_ZERO"
  | .unknown _ => ""

/-- Whether the machine has the operation. -/
def isKnown : Opcode → Bool
  | .unknown _ => false
  | _ => true

/-- The name of an opcode in listings. -/
def mnemonic (opcode : Opcode) : String :=
  if opcode.isKnown then opcode.name else "INVALID"

/-- How many operand slots the operation uses. -/
def operandCount : Opcode → Nat
  | .not | .noOp | .setClear | .unknown _ => 0
  | .ifTrueGoto | .ifFalseGoto | .halt | .checkExists | .setAllIn | .setAnyIn | .setAllNotIn
  | .setAnyNotIn | .setAdd | .stackPush | .stackPop | .notAllZero => 1
  | .checkExistsRange | .readTree | .readReference | .putValue | .allEq | .anyEq | .allNe | .anyNe
  | .allGt | .anyGt | .allGe | .anyGe | .allLt | .anyLt | .allLe | .anyLe | .allContains
  | .anyContains | .allMatches | .anyMatches | .setAddRange | .length | .negate => 2
  | .readTreeRange | .readReferenceRange | .slice | .valueString | .bitAnd | .add | .subtract
  | .multiply | .divide | .modulo | .callFunction => 3

/-- Whether the operation is a conditional branch. -/
def isBranch : Opcode → Bool
  | .ifTrueGoto | .ifFalseGoto => true
  | _ => false

/-- The branch with the inverted condition; every other operation gives an unknown opcode. -/
def opposite : Opcode → Opcode
  | .ifTrueGoto => .ifFalseGoto
  | .ifFalseGoto => .ifTrueGoto
  | _ => .unknown 0

/-- The ALL and the ANY member of the opcode's family. -/
def family? : Opcode → Option (Opcode × Opcode)
  | .allEq | .anyEq => some (.allEq, .anyEq)
  | .allNe | .anyNe => some (.allNe, .anyNe)
  | .allGt | .anyGt => some (.allGt, .anyGt)
  | .allGe | .anyGe => some (.allGe, .anyGe)
  | .allLt | .anyLt => some (.allLt, .anyLt)
  | .allLe | .anyLe => some (.allLe, .anyLe)
  | .allContains | .anyContains => some (.allContains, .anyContains)
  | .allMatches | .anyMatches => some (.allMatches, .anyMatches)
  | .setAllIn | .setAnyIn => some (.setAllIn, .setAnyIn)
  | .setAllNotIn | .setAnyNotIn => some (.setAllNotIn, .setAnyNotIn)
  | _ => none

/-- Whether the opcode has ALL and ANY forms. -/
def isQuantified (opcode : Opcode) : Bool :=
  opcode.family?.isSome

end Opcode

end DisplayFilter
