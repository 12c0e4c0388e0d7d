/-
**Instructions.**

An instruction has an id, an opcode and three operand slots.
-/

import DisplayFilter.Opcode
import DisplayFilter.Operand

namespace DisplayFilter

/-- One instruction; unused slots hold `noOperand`. -/
structure Instruction where
  id : Int
  opcode : Opcode
  first : Handle
  second : Handle
  third : Handle
deriving DecidableEq, Repr

namespace Instruction

/-- An instruction with the given operands in its slots. Operands beyond the third are dropped. -/
def of (id : Int) (opcode : Opcode) (operands : List Handle) : Instruction :=
  { id, opcode
    first := operands[0]?.getD noOperand
    second := operands[1]?.getD noOperand
    third := operands[2]?.getD noOperand }

/-- The three operand slots. -/
def slots (instruction : Instruction) : List Handle :=
  [instruction.first, instruction.second, instruction.third]

end Instruction

end DisplayFilter
