/-
**Compiled programs.**

A program is a list of instructions, the arena of their operands, the number of registers the
machine needs, and the fields the program reads: the interesting ones, and those read through
references, cooked and raw.

* `Program.operand`: the operand with a handle; there is none outside the arena.
* `Program.result`: the operand that the program returns.
* `Program.counts`: its sizes.
-/

import DisplayFilter.Instruction

namespace DisplayFilter

/-- The operand with a handle; a handle outside the arena has none. -/
def operandAt (arena : Array Operand) (handle : Handle) : Operand :=
  if handle < 0 then .none else arena[handle.toNat]?.getD .none

/-- A compiled filter. -/
structure Program where
  instructions : Array Instruction
  arena : Array Operand
  registers : Int
  interesting : List Field
  references : List Field
  rawReferences : List Field

/-- The sizes of a program. -/
structure ProgramCounts where
  instructions : Nat
  noOps : Nat
  branches : Nat
  operands : Nat
  registers : Int
  interesting : Nat
deriving DecidableEq, Repr

namespace Program

/-- The operand with a handle. -/
def operand (program : Program) (handle : Handle) : Operand :=
  operandAt program.arena handle

/-- The operand that the program returns; a program that does not end by returning has none. -/
def result (program : Program) : Handle :=
  match program.instructions.back? with
  | some last => if last.opcode = .halt then last.first else noOperand
  | none => noOperand

/-- The sizes of the program. -/
def counts (program : Program) : ProgramCounts where
  instructions := program.instructions.size
  noOps := program.instructions.toList.countP fun instruction => instruction.opcode = .noOp
  branches := program.instructions.toList.countP fun instruction => instruction.opcode.isBranch
  operands := program.arena.size
  registers := program.registers
  interesting := program.interesting.length

end Program

end DisplayFilter
