/-
**Code being generated.**

The state of one compilation: the instructions emitted so far, the arena of their operands, the
number of registers taken, the register that holds the plain read of each field, and the fields
read. Instructions are numbered in the order they are emitted, so the id of each is its index.

* `Code.newOperand`, `Code.newRegister`, `Code.newTarget`: fresh operands of the arena.
* `Code.emit`, `Code.emitJump`: one more instruction.
* `Code.fixup`: pending jumps resolved to the next instruction.
* `Code.markInteresting`, `Code.addReference`: the fields read, each once and in order of first use.
* `Code.toProgram`: the finished program.
-/

import DisplayFilter.Program.Verify
import DisplayFilter.Violation

namespace DisplayFilter

/-- The state of one compilation. -/
structure Code where
  instructions : Array Instruction
  arena : Array Operand
  registers : Nat
  /-- The register of the plain read of each field, cooked or raw. -/
  loaded : List ((Field × Bool) × Handle)
  interesting : List Field
  references : List Field
  rawReferences : List Field
  /-- The id of an instruction is its index. -/
  numbered : ∀ (index : Nat) (instruction : Instruction),
    instructions[index]? = some instruction → instruction.id = index

/-- A list with one more member at the end unless it has it already. -/
def addOnce (fields : List Field) (field : Field) : List Field :=
  if field ∈ fields then fields else fields ++ [field]

namespace Code

/-- No code yet. -/
def empty : Code := ⟨#[], #[], 0, [], [], [], [], fun _ _ found => by cases found⟩

/-- The operand with a handle. -/
def operand (code : Code) (handle : Handle) : Operand :=
  operandAt code.arena handle

/-! ### Operands -/

/-- A fresh operand in the arena. -/
def newOperand (code : Code) (operand : Operand) : Handle × Code :=
  (code.arena.size, { code with arena := code.arena.push operand })

/-- A fresh register. -/
def newRegister (code : Code) : Handle × Code :=
  let (handle, code) := code.newOperand (.register code.registers)
  (handle, { code with registers := code.registers + 1 })

/-- A fresh jump target that is not resolved. -/
def newTarget (code : Code) : Handle × Code :=
  code.newOperand (.target unresolved)

/-! ### Instructions -/

/-- An instruction behind the others, with their number as its id, has its index as its id. -/
theorem numbered_push (code : Code) (opcode : Opcode) (operands : List Handle) (index : Nat)
    (instruction : Instruction)
    (found : (code.instructions.push (.of code.instructions.size opcode operands))[index]? =
      some instruction) : instruction.id = index := by
  rw [Array.getElem?_push] at found
  split at found
  · rename_i last
    cases found
    exact congrArg _ last.symm
  · exact code.numbered index instruction found

/-- One more instruction at the end. -/
def emit (code : Code) (opcode : Opcode) (operands : List Handle) : Code :=
  { code with
    instructions := code.instructions.push (.of code.instructions.size opcode operands)
    numbered := code.numbered_push opcode operands }

/-- A jump that is taken when a value is absent; its target is returned unresolved. -/
def emitJump (code : Code) : Handle × Code :=
  let (target, code) := code.newTarget
  (target, code.emit .ifFalseGoto [target])

/-- An operand with another number in the arena. -/
def setNumber (code : Code) (handle : Handle) (number : Int) : Code :=
  if handle < 0 then code
  else { code with arena := code.arena.modify handle.toNat fun operand => { operand with number } }

/-- Resolves pending jumps to the next instruction. A handle that is no jump target, or one that is
resolved already, stops the work; the targets before it stay resolved. -/
def fixup (code : Code) : List Handle → Code × Option Violation
  | [] => (code, none)
  | handle :: handles =>
    let operand := code.operand handle
    if !operand.isTarget then (code, some (.pendingJumpKind handle operand.kindName))
    else if operand.number ≠ unresolved then (code, some (.resolvedTwice handle))
    else (code.setNumber handle code.instructions.size).fixup handles

/-! ### Fields -/

/-- The register that holds the plain read of a field. -/
def cachedRegister? (code : Code) (field : Field) (raw : Bool) : Option Handle :=
  code.loaded.lookup (field, raw)

/-- Remembers the register that holds the plain read of a field. -/
def cacheRegister (code : Code) (field : Field) (raw : Bool) (register : Handle) : Code :=
  { code with loaded := ((field, raw), register) :: code.loaded }

/-- Records a field and all fields that share its abbreviation. -/
def markInteresting (code : Code) (registry : Registry) (field : Field) : Code :=
  { code with interesting := (registry.siblings field).foldl addOnce code.interesting }

/-- Records a field that is read through a reference. -/
def addReference (code : Code) (field : Field) (raw : Bool) : Code :=
  if raw then { code with rawReferences := addOnce code.rawReferences field }
  else { code with references := addOnce code.references field }

/-! ### The finished program -/

/-- The program generated so far. -/
def toProgram (code : Code) : Program where
  instructions := code.instructions
  arena := code.arena
  registers := code.registers
  interesting := code.interesting
  references := code.references
  rawReferences := code.rawReferences

/-- The findings of the verifier as one fault, if there are any. -/
def verifyFault? (code : Code) : Option Fault :=
  DisplayFilter.verifyFault? code.instructions code.arena code.registers

/-- One instruction as a line: the mnemonic and the operands of the slots in use. -/
def line (code : Code) (instruction : Instruction) : String :=
  let used := instruction.slots.filter (· ≠ noOperand)
  " ".intercalate (instruction.opcode.mnemonic :: used.map fun handle => (code.operand handle).text)

/-- The instructions as lines. -/
def lines (code : Code) : List String :=
  code.instructions.toList.map code.line

/-- The instructions as text, a line each. -/
def text (code : Code) : String :=
  String.join (code.lines.map (· ++ "\n"))

end Code

/-! ### Generating -/

/-- A step of code generation: it changes the code or breaks off with a violation. -/
abbrev Gen := StateT Code (Except Violation)

namespace Gen

/-- Breaks off with a violation. -/
def fail {α : Type} (violation : Violation) : Gen α :=
  throw violation

/-- A fresh operand in the arena. -/
def newOperand (operand : Operand) : Gen Handle :=
  modifyGet fun code => code.newOperand operand

/-- A fresh register. -/
def newRegister : Gen Handle :=
  modifyGet Code.newRegister

/-- A fresh jump target that is not resolved. -/
def newTarget : Gen Handle :=
  modifyGet Code.newTarget

/-- One more instruction at the end. -/
def emit (opcode : Opcode) (operands : List Handle) : Gen Unit :=
  modify fun code => code.emit opcode operands

/-- A jump that is taken when a value is absent; its target is returned unresolved. -/
def emitJump : Gen Handle :=
  modifyGet Code.emitJump

/-- Resolves pending jumps to the next instruction. -/
def fixup (handles : List Handle) : Gen Unit := fun code =>
  match code.fixup handles with
  | (code, none) => .ok ((), code)
  | (_, some violation) => .error violation

end Gen

end DisplayFilter
