/-
**Verification of programs.**

A program is verified on its own, whatever produced it. Each broken rule is a `Finding`; findings
come instruction by instruction.

* `verify`: the findings for instructions, an arena and a number of registers.
* `verifyFault?`: the findings as one fault.
-/

import DisplayFilter.Fault
import DisplayFilter.Program

namespace DisplayFilter

/-- A rule that a program breaks; the index is that of the instruction. -/
inductive Finding where
  | emptyProgram
  | lastInstruction (opcode : Opcode)
  | wrongId (index : Nat) (id : Int)
  | unknownOpcode (index : Nat) (code : UInt16)
  | extraSlot (index : Nat) (opcode : Opcode) (slot : Nat)
  | operandOutOfRange (index : Nat) (handle : Handle)
  | unresolvedTarget (index : Nat)
  | targetOutOfBounds (index : Nat) (target : Int) (size : Nat)
  | registerOutOfBounds (index : Nat) (register : Int)
  | branchWithoutTarget (index : Nat) (opcode : Opcode)
deriving DecidableEq, Repr

/-- The wording of a finding. -/
def Finding.message : Finding → String
  | .emptyProgram => "empty program"
  | .lastInstruction opcode => "program ends with " ++ opcode.mnemonic ++ ", not RETURN"
  | .wrongId index id =>
    "instruction " ++ Number.decimal index ++ " has id " ++ Number.decimal id
  | .unknownOpcode index code =>
    located index ("unknown opcode " ++ Number.decimal code.toNat)
  | .extraSlot index opcode slot =>
    located index (opcode.mnemonic ++ " uses operand slot " ++ Number.decimal slot)
  | .operandOutOfRange index handle =>
    located index ("operand " ++ Number.decimal handle ++ " out of range")
  | .unresolvedTarget index => located index "unresolved jump target"
  | .targetOutOfBounds index target size =>
    located index ("jump target " ++ Number.decimal target ++ " outside [0, " ++
      Number.decimal size ++ "]")
  | .registerOutOfBounds index register =>
    located index ("register R" ++ Number.decimal register ++ " out of bounds")
  | .branchWithoutTarget index opcode =>
    located index (opcode.mnemonic ++ " without a jump target")
where
  /-- The wording of a finding at an instruction. -/
  located (index : Nat) (finding : String) : String :=
    "instruction " ++ Number.decimal index ++ ": " ++ finding

section Verify

variable (arena : Array Operand) (registers : Int) (size : Nat)

/-- The findings about the operand that a slot refers to. -/
def operandFindings (index : Nat) (operand : Operand) : List Finding :=
  match operand.content with
  | .target =>
    if operand.number = unresolved then [.unresolvedTarget index]
    else if operand.number < 0 || (size : Int) < operand.number then
      [.targetOutOfBounds index operand.number size]
    else []
  | .register =>
    if operand.number < 0 || registers ≤ operand.number then
      [.registerOutOfBounds index operand.number]
    else []
  | _ => []

/-- Whether a handle refers to an operand of the arena. -/
def inArena (handle : Handle) : Bool :=
  0 ≤ handle && handle < arena.size

/-- The findings about one operand slot, the slots counted from zero. -/
def slotFindings (index : Nat) (opcode : Opcode) (slot : Nat) (handle : Handle) : List Finding :=
  if handle = noOperand then []
  else
    (if opcode.operandCount ≤ slot then [.extraSlot index opcode (slot + 1)] else []) ++
      (if inArena arena handle then
        operandFindings registers size index (operandAt arena handle)
      else [.operandOutOfRange index handle])

/-- The findings about one instruction. An unknown opcode hides its slots. -/
def instructionFindings (index : Nat) (instruction : Instruction) : List Finding :=
  let opcode := instruction.opcode
  (if instruction.id = index then [] else [.wrongId index instruction.id]) ++
    (if opcode.isKnown then
      slotFindings arena registers size index opcode 0 instruction.first ++
        slotFindings arena registers size index opcode 1 instruction.second ++
        slotFindings arena registers size index opcode 2 instruction.third ++
        (if opcode.isBranch && !(inArena arena instruction.first &&
            (operandAt arena instruction.first).isTarget) then
          [.branchWithoutTarget index opcode]
        else [])
    else [.unknownOpcode index opcode.code])

end Verify

/-- The findings about a program. -/
def verify (instructions : Array Instruction) (arena : Array Operand) (registers : Int) :
    List Finding :=
  match instructions.back? with
  | none => [.emptyProgram]
  | some last =>
    (if last.opcode = .halt then [] else [.lastInstruction last.opcode]) ++
      (instructions.toList.zipIdx.flatMap fun (instruction, index) =>
        instructionFindings arena registers instructions.size index instruction)

/-- The findings about a program as one fault, if there are any. -/
def verifyFault? (instructions : Array Instruction) (arena : Array Operand) (registers : Int) :
    Option Fault :=
  match verify instructions arena registers with
  | [] => none
  | findings => some (.several (findings.map fun finding => .plain finding.message))

/-- The findings about a program as one fault, if there are any. -/
def Program.verifyFault? (program : Program) : Option Fault :=
  DisplayFilter.verifyFault? program.instructions program.arena program.registers

end DisplayFilter
