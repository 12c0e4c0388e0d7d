/-
**Control flow and what it carries along.**

A `Code.Path` follows the instructions of a program from the first one, where a branch may go either
way. It is told by its moves, the latest first, and by the instruction it has reached. Along a path
some instructions leave a result in a register, some push arguments and some add members to the set
of a membership test.

* `Code.WritesTo`, `Code.ReadsFrom`: the registers of an instruction.
* `Code.Path`: paths of control flow.
* `Code.stackAlong`, `Code.depthAlong`: the argument stack along a path.
* `Code.membersAlong`: the set along a path.
-/

import DisplayFilter.Code
import DisplayFilter.Proofs.Program.Verified
import Mathlib.Tactic.Common

namespace DisplayFilter

/-- What an operation may have to do with the argument stack and with the set of a membership test. -/
inductive Duty where
  | other
  | push
  | call
  | pop
  | add
  | decide
  | clear
deriving DecidableEq, Repr

namespace Opcode

/-- The operand slot that names the register of the result, for operations that leave one. -/
def resultSlot? : Opcode → Option Nat
  | .readTree | .readTreeRange | .readReference | .readReferenceRange | .putValue | .slice
  | .length | .negate | .callFunction => some 1
  | .valueString | .bitAnd | .add | .subtract | .multiply | .divide | .modulo => some 2
  | _ => none

/-- How far behind an operation that can fail the branch stands that tells its failure. -/
def guardDistance? : Opcode → Option Nat
  | .readTree | .readTreeRange | .readReference | .readReferenceRange | .valueString => some 1
  | .callFunction => some 2
  | _ => none

/-- What the operation has to do with the argument stack and the set. -/
def duty : Opcode → Duty
  | .stackPush => .push
  | .callFunction => .call
  | .stackPop => .pop
  | .setAdd | .setAddRange => .add
  | .setAllIn | .setAnyIn | .setAllNotIn | .setAnyNotIn => .decide
  | .setClear => .clear
  | _ => .other

end Opcode

/-- One move along a path: the instruction that is left, and whether by its branch. -/
structure Move where
  index : Nat
  taken : Bool
deriving DecidableEq, Repr

namespace Code

variable {code : Code} {moves : List Move} {index : Nat}

/-- A handle of the given operand. -/
def Has (code : Code) (handle : Handle) (operand : Operand) : Prop :=
  ∃ position : Nat, handle = position ∧ code.arena[position]? = some operand

theorem Has.unique {handle : Handle} {operand other : Operand} (here : code.Has handle operand)
    (there : code.Has handle other) : operand = other := by
  obtain ⟨position, rfl, found⟩ := here
  obtain ⟨place, same, also⟩ := there
  rw [← Int.ofNat.inj same, found] at also
  exact Option.some.inj also

theorem Has.operand_eq {handle : Handle} {operand : Operand} (here : code.Has handle operand) :
    code.operand handle = operand := by
  obtain ⟨position, rfl, found⟩ := here
  exact operandAt_eq found

/-! ### Registers -/

/-- The instruction at an index leaves its result in the register with a number. -/
def WritesTo (code : Code) (index : Nat) (number : Int) : Prop :=
  ∃ (instruction : Instruction) (slot : Nat) (handle : Handle),
    code.instructions[index]? = some instruction ∧ instruction.opcode.resultSlot? = some slot ∧
    instruction.slots[slot]? = some handle ∧ code.Has handle (.register number)

/-- The instruction at an index has the register with a number as a source. -/
def ReadsFrom (code : Code) (index : Nat) (number : Int) : Prop :=
  ∃ (instruction : Instruction) (slot : Nat) (handle : Handle),
    code.instructions[index]? = some instruction ∧ instruction.opcode.resultSlot? ≠ some slot ∧
    instruction.slots[slot]? = some handle ∧ code.Has handle (.register number)

/-- The instruction at an index is a plain read of a field. -/
def ReadsPlainly (code : Code) (index : Nat) (field : Field) (raw : Bool) : Prop :=
  ∃ instruction : Instruction, code.instructions[index]? = some instruction ∧
    instruction.opcode = .readTree ∧ code.Has instruction.first (.field field raw)

/-- An instruction writes to the register in its result slot. -/
theorem writesTo_iff {instruction : Instruction} {slot : Nat} {handle : Handle}
    {number other : Int} (found : code.instructions[index]? = some instruction)
    (result : instruction.opcode.resultSlot? = some slot)
    (held : instruction.slots[slot]? = some handle) (has : code.Has handle (.register number)) :
    code.WritesTo index other ↔ other = number := by
  constructor
  · rintro ⟨again, place, second, there, also, too, register⟩
    cases found.symm.trans there
    cases result.symm.trans also
    cases held.symm.trans too
    cases register.unique has
    rfl
  · rintro rfl
    exact ⟨instruction, slot, handle, found, result, held, has⟩

/-! ### Paths -/

/-- The instruction at an index is a branch to the target. -/
def Leads (code : Code) (index target : Nat) : Prop :=
  ∃ instruction : Instruction, code.instructions[index]? = some instruction ∧
    instruction.opcode.isBranch = true ∧ code.Has instruction.first (.target target)

/-- A path from the first instruction to the one at an index, by the given moves, the latest first. -/
inductive Path (code : Code) : List Move → Nat → Prop
  | start : Path code [] 0
  /-- Every instruction but the one that returns may be followed by the next. -/
  | next {moves : List Move} {index : Nat} {instruction : Instruction} (path : Path code moves index)
      (found : code.instructions[index]? = some instruction) (runs : instruction.opcode ≠ .halt) :
      Path code (⟨index, false⟩ :: moves) (index + 1)
  | leap {moves : List Move} {index target : Nat} (path : Path code moves index)
      (leads : code.Leads index target) : Path code (⟨index, true⟩ :: moves) target

/-! ### The argument stack -/

/-- The argument stack with the instruction at an index carried out. It holds the indices of the
instructions that pushed its entries, the topmost first. -/
def pushed (code : Code) (index : Nat) (stack : List Nat) : List Nat :=
  match code.instructions[index]? with
  | none => stack
  | some instruction =>
    match instruction.opcode with
    | .stackPush => index :: stack
    | .stackPop => stack.drop (code.operand instruction.first).number.toNat
    | _ => stack

/-- The argument stack along a path. -/
def stackAlong (code : Code) (moves : List Move) : List Nat :=
  moves.foldr (fun move stack => code.pushed move.index stack) []

/-- How the instruction at an index changes the depth of the argument stack. -/
def depthChange (code : Code) (index : Nat) : Int :=
  match code.instructions[index]? with
  | none => 0
  | some instruction =>
    match instruction.opcode with
    | .stackPush => 1
    | .stackPop => -(code.operand instruction.first).number
    | _ => 0

/-- The depth of the argument stack along a path, where a pop counts for as many entries as it is
told to remove. -/
def depthAlong (code : Code) (moves : List Move) : Int :=
  moves.foldr (fun move depth => code.depthChange move.index + depth) 0

/-! ### The set of a membership test -/

/-- The set with the instruction at an index carried out. It holds the indices of the instructions
that added its members. -/
def gathered (code : Code) (index : Nat) (members : List Nat) : List Nat :=
  match code.instructions[index]? with
  | none => members
  | some instruction =>
    match instruction.opcode with
    | .setAdd | .setAddRange => index :: members
    | .setClear => []
    | _ => members

/-- The members of the set along a path. -/
def membersAlong (code : Code) (moves : List Move) : List Nat :=
  moves.foldr (fun move members => code.gathered move.index members) []

end Code

end DisplayFilter
