/-
**Optimizing branches.**

The branch targets of a finished program are advanced past instructions that cannot matter on the
way. A branch at `i` with target `t` that is `i + 1` falls through either way and becomes a no-op.
Otherwise the target moves on while it lands on the opposite branch, which is never taken from here,
on a read into the register that the instruction before the branch has just read, or on a branch of
the same kind, whose target is followed. The number and order of instructions never change.

* `Code.advance`: where a branch target may move to.
* `Code.disable`: a no-op in place of an instruction.
* `Code.optimize`: the improved code and the changes made.
-/

import DisplayFilter.Code

namespace DisplayFilter

/-- What the optimizer did to one branch. -/
inductive BranchChange where
  | disabled (index : Nat)
  | advanced (index : Nat) (old new : Int)
deriving DecidableEq, Repr

namespace Code

/-- Whether an instruction repeats the read just before a branch: both read the tree into registers
of one number. -/
def repeatsRead (code : Code) (index : Nat) (next : Instruction) : Bool :=
  next.opcode = .readTree && 0 < index &&
    match code.instructions[index - 1]? with
    | none => false
    | some before =>
      before.opcode = .readTree &&
        (code.operand before.second).number = (code.operand next.second).number

/-- Where the target of a branch may move to. Each step leads to another instruction, so as many
steps as there are instructions are enough unless the branches run in a circle. -/
def advance (code : Code) (index : Nat) (branch : Opcode) : (fuel : Nat) → (target : Int) → Int
  | 0, target => target
  | fuel + 1, target =>
    if target < 0 then target
    else
      match code.instructions[target.toNat]? with
      | none => target
      | some next =>
        if next.opcode = branch.opposite then code.advance index branch fuel (target + 1)
        else if code.repeatsRead index next then code.advance index branch fuel (target + 1)
        else if next.opcode = branch then
          code.advance index branch fuel (code.operand next.first).number
        else target

/-- What replaces an instruction keeps its id. -/
theorem numbered_modify (code : Code) (opcode : Opcode) (place index : Nat)
    (instruction : Instruction)
    (found : (code.instructions.modify place fun _ => .of place opcode [])[index]? =
      some instruction) : instruction.id = index := by
  rw [Array.getElem?_modify] at found
  split at found
  · rename_i here
    obtain ⟨_, _, rfl⟩ := Option.map_eq_some_iff.mp found
    exact congrArg _ here
  · exact code.numbered index instruction found

/-- The code with the instruction at an index replaced by one that does nothing. -/
def disable (code : Code) (index : Nat) : Code :=
  { code with
    instructions := code.instructions.modify index fun _ => .of index .noOp []
    numbered := code.numbered_modify .noOp index }

/-- Improves the instruction at a position, if it is a branch that can be improved. -/
def optimizeAt (code : Code) (index : Nat) : Code × Option BranchChange :=
  match code.instructions[index]? with
  | none => (code, none)
  | some instruction =>
    if instruction.opcode.isBranch then
      let target := (code.operand instruction.first).number
      if target = index + 1 then (code.disable index, some (.disabled index))
      else
        let moved :=
          code.advance index instruction.opcode (code.instructions.size + 1) target
        if moved = target then (code, none)
        else (code.setNumber instruction.first moved, some (.advanced index target moved))
    else (code, none)

/-- Improves the branches at the given positions in order. -/
def optimizeFrom (code : Code) : List Nat → Code × List BranchChange
  | [] => (code, [])
  | index :: indices =>
    let (code, change?) := code.optimizeAt index
    let (code, changes) := code.optimizeFrom indices
    (code, change?.toList ++ changes)

/-- Improves the branches of a program, from the first instruction to the last. -/
def optimize (code : Code) : Code × List BranchChange :=
  code.optimizeFrom (List.range code.instructions.size)

end Code

end DisplayFilter
