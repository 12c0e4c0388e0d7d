/-
**Machines that run programs.**

Programs are made for a machine that is known only by a few rules. Its state has a flag and a
memory. An instruction that neither branches nor returns changes the state in a way that depends on
its opcode and on what its operands hold, and goes on with the next instruction; a no-op changes
nothing. The two branches look at the flag and change nothing. The instruction that returns stops
the machine.

* `Machine`: what the instructions do.
* `Machine.step`, `Machine.Reaches`: one instruction, and a run of them.
* `Machine.Returns`: a run from the first instruction to one that returns.
* `Machine.Returns.unique`: a program returns in one way at most.
-/

import DisplayFilter.Program
import Mathlib.Logic.Relation
import Mathlib.Tactic.Common

namespace DisplayFilter

/-- The state of a machine, apart from the instruction it is at. -/
structure MachineState (σ : Type) where
  flag : Bool
  memory : σ

/-- What the instructions of a machine do, given the opcode and the operands of the three slots. -/
structure Machine (σ : Type) where
  act : Opcode → Operand → Operand → Operand → MachineState σ → MachineState σ

/-- Whether a branch is taken. -/
def Opcode.takes (opcode : Opcode) (flag : Bool) : Bool :=
  match opcode with
  | .ifTrueGoto => flag
  | .ifFalseGoto => !flag
  | _ => false

namespace Machine

open Relation (ReflTransGen)

variable {σ : Type} (machine : Machine σ) (program : Program)

/-- What an instruction that neither branches nor returns does. -/
def perform (instruction : Instruction) (state : MachineState σ) : MachineState σ :=
  if instruction.opcode = .noOp then state
  else machine.act instruction.opcode (program.operand instruction.first)
    (program.operand instruction.second) (program.operand instruction.third) state

/-- One instruction. There is no step from an instruction that returns, from outside the program,
or to a jump target that is no position. -/
def step (position : Nat) (state : MachineState σ) : Option (Nat × MachineState σ) :=
  match program.instructions[position]? with
  | none => none
  | some instruction =>
    if instruction.opcode = .halt then none
    else if instruction.opcode.isBranch then
      if instruction.opcode.takes state.flag then
        (program.operand instruction.first).number.toNat?.map (·, state)
      else some (position + 1, state)
    else some (position + 1, machine.perform program instruction state)

/-- A run of instructions. -/
def Reaches : Nat × MachineState σ → Nat × MachineState σ → Prop :=
  ReflTransGen fun start stop => machine.step program start.1 start.2 = some stop

/-- A run from the first instruction to one that returns the given operand. -/
def Returns (start final : MachineState σ) (result : Handle) : Prop :=
  ∃ (position : Nat) (instruction : Instruction),
    machine.Reaches program (0, start) (position, final) ∧
    program.instructions[position]? = some instruction ∧ instruction.opcode = .halt ∧
    instruction.first = result

/-- Reading a field twice in a row into one register is like reading it once. -/
def RereadsIdly : Prop :=
  ∀ (field : Field) (raw : Bool) (register : Int) (state : MachineState σ),
    machine.act .readTree (.field field raw) (.register register) .none
        (machine.act .readTree (.field field raw) (.register register) .none state) =
      machine.act .readTree (.field field raw) (.register register) .none state

variable {machine program} {position : Nat} {state : MachineState σ} {instruction : Instruction}

/-! ### Single instructions -/

theorem reaches_perform (found : program.instructions[position]? = some instruction)
    (runs : instruction.opcode ≠ .halt) (falls : instruction.opcode.isBranch = false) :
    machine.Reaches program (position, state)
      (position + 1, machine.perform program instruction state) := by
  refine .single ?_
  simp [step, found, runs, falls]

theorem reaches_next (found : program.instructions[position]? = some instruction)
    (branches : instruction.opcode.isBranch = true)
    (stays : instruction.opcode.takes state.flag = false) :
    machine.Reaches program (position, state) (position + 1, state) := by
  have runs : instruction.opcode ≠ .halt := by
    intro halts
    rw [halts] at branches
    cases branches
  refine .single ?_
  simp [step, found, runs, branches, stays]

theorem reaches_target (found : program.instructions[position]? = some instruction)
    (branches : instruction.opcode.isBranch = true)
    (leaves : instruction.opcode.takes state.flag = true) {target : Nat}
    (aims : (program.operand instruction.first).number = target) :
    machine.Reaches program (position, state) (target, state) := by
  have runs : instruction.opcode ≠ .halt := by
    intro halts
    rw [halts] at branches
    cases branches
  have reached : Int.toNat? (target : Int) = some target := rfl
  refine .single ?_
  simp [step, found, runs, branches, leaves, aims, reached]

/-! ### Runs -/

/-- There is no step from an instruction that returns. -/
theorem step_halt (found : program.instructions[position]? = some instruction)
    (halts : instruction.opcode = .halt) : machine.step program position state = none := by
  simp [step, found, halts]

/-- Runs to places where the machine stops end in the same place. -/
theorem Reaches.unique {start first second : Nat × MachineState σ}
    (run : machine.Reaches program start first) (other : machine.Reaches program start second)
    (stops : machine.step program first.1 first.2 = none)
    (ends : machine.step program second.1 second.2 = none) : first = second := by
  induction run using ReflTransGen.head_induction_on with
  | refl =>
    rcases ReflTransGen.cases_head other with same | ⟨next, step, _⟩
    · exact same
    · rw [stops] at step
      cases step
  | head step _ ih =>
    rcases ReflTransGen.cases_head other with same | ⟨next, also, rest⟩
    · rw [← same, step] at ends
      cases ends
    · cases step.symm.trans also
      exact ih rest

/-- **A program returns in one way at most.** -/
theorem Returns.unique {start first second : MachineState σ} {result other : Handle}
    (returns : machine.Returns program start first result)
    (also : machine.Returns program start second other) : first = second ∧ result = other := by
  obtain ⟨position, instruction, run, found, halts, rfl⟩ := returns
  obtain ⟨place, last, path, there, ends, rfl⟩ := also
  cases run.unique path (step_halt found halts) (step_halt there ends)
  cases found.symm.trans there
  exact ⟨rfl, rfl⟩

end Machine

end DisplayFilter
