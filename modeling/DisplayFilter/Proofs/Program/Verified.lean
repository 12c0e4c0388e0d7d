/-
**What the verifier accepts.**

Each part of the verifier reports nothing exactly where its rule is kept.

* `Operand.InBounds`: the rule for the operand of a slot.
* `slotFindings_eq_nil`, `instructionFindings_eq_nil`: the rules for a slot and for an instruction.
* `verify_eq_nil`, `verifyFault?_eq_none`: the rules for a program.
-/

import DisplayFilter.Program.Verify
import Mathlib.Tactic.Common

namespace DisplayFilter

variable {arena : Array Operand} {registers : Int} {size index : Nat}

/-- An operand slot is empty or holds one of the operands. -/
theorem Instruction.slots_of {id : Int} {opcode : Opcode} {operands : List Handle} {slot : Nat}
    {handle : Handle} (found : (Instruction.of id opcode operands).slots[slot]? = some handle) :
    handle = noOperand ∨ operands[slot]? = some handle := by
  have getD : operands[slot]?.getD noOperand = handle := by
    match slot, found with
    | 0, rfl => rfl
    | 1, rfl => rfl
    | 2, rfl => rfl
  cases there : operands[slot]? with
  | none =>
    rw [there] at getD
    exact .inl getD.symm
  | some operand =>
    rw [there] at getD
    exact .inr (congrArg some getD)

/-- Jump targets lie inside the program or at its end, and registers below their count. -/
def Operand.InBounds (registers : Int) (size : Nat) (operand : Operand) : Prop :=
  (∀ number, operand = .target number → 0 ≤ number ∧ number ≤ size) ∧
    ∀ number, operand = .register number → 0 ≤ number ∧ number < registers

theorem operandFindings_eq_nil {operand : Operand} :
    operandFindings registers size index operand = [] ↔ operand.InBounds registers size := by
  obtain ⟨content, number⟩ := operand
  unfold operandFindings Operand.InBounds
  cases content with
  | target =>
    simp only [Operand.target, Operand.register, Operand.mk.injEq, true_and, reduceCtorEq,
      false_and, false_implies, implies_true, and_true, unresolved]
    constructor
    · intro none other same
      subst same
      split at none
      · cases none
      · split at none
        · cases none
        · rename_i inside
          simp only [Bool.or_eq_true, decide_eq_true_eq, not_or] at inside
          omega
    · intro inside
      have bound := inside number rfl
      rw [if_neg (by omega), if_neg]
      simp only [Bool.or_eq_true, decide_eq_true_eq]
      omega
  | register =>
    simp only [Operand.target, Operand.register, Operand.mk.injEq, true_and, reduceCtorEq,
      false_and, false_implies, implies_true]
    constructor
    · intro none other same
      subst same
      split at none
      · cases none
      · rename_i inside
        simp only [Bool.or_eq_true, decide_eq_true_eq, not_or] at inside
        omega
    · intro inside
      have bound := inside number rfl
      rw [if_neg]
      simp only [Bool.or_eq_true, decide_eq_true_eq]
      omega
  | _ => simp [Operand.target, Operand.register]

/-- A handle of the arena is the position of an operand. -/
theorem inArena_iff {handle : Handle} :
    inArena arena handle = true ↔ ∃ (position : Nat) (operand : Operand),
      handle = position ∧ arena[position]? = some operand := by
  unfold inArena
  simp only [Bool.and_eq_true, decide_eq_true_eq]
  constructor
  · rintro ⟨nonnegative, below⟩
    have inside : Int.toNat handle < arena.size := by
      rwa [Int.toNat_lt nonnegative]
    exact ⟨Int.toNat handle, _, (Int.toNat_of_nonneg nonnegative).symm,
      Array.getElem?_eq_getElem inside⟩
  · rintro ⟨position, operand, rfl, found⟩
    have inside := (Array.getElem?_eq_some_iff.mp found).1
    exact ⟨Int.natCast_nonneg position, Int.ofNat_lt.mpr inside⟩

/-- The operand at a position of an arena. -/
theorem operandAt_eq {position : Nat} {operand : Operand} (found : arena[position]? = some operand) :
    operandAt arena position = operand := by
  have nonnegative : ¬ (position : Int) < 0 := by omega
  rw [operandAt, if_neg nonnegative, Int.toNat_natCast, found]
  rfl

/-- A slot is empty, or it is one of those in use and holds an operand in bounds. -/
theorem slotFindings_eq_nil {opcode : Opcode} {slot : Nat} {handle : Handle} :
    slotFindings arena registers size index opcode slot handle = [] ↔
      handle = noOperand ∨ slot < opcode.operandCount ∧ ∃ (position : Nat) (operand : Operand),
        handle = position ∧ arena[position]? = some operand ∧ operand.InBounds registers size := by
  unfold slotFindings
  by_cases unused : handle = noOperand
  · simp [unused]
  rw [if_neg unused, List.append_eq_nil_iff, or_iff_right unused]
  refine and_congr ?_ ?_
  · split
    · rename_i beyond
      simp [beyond]
    · rename_i used
      simp [Nat.lt_of_not_le used]
  · split
    · rename_i inside
      obtain ⟨position, operand, rfl, found⟩ := inArena_iff.mp inside
      rw [operandAt_eq found, operandFindings_eq_nil]
      constructor
      · exact fun bound => ⟨position, operand, rfl, found, bound⟩
      · rintro ⟨same, other, equal, there, bound⟩
        rw [← Int.ofNat.inj equal, found] at there
        cases there
        exact bound
    · rename_i outside
      refine iff_of_false (List.cons_ne_nil _ _) ?_
      rintro ⟨position, operand, same, found, _⟩
      exact outside (inArena_iff.mpr ⟨position, operand, same, found⟩)

/-- An instruction is accepted if its id is its index, its opcode is known, its slots are, and a
branch has a jump target. -/
theorem instructionFindings_eq_nil {instruction : Instruction} :
    instructionFindings arena registers size index instruction = [] ↔
      instruction.id = index ∧ instruction.opcode.isKnown = true ∧
      (∀ (slot : Nat) (handle : Handle), instruction.slots[slot]? = some handle →
        slotFindings arena registers size index instruction.opcode slot handle = []) ∧
      (instruction.opcode.isBranch = true → ∃ (position : Nat) (number : Int),
        instruction.first = position ∧ arena[position]? = some (.target number)) := by
  have slots : (∀ (slot : Nat) (handle : Handle), instruction.slots[slot]? = some handle →
      slotFindings arena registers size index instruction.opcode slot handle = []) ↔
      (slotFindings arena registers size index instruction.opcode 0 instruction.first = [] ∧
        slotFindings arena registers size index instruction.opcode 1 instruction.second = []) ∧
        slotFindings arena registers size index instruction.opcode 2 instruction.third = [] := by
    constructor
    · exact fun accepted => ⟨⟨accepted 0 _ rfl, accepted 1 _ rfl⟩, accepted 2 _ rfl⟩
    · rintro ⟨⟨first, second⟩, third⟩ slot handle found
      match slot, found with
      | 0, rfl => exact first
      | 1, rfl => exact second
      | 2, rfl => exact third
  have branch : (inArena arena instruction.first &&
      (operandAt arena instruction.first).isTarget) = true ↔ ∃ (position : Nat) (number : Int),
        instruction.first = position ∧ arena[position]? = some (.target number) := by
    rw [Bool.and_eq_true, inArena_iff]
    constructor
    · rintro ⟨⟨position, ⟨content, number⟩, same, found⟩, target⟩
      rw [same, operandAt_eq found] at target
      cases content <;> cases target
      exact ⟨position, number, same, found⟩
    · rintro ⟨position, number, same, found⟩
      refine ⟨⟨position, _, same, found⟩, ?_⟩
      rw [same, operandAt_eq found]
      rfl
  unfold instructionFindings
  rw [List.append_eq_nil_iff, slots]
  refine and_congr (by split <;> simp_all) ?_
  split
  · rename_i known
    rw [known, List.append_eq_nil_iff, List.append_eq_nil_iff, List.append_eq_nil_iff, ← branch]
    refine (and_congr_right fun _ => ?_).trans (and_iff_right rfl).symm
    cases instruction.opcode.isBranch <;>
      cases inArena arena instruction.first && (operandAt arena instruction.first).isTarget <;> simp
  · rename_i unknown
    simp [unknown]

/-- **A program is accepted if it ends by returning and every instruction is.** -/
theorem verify_eq_nil {instructions : Array Instruction} :
    verify instructions arena registers = [] ↔
      (∃ last, instructions.back? = some last ∧ last.opcode = .halt) ∧
      ∀ (index : Nat) (instruction : Instruction), instructions[index]? = some instruction →
        instructionFindings arena registers instructions.size index instruction = [] := by
  unfold verify
  cases ending : instructions.back? with
  | none => simp
  | some last =>
    rw [List.append_eq_nil_iff]
    refine and_congr (by split <;> simp_all) ?_
    rw [List.flatMap_eq_nil_iff]
    constructor
    · intro accepted index instruction found
      refine accepted (instruction, index) (List.mem_zipIdx_iff_getElem?.mpr ?_)
      rwa [Array.getElem?_toList]
    · rintro accepted ⟨instruction, index⟩ member
      refine accepted index instruction ?_
      rw [← Array.getElem?_toList]
      exact List.mem_zipIdx_iff_getElem?.mp member

/-- A program has no fault exactly if the verifier finds nothing. -/
theorem verifyFault?_eq_none {instructions : Array Instruction} :
    verifyFault? instructions arena registers = none ↔
      verify instructions arena registers = [] := by
  unfold verifyFault?
  cases verify instructions arena registers <;> simp

end DisplayFilter
