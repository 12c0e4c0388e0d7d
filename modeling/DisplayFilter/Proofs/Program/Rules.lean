/-
**The rules that the verifier decides.**

The verifier goes over the instructions once and skips what it cannot look at: the slots of an
unknown opcode, an empty slot, the operand of a handle that leads nowhere. None of this hides a
broken rule, since whatever makes it skip a check is itself allowed or reported.

* `Instruction.KeepsRules`: the rules for one instruction, each told without the others.
* `instructionFindings_eq_nil_iff`: nothing is found about an instruction that keeps them.
* `verifyFault?_eq_none_iff`: a program is accepted exactly if it ends by returning and every
  instruction keeps the rules.
-/

import DisplayFilter.Proofs.Program.Verified

namespace DisplayFilter

variable {arena : Array Operand} {registers : Int} {size index : Nat} {instruction : Instruction}

/-- The rules for the instruction at an index of a program of the given size. -/
structure Instruction.KeepsRules (arena : Array Operand) (registers : Int) (size index : Nat)
    (instruction : Instruction) : Prop where
  id : instruction.id = index
  known : instruction.opcode.isKnown = true
  /-- Every slot is empty or holds the position of an operand. -/
  operand : ∀ (slot : Nat) (handle : Handle), instruction.slots[slot]? = some handle →
    handle = noOperand ∨ ∃ position : Nat, handle = position ∧ position < arena.size
  /-- The slots that the opcode does not use are empty. -/
  unused : ∀ (slot : Nat) (handle : Handle), instruction.slots[slot]? = some handle →
    instruction.opcode.operandCount ≤ slot → handle = noOperand
  /-- Jump targets in any slot are resolved, to an instruction or to the end of the program. -/
  target : ∀ (slot position : Nat) (number : Int),
    instruction.slots[slot]? = some (position : Int) →
    arena[position]? = some (.target number) →
    number ≠ unresolved ∧ 0 ≤ number ∧ number ≤ size
  /-- Registers in any slot are among those of the program. -/
  register : ∀ (slot position : Nat) (number : Int),
    instruction.slots[slot]? = some (position : Int) →
    arena[position]? = some (.register number) → 0 ≤ number ∧ number < registers
  /-- A branch has a jump target in its first slot. -/
  branch : instruction.opcode.isBranch = true → ∃ (position : Nat) (number : Int),
    instruction.first = position ∧ arena[position]? = some (.target number)

/-- Nothing is found about a slot whose operand is there, wanted and in bounds. -/
theorem Instruction.KeepsRules.slot
    (rules : instruction.KeepsRules arena registers size index) {slot : Nat} {handle : Handle}
    (held : instruction.slots[slot]? = some handle) :
    slotFindings arena registers size index instruction.opcode slot handle = [] := by
  refine slotFindings_eq_nil.mpr ?_
  by_cases empty : handle = noOperand
  · exact .inl empty
  obtain ⟨position, rfl, inside⟩ := (rules.operand slot handle held).resolve_left empty
  have wanted : slot < instruction.opcode.operandCount :=
    Nat.lt_of_not_le fun beyond => empty (rules.unused slot position held beyond)
  have found := Array.getElem?_eq_getElem inside
  refine .inr ⟨wanted, position, _, rfl, found, fun number same => ?_, fun number same => ?_⟩
  · exact (rules.target slot position number held (found.trans (congrArg some same))).2
  · exact rules.register slot position number held (found.trans (congrArg some same))

/-- **Nothing is found about an instruction exactly if it keeps the rules.** -/
theorem instructionFindings_eq_nil_iff :
    instructionFindings arena registers size index instruction = [] ↔
      instruction.KeepsRules arena registers size index := by
  constructor
  · intro accepted
    obtain ⟨id, known, slots, branch⟩ := instructionFindings_eq_nil.mp accepted
    have used : ∀ (slot : Nat) (handle : Handle), instruction.slots[slot]? = some handle →
        handle = noOperand ∨ slot < instruction.opcode.operandCount ∧
          ∃ (position : Nat) (operand : Operand), handle = position ∧
            arena[position]? = some operand ∧ operand.InBounds registers size :=
      fun slot handle held => slotFindings_eq_nil.mp (slots slot handle held)
    have bounds : ∀ (slot position : Nat) (operand : Operand),
        instruction.slots[slot]? = some (position : Int) → arena[position]? = some operand →
        operand.InBounds registers size := by
      intro slot position operand held found
      rcases used slot position held with empty | ⟨_, place, other, same, there, bound⟩
      · cases (empty : Int.ofNat position = Int.negSucc 0)
      · rw [← Int.ofNat.inj same, found] at there
        cases there
        exact bound
    refine ⟨id, known, fun slot handle held => ?_, fun slot handle held beyond => ?_,
      fun slot position number held found => ?_, fun slot position number held found => ?_, branch⟩
    · refine (used slot handle held).imp_right ?_
      rintro ⟨_, position, operand, same, found, _⟩
      exact ⟨position, same, (Array.getElem?_eq_some_iff.mp found).1⟩
    · exact (used slot handle held).resolve_right fun wanted => Nat.not_lt.mpr beyond wanted.1
    · have bound := (bounds slot position _ held found).1 number rfl
      refine ⟨?_, bound⟩
      unfold unresolved
      omega
    · exact (bounds slot position _ held found).2 number rfl
  · intro rules
    exact instructionFindings_eq_nil.mpr
      ⟨rules.id, rules.known, fun slot handle held => rules.slot held, rules.branch⟩

/-- **The verifier decides its rules.** A program is accepted exactly if it has a last instruction,
which returns, and every instruction keeps the rules. -/
theorem verifyFault?_eq_none_iff (instructions : Array Instruction) (arena : Array Operand)
    (registers : Int) :
    verifyFault? instructions arena registers = none ↔
      (∃ last, instructions.back? = some last ∧ last.opcode = .halt) ∧
      ∀ (index : Nat) (instruction : Instruction), instructions[index]? = some instruction →
        instruction.KeepsRules arena registers instructions.size index := by
  rw [verifyFault?_eq_none, verify_eq_nil]
  exact and_congr_right fun _ => forall_congr' fun _ => forall_congr' fun _ =>
    forall_congr' fun _ => instructionFindings_eq_nil_iff

end DisplayFilter
