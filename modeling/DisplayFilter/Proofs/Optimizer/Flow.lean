/-
**Control flow of optimized code.**

Threading branches leaves the results and the sources of every instruction as they were. It changes
where branches lead, and each of them leads to where it can get by passing what does not matter to
it; what holds wherever a branch led and is kept by passing holds wherever it leads.

* `Code.Threaded.writesTo_iff`, `Code.Threaded.readsFrom`: the registers of instructions.
* `Code.Threaded.leads`: a branch leads to where it is threaded.
* `Code.Threaded.leads_induction`: what passing keeps holds where branches lead.
-/

import DisplayFilter.Proofs.Generation.Supply
import DisplayFilter.Proofs.Optimizer.Finished

namespace DisplayFilter

theorem Opcode.isBranch_opposite {opcode : Opcode} (branches : opcode.isBranch = true) :
    opcode.opposite.isBranch = true := by
  cases opcode <;> first | rfl | cases branches

namespace Code

variable {code current : Code} {index upTo target : Nat} {instruction : Instruction} {number : Int}

/-! ### Branches of code that can be threaded -/

namespace Threadable

/-- A branch leads to where it goes. -/
theorem leads_aim (threadable : code.Threadable)
    (found : code.instructions[index]? = some instruction)
    (branches : instruction.opcode.isBranch = true) :
    ∃ target : Nat, code.aim instruction = target ∧ code.Leads index target := by
  obtain ⟨position, number, first, cell, ahead⟩ := threadable.forward found branches
  obtain ⟨target, rfl⟩ := Int.eq_ofNat_of_zero_le (by omega : 0 ≤ number)
  exact ⟨target, aim_eq first cell, instruction, found, branches, position, first, cell⟩

/-- Branches lead forward. -/
theorem lt_of_leads (threadable : code.Threadable) (leads : code.Leads index target) :
    index < target := by
  obtain ⟨instruction, found, branches, has⟩ := leads
  obtain ⟨position, number, first, cell, ahead⟩ := threadable.forward found branches
  cases (has.unique ⟨position, first, cell⟩ :)
  exact Int.ofNat_lt.mp ahead

end Threadable

/-- A repeated read is one, and so is what stands before the branch. -/
theorem reads_of_repeatsRead {next : Instruction} (repeats : code.repeatsRead index next = true) :
    next.opcode = .readTree ∧ 0 < index ∧
      ∃ before, code.instructions[index - 1]? = some before ∧ before.opcode = .readTree := by
  unfold repeatsRead at repeats
  simp only [Bool.and_eq_true, decide_eq_true_eq] at repeats
  obtain ⟨⟨again, positive⟩, same⟩ := repeats
  refine ⟨again, positive, ?_⟩
  split at same
  · cases same
  · rename_i before there
    simp only [Bool.and_eq_true, decide_eq_true_eq] at same
    exact ⟨before, there, same.1⟩

/-! ### Threaded code -/

namespace Threaded

/-- An instruction of threaded code is a no-op or was there before. -/
theorem original (threaded : code.Threaded upTo current)
    (found : current.instructions[index]? = some instruction) (acts : instruction.opcode ≠ .noOp) :
    code.instructions[index]? = some instruction := by
  rw [threaded.instruction] at found
  obtain ⟨before, there, same⟩ := Option.map_eq_some_iff.mp found
  split at same
  · cases same
    exact absurd rfl acts
  · cases same
    exact there

/-- Operands other than jump targets were there before. -/
theorem has_back (threaded : code.Threaded upTo current) {handle : Handle} {operand : Operand}
    (has : current.Has handle operand) (plain : operand.isTarget = false) :
    code.Has handle operand := by
  obtain ⟨position, same, found⟩ := has
  rcases threaded.arena_cases position with equal | ⟨_, _, _, _, _, moved⟩
  · exact ⟨position, same, equal.symm.trans found⟩
  · cases moved.symm.trans found
    cases plain

/-- Threading changes no result. -/
theorem writesTo_iff (threaded : code.Threaded upTo current) (threadable : code.Threadable)
    {number : Int} : current.WritesTo index number ↔ code.WritesTo index number := by
  constructor
  · rintro ⟨instruction, slot, handle, found, result, held, has⟩
    have acts : instruction.opcode ≠ .noOp := by
      intro idle
      rw [idle] at result
      cases result
    exact ⟨instruction, slot, handle, threaded.original found acts, result, held,
      threaded.has_back has rfl⟩
  · rintro ⟨instruction, slot, handle, found, result, held, has⟩
    exact ⟨instruction, slot, handle,
      threaded.instruction_of_plain found (not_isBranch_of_resultSlot? result), result, held,
      has.keep (threaded.keeps threadable) rfl⟩

theorem readsPlainly_iff (threaded : code.Threaded upTo current) (threadable : code.Threadable)
    {field : Field} {raw : Bool} :
    current.ReadsPlainly index field raw ↔ code.ReadsPlainly index field raw := by
  constructor
  · rintro ⟨instruction, found, opcode, has⟩
    exact ⟨instruction, threaded.original found (by rw [opcode]; decide), opcode,
      threaded.has_back has rfl⟩
  · rintro ⟨instruction, found, opcode, has⟩
    exact ⟨instruction, threaded.instruction_of_plain found (by rw [opcode]; rfl), opcode,
      has.keep (threaded.keeps threadable) rfl⟩

/-- Threading adds no source: what reads a register was there before. -/
theorem readsFrom (threaded : code.Threaded upTo current)
    (found : current.instructions[index]? = some instruction)
    (reads : current.ReadsFrom index number) :
    code.instructions[index]? = some instruction ∧ code.ReadsFrom index number := by
  obtain ⟨reader, slot, handle, there, source, held, has⟩ := reads
  cases found.symm.trans there
  have before : code.instructions[index]? = some instruction := by
    rw [threaded.instruction] at found
    obtain ⟨original, here, same⟩ := Option.map_eq_some_iff.mp found
    split at same
    · cases same
      obtain ⟨position, rfl, _⟩ := has
      rcases Instruction.slots_of held with unused | operand
      · cases unused
      · cases operand
    · rwa [← same]
  exact ⟨before, instruction, slot, handle, before, source, held, threaded.has_back has rfl⟩

section Leads

variable (threaded : code.Threaded code.instructions.size current) (threadable : code.Threadable)
include threaded

/-- **A branch leads to where it is threaded.** -/
theorem leads (leads : current.Leads index target) :
    ∃ instruction, code.instructions[index]? = some instruction ∧
      instruction.opcode.isBranch = true ∧ code.thread index instruction = target := by
  obtain ⟨instruction, found, branches, has⟩ := leads
  have early : index < code.instructions.size := by
    rw [← threaded.size]
    exact (Array.getElem?_eq_some_iff.mp found).1
  obtain ⟨there, leaping⟩ := threaded.branch found early branches
  obtain ⟨position, first, cell⟩ := has
  have moved := threaded.moved early there leaping first
  have same : Operand.target target = .target (code.thread index instruction) :=
    Option.some.inj (cell.symm.trans moved)
  exact ⟨instruction, there, branches, (congrArg Operand.number same).symm⟩

include threadable

theorem lt_of_leads (leads : current.Leads index target) : index < target := by
  obtain ⟨instruction, found, branches, same⟩ := threaded.leads leads
  have ahead := threadable.lt_thread found branches
  omega

/-- **What passing keeps holds where branches lead.** -/
theorem leads_induction {motive : Nat → Prop} (leads : current.Leads index target)
    (found : code.instructions[index]? = some instruction)
    (direct : ∀ target, code.Leads index target → motive target)
    (opposite : ∀ (target : Nat) (next : Instruction), motive target →
      code.instructions[target]? = some next → next.opcode = instruction.opcode.opposite →
      motive (target + 1))
    (repeated : ∀ (target : Nat) (next : Instruction), motive target →
      code.instructions[target]? = some next → code.repeatsRead index next = true →
      motive (target + 1))
    (same : ∀ (target : Nat) (next : Instruction) (further : Nat), motive target →
      code.instructions[target]? = some next → next.opcode = instruction.opcode →
      code.Leads target further → motive further) : motive target := by
  obtain ⟨branch, there, branches, threads⟩ := threaded.leads leads
  cases found.symm.trans there
  have reached : ∃ target : Nat, code.thread index instruction = target ∧ motive target := by
    refine thread_induction (motive := fun number => ∃ target : Nat, number = target ∧ motive target)
      ?_ fun _ _ passes reached => ?_
    · obtain ⟨target, aims, leads⟩ := threadable.leads_aim found branches
      exact ⟨target, aims, direct target leads⟩
    · obtain ⟨target, rfl, holds⟩ := reached
      cases passes with
      | opposite _ next here inverted =>
        exact ⟨target + 1, rfl, opposite target next holds here inverted⟩
      | repeated _ next here repeats =>
        exact ⟨target + 1, rfl, repeated target next holds here repeats⟩
      | same _ next here equal =>
        obtain ⟨further, aims, leads⟩ := threadable.leads_aim here (equal ▸ branches)
        exact ⟨further, aims, same target next further holds here equal leads⟩
  obtain ⟨reachedTarget, equal, holds⟩ := reached
  rw [threads] at equal
  rwa [Int.ofNat.inj equal]

end Leads

end Threaded

end Code

end DisplayFilter
