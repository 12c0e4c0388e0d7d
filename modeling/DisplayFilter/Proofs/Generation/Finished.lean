/-
**Finished code.**

The code of a root is what a run of code generation makes of no code at all, followed by the
instruction that returns. In it every jump target is resolved.

* `Code.Finished`: what holds of finished code, optimized or not.
* `generated_ok`: the code generated for a root is finished.
* `generated_error`: where there is none, the root is at fault and not the code.
-/

import DisplayFilter.Compiler
import DisplayFilter.Proofs.Generation.Shape
import DisplayFilter.Proofs.Generation.Trace
import DisplayFilter.Proofs.Lists

namespace DisplayFilter

namespace Code

variable {code : Code}

/-- Code whose last instruction, and no other, returns the given result, and whose branches go
forward and not past it. -/
structure Finished (code : Code) (last : Nat) (result : Handle) : Prop where
  size : code.instructions.size = last + 1
  final : code.instructions[last]? = some (.of last .halt [result])
  body : ∀ {index : Nat} {instruction : Instruction}, index < last →
    code.instructions[index]? = some instruction → code.Fits index instruction
  result : result = noOperand ∨ code.HoldsValue result
  forward : ∀ {index : Nat} {instruction : Instruction},
    code.instructions[index]? = some instruction → instruction.opcode.isBranch = true →
    ∃ (position : Nat) (number : Int), instruction.first = position ∧
      code.arena[position]? = some (.target number) ∧ (index : Int) < number ∧ number ≤ last
  targets : ∀ {position : Nat} {number : Int}, code.arena[position]? = some (.target number) →
    0 < number ∧ number ≤ last
  distinct : ∀ {index other : Nat} {instruction branch : Instruction},
    code.instructions[index]? = some instruction → instruction.opcode.isBranch = true →
    code.instructions[other]? = some branch → branch.opcode.isBranch = true →
    instruction.first = branch.first → index = other
  numbered : code.Numbered

/-! ### Branches and their targets -/

/-- A cell of a branch. -/
theorem mem_branchCells {handle : Handle} :
    handle ∈ code.branchCells ↔ ∃ (index : Nat) (instruction : Instruction),
      code.instructions[index]? = some instruction ∧ instruction.opcode.isBranch = true ∧
      instruction.first = handle := by
  unfold branchCells
  simp only [List.mem_map, List.mem_filter, Array.mem_toList_iff, Array.mem_iff_getElem?]
  constructor
  · rintro ⟨instruction, ⟨⟨index, found⟩, branches⟩, same⟩
    exact ⟨index, instruction, found, branches, same⟩
  · rintro ⟨index, instruction, found, branches, same⟩
    exact ⟨instruction, ⟨⟨index, found⟩, branches⟩, same⟩

/-- Branches whose cells are listed once each have different cells. -/
theorem branch_unique (distinct : code.branchCells.Nodup) {index other : Nat}
    {instruction branch : Instruction}
    (found : code.instructions[index]? = some instruction)
    (branches : instruction.opcode.isBranch = true)
    (there : code.instructions[other]? = some branch) (also : branch.opcode.isBranch = true)
    (same : instruction.first = branch.first) : index = other := by
  rw [← Array.getElem?_toList] at found there
  exact getElem?_unique distinct found branches there also same

/-- The cells of a run from no code are those of its branches. -/
theorem Steps.cells_eq_branchCells (steps : Steps (empty, []) (code, [])) :
    code.cells = code.branchCells := by
  obtain ⟨new, cells, branches⟩ := steps.cells
  exact cells.trans branches.symm

/-! ### The end of a run -/

/-- A run from no code that leaves nothing pending resolves every branch. -/
theorem Steps.resolved_forward (steps : Steps (empty, []) (code, [])) {index : Nat}
    {instruction : Instruction} (found : code.instructions[index]? = some instruction)
    (branches : instruction.opcode.isBranch = true) :
    ∃ (position : Nat) (number : Int), instruction.first = position ∧
      code.arena[position]? = some (.target number) ∧ (index : Int) < number ∧
      number ≤ code.instructions.size := by
  have start : empty.ForwardFrom 0 := by
    intro index instruction _ found _
    cases found
  obtain ⟨position, number, first, cell, bound⟩ :=
    steps.forward start index instruction (Nat.zero_le _) found branches
  have settled : code.unresolvedCells = [] ++ [] := steps.unresolvedCells rfl
  refine ⟨position, number, first, cell, bound.resolve_left fun waits => ?_⟩
  have member : (position : Int) ∈ code.unresolvedCells := by
    refine mem_positions.mpr ⟨position, _, rfl, cell, ?_⟩
    rw [waits]
    rfl
  rw [settled] at member
  cases member

/-- **A run from no code is finished by returning.** -/
theorem Steps.finished {result : Handle} (steps : Steps (empty, []) (code, []))
    (held : Compile.IsResult result code) :
    (code.emit .halt [result]).Finished code.instructions.size result := by
  have sound := steps.sound sound_empty
  have grown := @Extends.emit code .halt [result]
  have branch : ∀ {index : Nat} {instruction : Instruction},
      (code.emit .halt [result]).instructions[index]? = some instruction →
      instruction.opcode.isBranch = true → code.instructions[index]? = some instruction := by
    intro index instruction found branches
    rcases getElem?_of_push found with old | ⟨_, rfl⟩
    · exact old
    · cases branches
  refine ⟨Array.size_push _, Array.getElem?_push_size, fun {index instruction} early found => ?_,
    held, fun {index instruction} found branches => ?_, fun {position number} found => ?_,
    fun found branches there also same => ?_, sound.numbered.congr (fun _ _ => .rfl) rfl rfl⟩
  · rcases getElem?_of_push found with old | ⟨rfl, _⟩
    · exact (sound.shaped index instruction old).keep grown.keeps
    · exact absurd early (Nat.lt_irrefl _)
  · exact steps.resolved_forward (branch found branches) branches
  · have member : (position : Int) ∈ code.branchCells := by
      rw [← steps.cells_eq_branchCells]
      exact mem_positions.mpr ⟨position, _, rfl, found, rfl⟩
    obtain ⟨index, instruction, there, branches, first⟩ := mem_branchCells.mp member
    obtain ⟨same, target, cell, operand, forward, bound⟩ :=
      steps.resolved_forward there branches
    rw [first] at cell
    cases Int.ofNat.inj cell
    cases (Option.some.inj (operand.symm.trans found) :)
    exact ⟨by omega, bound⟩
  · refine branch_unique ?_ (branch found branches) branches (branch there also) also same
    rw [← steps.cells_eq_branchCells]
    exact nodup_positions _

end Code

/-! ### The code of a root -/

variable {registry : Registry} {returnValues : Bool} {root : Node} {code : Code}

/-- What is known of generating the code of a root is known of the code. -/
theorem generated_yields {post : Code → Prop} {broken : Violation → Prop}
    (yields : Gen.Yields (generate registry returnValues root) .empty (fun _ => post) broken) :
    (∀ code, generated registry returnValues root = .ok code → post code) ∧
      ∀ violation, generated registry returnValues root = .error violation → broken violation := by
  unfold generated StateT.run
  cases ended : generate registry returnValues root .empty with
  | error violation =>
    refine ⟨fun code same => ?_, fun other same => ?_⟩
    · cases same
    · cases same
      exact yields.of_error ended
  | ok reached =>
    refine ⟨fun code same => ?_, fun violation same => ?_⟩
    · cases same
      exact yields.of_ok ended
    · cases same

/-- The code of a root is that of a run, and the instruction that returns its result. -/
theorem generate_runs :
    Gen.Yields (generate registry returnValues root) .empty
      (fun _ code => root.isPredicate = true ∧ ∃ (body : Code) (result : Handle),
        code = body.emit .halt [result] ∧ Code.Steps (.empty, []) (body, []) ∧
        Compile.IsResult result body)
      (fun violation => root.isPredicate = false ∧ violation.isInternal = false) := by
  unfold generate
  refine (Compile.predicate_runs root returnValues .empty Code.cachesRegisters_empty).bind
    (fun _ => id) fun result body run => ?_
  exact ⟨run.1, body, result, rfl, run.2.1, run.2.2⟩

/-- **The code generated for a root is finished.** -/
theorem generated_ok (made : generated registry returnValues root = .ok code) :
    root.isPredicate = true ∧ ∃ (last : Nat) (result : Handle), code.Finished last result := by
  obtain ⟨accepted, body, result, rfl, steps, held⟩ := (generated_yields generate_runs).1 code made
  exact ⟨accepted, body.instructions.size, result, steps.finished held⟩

/-- The jump targets of generated code are those of its branches. -/
theorem generated_cells (made : generated registry returnValues root = .ok code) :
    code.cells = code.branchCells := by
  obtain ⟨_, body, result, rfl, steps, _⟩ := (generated_yields generate_runs).1 code made
  have same : (body.emit .halt [result]).branchCells = body.branchCells :=
    (Code.branchCells_push rfl).trans (List.append_nil _)
  rw [same]
  exact steps.cells_eq_branchCells

/-- **Where no code is generated, the root is at fault.** -/
theorem generated_error {violation : Violation}
    (failed : generated registry returnValues root = .error violation) :
    root.isPredicate = false ∧ violation.isInternal = false :=
  (generated_yields generate_runs).2 violation failed

end DisplayFilter
