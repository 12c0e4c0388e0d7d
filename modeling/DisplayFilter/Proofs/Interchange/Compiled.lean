/-
**Alike programs.**

Alike code is optimized alike: where a branch may go depends on the numbers of operands only, and
fields have none. So the compilations of two trees that are alike both fail with the same fault, or
both end with alike code.

* `Code.BranchesAim`: the first operands of branches are jump targets, also while code is optimized.
* `Code.Alike.optimize`: optimizing alike code.
* `compileTree_agrees`: compiling alike trees.
-/

import DisplayFilter.Proofs.Interchange.Generation
import DisplayFilter.Proofs.Compiler.WellFormed

namespace DisplayFilter

/-! ### Optimizing alike code -/

namespace Code

variable {noted : List Field → List Field → Prop} {written written' : List Field}
  {code code' : Code}

/-- Branches have jump targets. -/
def BranchesAim (code : Code) : Prop :=
  ∀ instruction ∈ code.instructions, instruction.opcode.isBranch = true →
    (code.operand instruction.first).isTarget = true

theorem Finished.branchesAim {last : Nat} {result : Handle} (finished : code.Finished last result) :
    code.BranchesAim := by
  intro instruction member branches
  obtain ⟨index, found⟩ := Array.mem_iff_getElem?.mp member
  obtain ⟨position, number, first, cell, _⟩ := finished.forward found branches
  rw [first, operand, operandAt_eq cell]
  rfl

theorem tableHandles_disable {index : Nat} {branch : Instruction}
    (found : code.instructions[index]? = some branch) (branches : branch.opcode.isBranch = true) :
    (code.disable index).tableHandles = code.tableHandles := by
  refine congrArg (List.map Instruction.first) (filter_eq_of_forall₂ ?_)
  refine List.forall₂_iff_get.mpr ⟨Array.size_modify, fun place here there => ?_⟩
  have replaced : (code.disable index).instructions[place] =
      if index = place then .of index .noOp [] else code.instructions[place] :=
    Array.getElem_modify here
  simp only [List.get_eq_getElem, Array.getElem_toList, replaced]
  split
  · -- Neither a branch nor what does nothing applies a table.
    rename_i same
    subst same
    obtain ⟨_, held⟩ := Array.getElem?_eq_some_iff.mp found
    refine .inr ⟨rfl, decide_eq_false fun applies => ?_⟩
    rw [held] at applies
    rw [applies] at branches
    cases branches
  · exact .inl rfl

theorem BranchesAim.disable (aims : code.BranchesAim) (index : Nat) :
    (code.disable index).BranchesAim := by
  intro instruction member branches
  obtain ⟨place, found⟩ := Array.mem_iff_getElem?.mp member
  rw [Code.disable, Array.getElem?_modify] at found
  split at found
  · obtain ⟨_, _, rfl⟩ := Option.map_eq_some_iff.mp found
    cases branches
  · exact aims instruction (Array.mem_of_getElem? found) branches

theorem BranchesAim.setNumber (aims : code.BranchesAim) {handle : Handle}
    (target : (code.operand handle).isTarget = true) (number : Int) :
    (code.setNumber handle number).BranchesAim := by
  intro instruction member branches
  rw [setNumber_instructions] at member
  rw [operand_setNumber target]
  split
  · exact target
  · exact aims instruction member branches

namespace Alike

variable (alike : code.Alike noted written written' code')

include alike

theorem repeatsRead_eq (index : Nat) (next : Instruction) :
    code'.repeatsRead index next = code.repeatsRead index next := by
  unfold repeatsRead
  simp only [alike.instructions, alike.number_eq]

theorem advance_eq (index : Nat) (branch : Opcode) (fuel : Nat) (target : Int) :
    code'.advance index branch fuel target = code.advance index branch fuel target := by
  induction fuel generalizing target with
  | zero => rfl
  | succ fuel ih =>
    unfold advance
    simp only [alike.instructions, alike.repeatsRead_eq, alike.number_eq, ih]

theorem disable {index : Nat} {branch : Instruction}
    (found : code.instructions[index]? = some branch) (branches : branch.opcode.isBranch = true) :
    Alike noted written written' (code.disable index) (code'.disable index) := by
  have handles := tableHandles_disable found branches
  refine ⟨?_, alike.registers, alike.loaded, alike.references, alike.rawReferences,
    alike.interesting, alike.size, ?_, ?_, ?_⟩
  · exact congrArg (·.modify index fun _ => .of index .noOp []) alike.instructions
  · rw [handles]
    exact alike.operand
  · rw [handles]
    exact alike.tables
  · rw [handles]
    exact alike.tables'

/-- Improving one branch of alike code. -/
theorem optimizeAt (aims : code.BranchesAim) (index : Nat) :
    Alike noted written written' (code.optimizeAt index).1 (code'.optimizeAt index).1 ∧
      (code.optimizeAt index).1.BranchesAim := by
  unfold Code.optimizeAt
  simp only [alike.instructions, alike.number_eq, alike.advance_eq]
  split
  · exact ⟨alike, aims⟩
  rename_i branch found
  split
  · rename_i branches
    split
    · exact ⟨alike.disable found branches, aims.disable index⟩
    · split
      · exact ⟨alike, aims⟩
      · have target := aims branch (Array.mem_of_getElem? found) branches
        exact ⟨alike.setNumber target _, aims.setNumber target _⟩
  · exact ⟨alike, aims⟩

theorem optimizeFrom (aims : code.BranchesAim) (indices : List Nat) :
    Alike noted written written' (code.optimizeFrom indices).1 (code'.optimizeFrom indices).1 := by
  induction indices generalizing code code' with
  | nil => exact alike
  | cons index indices ih =>
    obtain ⟨improved, still⟩ := alike.optimizeAt aims index
    exact ih improved still

/-- **Alike code is optimized alike.** -/
theorem optimize (aims : code.BranchesAim) :
    Alike noted written written' code.optimize.1 code'.optimize.1 := by
  unfold Code.optimize
  rw [alike.instructions]
  exact alike.optimizeFrom aims _

theorem optimizedCode (aims : code.BranchesAim) (wanted : Bool) :
    Alike noted written written' (DisplayFilter.optimizedCode wanted code).1
      (DisplayFilter.optimizedCode wanted code').1 := by
  cases wanted with
  | false => exact alike
  | true => exact alike.optimize aims

end Alike

end Code

/-! ### Compiling alike trees -/

/-- **Alike trees are compiled alike.** -/
theorem compileTree_agrees {registry' : Registry} (config : CompileConfig) (root other : Node)
    (pairing : Pairing config.registry registry') (alike : root.Alike pairing.same other) :
    Agree (fun compiled compiled' => compiled.1.Alike pairing.noted
        (root.tabled (rootPosition config.returnValues))
        (other.tabled (rootPosition config.returnValues)) compiled'.1)
      (compileTree config root) (compileTree { config with registry := registry' } other) := by
  have valid := alike.validationFault?_eq pairing.named
  have presence := alike.isPresent_eq
  by_cases present : root.isPresent = true
  · by_cases admitted : config.skipValidation = true ∨ validationFault? root = none
    · rw [compileTree_admitted present admitted,
        compileTree_admitted (presence ▸ present) (valid ▸ admitted)]
      have made := generated_agrees pairing alike config.returnValues
      have aims : ∀ code, generated config.registry config.returnValues root = .ok code →
          code.BranchesAim := by
        intro code done
        obtain ⟨_, last, result, finished⟩ := generated_ok done
        exact finished.branchesAim
      generalize generated config.registry config.returnValues root = outcome,
        generated registry' config.returnValues other = outcome' at made aims
      cases made with
      | error violation => exact .error _
      | ok held => exact .ok (held.optimizedCode (aims _ rfl) config.optimize)
    · obtain ⟨asked, refused⟩ := not_or.mp admitted
      obtain ⟨fault, found⟩ := Option.ne_none_iff_exists'.mp refused
      rw [compileTree_refused present (Bool.not_eq_true _ ▸ asked) found,
        compileTree_refused (presence ▸ present) (Bool.not_eq_true _ ▸ asked) (valid ▸ found)]
      exact .error fault
  · cases alike with
    | missing => exact .error _
    | _ => exact absurd rfl present

end DisplayFilter
