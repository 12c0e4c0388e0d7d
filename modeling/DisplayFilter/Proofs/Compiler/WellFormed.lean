/-
**Compiled programs are well formed.**

Whatever tree is compiled and whatever is asked for, the program that comes out keeps the rules of
the machine, and the two ways in which the compiler itself could be at fault do not occur: a jump
target is never resolved wrongly, and the verifier never refuses a program.

* `Code.WellFormed`: the rules.
* `Code.Finished.verified`: the verifier accepts finished code.
* `compileTree_ok_iff`, `compileTree_error`: how a compilation ends.
* `compiles_iff`: which trees compile.
* `compileTree_wellFormed`: compiled programs are well formed.
-/

import DisplayFilter.Proofs.Optimizer.Finished
import DisplayFilter.Proofs.Validation.Acceptance

namespace DisplayFilter

/-! ### The verifier -/

namespace Code

variable {code : Code} {last : Nat} {result : Handle}

/-- A handle of an operand. -/
def HoldsOperand (code : Code) (handle : Handle) : Prop :=
  ∃ (position : Nat) (operand : Operand), handle = position ∧ code.arena[position]? = some operand

theorem HoldsValue.holdsOperand {handle : Handle} (value : code.HoldsValue handle) :
    code.HoldsOperand handle := by
  obtain ⟨position, operand, same, found, _⟩ := value
  exact ⟨position, operand, same, found⟩

namespace Finished

/-- Jump targets and registers of finished code are in bounds. -/
theorem inBounds (finished : code.Finished last result) {position : Nat} {operand : Operand}
    (found : code.arena[position]? = some operand) :
    operand.InBounds code.registers code.instructions.size := by
  refine ⟨fun number target => ?_, fun number register => ?_⟩
  · have bound := finished.targets (target ▸ found)
    rw [finished.size]
    omega
  · exact finished.numbered.bound (register ▸ found)

/-- An instruction with operands that are there, and no more of them than it has slots for, is
accepted. -/
theorem accepts (finished : code.Finished last result) {index : Nat} {opcode : Opcode}
    {operands : List Handle} (known : opcode.isKnown = true)
    (count : operands.length ≤ opcode.operandCount)
    (held : ∀ handle ∈ operands, handle = noOperand ∨ code.HoldsOperand handle)
    (branch : opcode.isBranch = true → ∃ (position : Nat) (number : Int),
      (Instruction.of index opcode operands).first = position ∧
        code.arena[position]? = some (.target number)) :
    instructionFindings code.arena code.registers code.instructions.size index
      (.of index opcode operands) = [] := by
  refine instructionFindings_eq_nil.mpr ⟨rfl, known, fun slot handle found => ?_, branch⟩
  refine slotFindings_eq_nil.mpr ?_
  rcases Instruction.slots_of found with unused | used
  · exact .inl unused
  · refine (held handle (List.mem_of_getElem? used)).imp_right ?_
    rintro ⟨position, operand, same, there⟩
    have inside := (List.getElem?_eq_some_iff.mp used).1
    exact ⟨Nat.lt_of_lt_of_le inside count, position, operand, same, there,
      finished.inBounds there⟩

/-- **The verifier accepts finished code.** -/
theorem verified (finished : code.Finished last result) :
    verify code.instructions code.arena code.registers = [] := by
  refine verify_eq_nil.mpr ⟨⟨.of last .halt [result], ?_, rfl⟩, fun index instruction found => ?_⟩
  · rw [Array.back?_eq_getElem?, finished.size, Nat.add_sub_cancel]
    exact finished.final
  rcases finished.cases_found found with ⟨_, fits⟩ | ⟨rfl, rfl⟩
  · cases fits with
    | plain opcode operands free count values =>
      have known : opcode.isKnown = true := by cases opcode <;> first | rfl | cases free
      have falls := Opcode.isBranch_of_isPlain free
      refine finished.accepts known (Nat.le_of_eq count)
        (fun handle member => .inr (values handle member).holdsOperand) fun branches => ?_
      rw [falls] at branches
      cases branches
    | read field raw position register operand cached =>
      refine finished.accepts rfl (Nat.le_refl _) (fun handle member => .inr ?_) Bool.noConfusion
      rcases List.mem_cons.mp member with rfl | second
      · exact ⟨position, _, rfl, operand⟩
      · rw [List.mem_singleton.mp second]
        exact (finished.numbered.caches.holdsValue cached).holdsOperand
    | branch opcode target branches cell =>
      obtain ⟨position, number, same, there⟩ := cell
      have known : opcode.isKnown = true := by cases opcode <;> first | rfl | cases branches
      have count : opcode.operandCount = 1 := by cases opcode <;> first | rfl | cases branches
      refine finished.accepts known (Nat.le_of_eq count.symm) (fun handle member => .inr ?_)
        fun _ => ⟨position, number, same, there⟩
      rw [List.mem_singleton.mp member]
      exact ⟨position, _, same, there⟩
  · refine finished.accepts rfl (Nat.le_refl _) (fun handle member => ?_) Bool.noConfusion
    rw [List.mem_singleton.mp member]
    exact finished.result.imp_right HoldsValue.holdsOperand

theorem verifyFault? (finished : code.Finished last result) : code.verifyFault? = none :=
  verifyFault?_eq_none.mpr finished.verified

end Finished

/-! ### The rules -/

/-- The rules that a compiled program keeps. -/
structure WellFormed (code : Code) : Prop where
  /-- The id of an instruction is its index. -/
  id : ∀ (index : Nat) (instruction : Instruction),
    code.instructions[index]? = some instruction → instruction.id = index
  /-- The last instruction returns, and no other does. -/
  returns : ∃ last, code.instructions.size = last + 1 ∧
    ∀ (index : Nat) (instruction : Instruction), code.instructions[index]? = some instruction →
      (instruction.opcode = .halt ↔ index = last)
  /-- Every jump target is resolved. -/
  resolved : ∀ (position : Nat) (number : Int),
    code.arena[position]? = some (.target number) → number ≠ unresolved
  /-- Every branch goes forward and at most to the last instruction. -/
  forward : ∀ (index : Nat) (instruction : Instruction),
    code.instructions[index]? = some instruction → instruction.opcode.isBranch = true →
    ∃ (position : Nat) (target : Int), instruction.first = position ∧
      code.arena[position]? = some (.target target) ∧
      (index : Int) < target ∧ target ≤ (code.instructions.size : Int) - 1
  /-- No two branches share a jump target. -/
  distinct : ∀ (index other : Nat) (instruction branch : Instruction),
    code.instructions[index]? = some instruction → instruction.opcode.isBranch = true →
    code.instructions[other]? = some branch → branch.opcode.isBranch = true →
    instruction.first = branch.first → index = other
  /-- The verifier has nothing to say. -/
  verified : code.verifyFault? = none

/-- Whether the instruction at an index is a branch with the given jump target. -/
def BranchesTo (code : Code) (position index : Nat) : Prop :=
  ∃ instruction : Instruction, code.instructions[index]? = some instruction ∧
    instruction.opcode.isBranch = true ∧ instruction.first = position

theorem Finished.wellFormed (finished : code.Finished last result) : code.WellFormed := by
  refine ⟨fun index instruction found => ?_,
    ⟨last, finished.size, fun index instruction found => finished.halts_iff found⟩,
    fun position number found => ?_, fun index instruction found branches => ?_,
    fun _ _ _ _ found branches there also same => finished.distinct found branches there also same,
    finished.verifyFault?⟩
  · rcases finished.cases_found found with ⟨_, fits⟩ | ⟨rfl, rfl⟩
    · cases fits <;> rfl
    · rfl
  · have bound := finished.targets found
    unfold unresolved
    omega
  · obtain ⟨position, number, first, cell, forward, bound⟩ := finished.forward found branches
    refine ⟨position, number, first, cell, forward, ?_⟩
    rw [finished.size]
    omega

end Code

/-! ### How a compilation ends -/

variable {config : CompileConfig} {root : Node}

theorem optimizedCode_finished {code : Code} {last : Nat} {result : Handle} (wanted : Bool)
    (finished : code.Finished last result) :
    (optimizedCode wanted code).1.Finished last result := by
  cases wanted with
  | false => exact finished
  | true => exact finished.optimize

/-- A tree that is refused by validation is not compiled. -/
theorem compileTree_refused {fault : Fault} (present : root.isPresent = true)
    (asked : config.skipValidation = false) (refused : validationFault? root = some fault) :
    compileTree config root = .error fault := by
  unfold compileTree
  simp only [present, asked, refused, bind, Except.bind, throw, throwThe, MonadExceptOf.throw,
    Bool.not_true, Bool.not_false, Bool.false_eq_true, if_true, if_false]

/-- A tree that is not refused is compiled if code is generated for it: the verifier accepts the
code. -/
theorem compileTree_admitted (present : root.isPresent = true)
    (admitted : config.skipValidation = true ∨ validationFault? root = none) :
    compileTree config root =
      match generated config.registry config.returnValues root with
      | .error violation => .error violation.toFault
      | .ok original =>
        let (code, events) := optimizedCode config.optimize original
        .ok (code, events ++ [.compiled code.instructions.size code.registers
          code.interesting.length]) := by
  unfold compileTree
  rw [present]
  cases made : generated config.registry config.returnValues root with
  | error violation =>
    rcases admitted with skipped | valid
    · rw [skipped]
      rfl
    · rw [valid]
      cases config.skipValidation <;> rfl
  | ok original =>
    obtain ⟨_, last, result, finished⟩ := generated_ok made
    have accepted := (optimizedCode_finished config.optimize finished).verifyFault?
    simp only [Except.mapError, bind, Except.bind, accepted]
    rcases admitted with skipped | valid
    · rw [skipped]
      rfl
    · rw [valid]
      cases config.skipValidation <;> rfl

/-- **A compilation succeeds exactly if the tree is valid, where it is asked to be, and code is
generated for it.** -/
theorem compileTree_ok_iff {code : Code} :
    (∃ events, compileTree config root = .ok (code, events)) ↔
      (config.skipValidation = true ∨ validationFault? root = none) ∧
      ∃ original, generated config.registry config.returnValues root = .ok original ∧
        code = (optimizedCode config.optimize original).1 := by
  by_cases present : root.isPresent = true
  · by_cases admitted : config.skipValidation = true ∨ validationFault? root = none
    · rw [compileTree_admitted present admitted, and_iff_right admitted]
      cases generated config.registry config.returnValues root with
      | error violation => exact iff_of_false nofun nofun
      | ok original => simp [eq_comm]
    · obtain ⟨asked, refused⟩ := not_or.mp admitted
      obtain ⟨fault, found⟩ := Option.ne_none_iff_exists'.mp refused
      rw [compileTree_refused present (Bool.not_eq_true _ ▸ asked) found]
      exact iff_of_false nofun fun both => admitted both.1
  · cases root <;> first | exact absurd rfl present | exact iff_of_false nofun nofun

/-- Which trees compile. -/
theorem compiles_iff :
    (∃ compiled, compileTree config root = .ok compiled) ↔
      (config.skipValidation = true ∨ validationFault? root = none) ∧ root.isPredicate = true := by
  constructor
  · rintro ⟨⟨code, events⟩, compiled⟩
    obtain ⟨admitted, original, made, _⟩ := compileTree_ok_iff.mp ⟨events, compiled⟩
    exact ⟨admitted, (generated_ok made).1⟩
  · rintro ⟨admitted, accepted⟩
    cases made : generated config.registry config.returnValues root with
    | ok original =>
      obtain ⟨events, compiled⟩ := compileTree_ok_iff.mpr ⟨admitted, original, made, rfl⟩
      exact ⟨_, compiled⟩
    | error violation =>
      rw [(generated_error made).1] at accepted
      cases accepted

/-- **A compilation fails for want of a tree, by validation or by code generation.** -/
theorem compileTree_error {fault : Fault} (failed : compileTree config root = .error fault) :
    fault = Violation.nothingToCompile.toFault ∨ validationFault? root = some fault ∨
      ∃ violation, generated config.registry config.returnValues root = .error violation ∧
        fault = violation.toFault := by
  by_cases present : root.isPresent = true
  · by_cases admitted : config.skipValidation = true ∨ validationFault? root = none
    · rw [compileTree_admitted present admitted] at failed
      cases made : generated config.registry config.returnValues root with
      | error violation =>
        rw [made] at failed
        cases failed
        exact .inr (.inr ⟨violation, rfl, rfl⟩)
      | ok original =>
        rw [made] at failed
        cases failed
    · obtain ⟨asked, refused⟩ := not_or.mp admitted
      obtain ⟨other, found⟩ := Option.ne_none_iff_exists'.mp refused
      rw [compileTree_refused present (Bool.not_eq_true _ ▸ asked) found] at failed
      cases failed
      exact .inr (.inl found)
  · match root with
    | .missing =>
      cases failed
      exact .inl rfl

/-! ### Faults of the compiler itself -/

mutual

/-- Every code inside a fault. -/
def Fault.codes : Fault → List ErrorCode
  | .invariant code _ => [code]
  | .tree code .. => [code]
  | .document _ => []
  | .plain _ => []
  | .wrapped _ cause => cause.codes
  | .several causes => Fault.codesOfAll causes

/-- Every code inside several faults. -/
def Fault.codesOfAll : List Fault → List ErrorCode
  | [] => []
  | cause :: causes => cause.codes ++ Fault.codesOfAll causes

end

/-- The two codes of a fault of the compiler itself. -/
def ErrorCode.isInternal (code : ErrorCode) : Bool :=
  code = .unresolvedJump || code = .malformedProgram

theorem Violation.code_isInternal (violation : Violation) :
    violation.code.isInternal = violation.isInternal := by
  cases violation <;> rfl

theorem Violation.codes_toFault {violation : Violation} (plain : violation.isInternal = false) :
    ∀ code ∈ violation.toFault.codes, code.isInternal = false := by
  intro code member
  rw [List.mem_singleton.mp member, violation.code_isInternal]
  exact plain

/-- Several violations of a tree have no internal code among them. -/
theorem Fault.codesOfAll_external {violations : List Violation}
    (external : Node.areExternal violations) :
    ∀ code ∈ Fault.codesOfAll (violations.map Violation.toFault), code.isInternal = false := by
  induction violations with
  | nil => exact List.forall_mem_nil _
  | cons violation violations ih =>
    obtain ⟨first, rest⟩ := List.forall_mem_cons.mp external
    rw [List.map_cons, Fault.codesOfAll, List.forall_mem_append]
    exact ⟨Violation.codes_toFault first, ih rest⟩

/-- **The compiler itself is never at fault.** -/
theorem codes_of_compileTree_error {fault : Fault}
    (failed : compileTree config root = .error fault) :
    ∀ code ∈ fault.codes, code.isInternal = false := by
  rcases compileTree_error failed with rfl | refused | ⟨violation, stopped, rfl⟩
  · exact Violation.codes_toFault rfl
  · unfold validationFault? at refused
    split at refused
    · cases refused
    · cases refused
      exact Fault.codesOfAll_external (validate_external root)
  · exact Violation.codes_toFault (generated_error stopped).2

/-! ### Main result -/

/-- The jump targets of generated code belong to one branch each. -/
theorem generated_existsUnique_branch {code : Code} {position : Nat} {number : Int}
    (made : generated config.registry config.returnValues root = .ok code)
    (found : code.arena[position]? = some (.target number)) :
    ∃! index, code.BranchesTo position index := by
  obtain ⟨_, last, result, finished⟩ := generated_ok made
  have member : (position : Int) ∈ code.branchCells := by
    rw [← generated_cells made]
    exact Code.mem_positions.mpr ⟨position, _, rfl, found, rfl⟩
  obtain ⟨index, instruction, there, branches, first⟩ := Code.mem_branchCells.mp member
  refine ⟨index, ⟨instruction, there, branches, first⟩, ?_⟩
  rintro other ⟨branch, also, leaps, same⟩
  exact finished.distinct also leaps there branches (same.trans first.symm)

/-- **Compiled programs are well formed.** Whatever tree is compiled and whatever is asked for, a
compilation does not fail by a jump target or by the verifier, and where it succeeds the program is
well formed; if it is not optimized, each jump target is that of exactly one branch. -/
theorem compileTree_wellFormed (config : CompileConfig) (root : Node) :
    (∀ fault, compileTree config root = .error fault →
      ErrorCode.unresolvedJump ∉ fault.codes ∧ ErrorCode.malformedProgram ∉ fault.codes) ∧
    ∀ code events, compileTree config root = .ok (code, events) →
      code.WellFormed ∧ (config.optimize = false →
        ∀ (position : Nat) (number : Int), code.arena[position]? = some (.target number) →
          ∃! index, code.BranchesTo position index) := by
  refine ⟨fun fault failed => ?_, fun code events compiled => ?_⟩
  · have external := codes_of_compileTree_error failed
    exact ⟨fun member => absurd (external _ member) (by decide),
      fun member => absurd (external _ member) (by decide)⟩
  · obtain ⟨_, original, made, rfl⟩ := compileTree_ok_iff.mp ⟨events, compiled⟩
    obtain ⟨_, last, result, finished⟩ := generated_ok made
    refine ⟨(optimizedCode_finished config.optimize finished).wellFormed, fun plain => ?_⟩
    rw [plain]
    exact fun position number found => generated_existsUnique_branch made found

/-- Two fields joined by `and` compile to a program with a branch, and nothing to compile is a
fault. -/
theorem conjunction_wellFormed :
    (∃ code events, compileTree ⟨.identity, false, false, false⟩
        (.test .and .baseline (.field ⟨some ⟨0, .empty, .empty, .empty⟩, none, false, false⟩)
          (.field ⟨some ⟨1, .empty, .empty, .empty⟩, none, false, false⟩)) = .ok (code, events) ∧
      code.WellFormed ∧ code.arena[1]? = some (.target 3) ∧ ∃! index, code.BranchesTo 1 index) ∧
    ∃ fault, compileTree ⟨.identity, false, false, false⟩ .missing = .error fault ∧
      ErrorCode.unresolvedJump ∉ fault.codes := by
  have joined := compileTree_wellFormed ⟨.identity, false, false, false⟩
    (.test .and .baseline (.field ⟨some ⟨0, .empty, .empty, .empty⟩, none, false, false⟩)
      (.field ⟨some ⟨1, .empty, .empty, .empty⟩, none, false, false⟩))
  have missing := compileTree_wellFormed ⟨.identity, false, false, false⟩ .missing
  exact ⟨⟨_, _, rfl, (joined.2 _ _ rfl).1, rfl, (joined.2 _ _ rfl).2 rfl 1 3 rfl⟩, _, rfl,
    (missing.1 _ rfl).1⟩

end DisplayFilter
