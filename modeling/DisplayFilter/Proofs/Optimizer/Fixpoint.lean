/-
**Optimizing once is enough.**

The branches are improved in one pass, each of them before the branches that it may lead to. After
the pass no branch is left that could be improved: where a branch has been threaded to, nothing is
changed afterwards, since only branches are replaced and no branch is threaded to a branch.

* `Code.Direct`: code whose branches cannot be improved, told without the optimizer.
* `Code.Threaded.direct`: threaded code is direct.
* `Code.Direct.optimize`: direct code is left alone.
* `optimize_direct`: optimizing once is enough, for any code that can be threaded and so for every
  compiled program.
-/

import DisplayFilter.Proofs.Compiler.WellFormed
import DisplayFilter.Proofs.Optimizer.Effect

namespace DisplayFilter

theorem Opcode.eq_or_eq_opposite {opcode other : Opcode} (branches : opcode.isBranch = true)
    (also : other.isBranch = true) : other = opcode ∨ other = opcode.opposite := by
  cases opcode <;> cases branches <;> cases other <;> first | decide | cases also

namespace Code

variable {code current : Code} {index upTo target : Nat} {instruction next : Instruction}

/-! ### Direct code -/

/-- The instructions at two indices read the tree into one register. -/
def ReadAlike (code : Code) (index other : Nat) : Prop :=
  ∃ (before next : Instruction) (register : Int),
    code.instructions[index]? = some before ∧ before.opcode = .readTree ∧
    code.instructions[other]? = some next ∧ next.opcode = .readTree ∧
    code.Has before.second (.register register) ∧ code.Has next.second (.register register)

/-- Code in which no branch leads to the next instruction, and each leads to the end or past it or
to an instruction that is neither a branch nor a repetition of the read just before the branch. -/
def Direct (code : Code) : Prop :=
  ∀ (index : Nat) (branch : Instruction), code.instructions[index]? = some branch →
    branch.opcode.isBranch = true → ∃ target : Nat, code.Has branch.first (.target target) ∧
      target ≠ index + 1 ∧
      (code.instructions.size ≤ target ∨ ∃ next, code.instructions[target]? = some next ∧
        next.opcode.isBranch = false ∧ ¬ (0 < index ∧ code.ReadAlike (index - 1) target))

/-- Reads are repeated exactly if they go to one register. -/
theorem Threadable.repeatsRead_iff (threadable : code.Threadable)
    (found : code.instructions[target]? = some next) :
    code.repeatsRead index next = true ↔ 0 < index ∧ code.ReadAlike (index - 1) target := by
  have register : ∀ {place : Nat} {instruction : Instruction},
      code.instructions[place]? = some instruction → instruction.opcode = .readTree →
      code.Has instruction.second (.register (code.operand instruction.second).number) := by
    intro place instruction there reads
    obtain ⟨position, number, second, held⟩ := threadable.reads there reads
    have has : code.Has instruction.second (.register number) := ⟨position, second, held⟩
    rw [has.operand_eq]
    exact has
  constructor
  · intro repeats
    obtain ⟨again, positive, before, there, reads⟩ := reads_of_repeatsRead repeats
    refine ⟨positive, before, next, _, there, reads, found, again, register there reads, ?_⟩
    have same : (code.operand before.second).number = (code.operand next.second).number := by
      simpa [repeatsRead, again, positive, there, reads] using repeats
    rw [same]
    exact register found again
  · rintro ⟨positive, before, other, number, there, reads, also, again, first, second⟩
    cases found.symm.trans also
    simp [repeatsRead, again, positive, there, reads, first.operand_eq, second.operand_eq]

/-- **Threaded code is direct.** -/
theorem Threaded.direct (threaded : code.Threaded code.instructions.size current)
    (threadable : code.Threadable) : current.Direct := by
  intro index instruction found branches
  have early : index < code.instructions.size := by
    rw [← threaded.size]
    exact (Array.getElem?_eq_some_iff.mp found).1
  obtain ⟨before, leaps⟩ := threaded.branch found early branches
  have away := (leaps_iff.mp leaps).2
  have ahead := threadable.lt_aim before branches
  have further : code.aim instruction ≤ code.thread index instruction :=
    threadable.aim_le_thread branches
  obtain ⟨target, threads⟩ := Int.eq_ofNat_of_zero_le (by omega : 0 ≤ code.thread index instruction)
  have leads := (threaded.leaps_outcome threadable before leaps).2
  rw [threads] at leads
  refine ⟨target, leads, by omega, ?_⟩
  by_cases inside : target < code.instructions.size
  · right
    have reached : code.instructions[(code.thread index instruction).toNat]? =
        some code.instructions[target] := by
      rw [threads, Int.toNat_natCast]
      exact Array.getElem?_eq_getElem inside
    obtain ⟨inverted, fresh, different⟩ := threadable.thread_stops before branches reached
    rw [threads, Int.toNat_natCast] at reached
    have falls : code.instructions[target].opcode.isBranch = false :=
      Bool.eq_false_iff.mpr fun also =>
        (Opcode.eq_or_eq_opposite branches also).elim different inverted
    have stays := threaded.instruction_of_plain reached falls
    refine ⟨_, stays, falls, fun alike => ?_⟩
    have repeats := ((threaded.threadable threadable).repeatsRead_iff stays).mpr alike
    rw [threaded.repeatsRead_eq threadable reached, fresh] at repeats
    cases repeats
  · left
    rw [threaded.size]
    exact Nat.not_lt.mp inside

/-! ### Code that is left alone -/

/-- A target is not advanced if the branch stops there. -/
theorem advance_of_stops {branch : Opcode} {target : Int}
    (stops : ∀ next, code.instructions[target.toNat]? = some next → code.Stops index branch next)
    (fuel : Nat) : code.advance index branch fuel target = target := by
  cases fuel with
  | zero => rfl
  | succ fuel =>
    unfold advance
    cases found : code.instructions[target.toNat]? with
    | none => simp
    | some next =>
      obtain ⟨inverted, fresh, different⟩ := stops next found
      simp [inverted, fresh, different]

/-- Nothing is done to a branch of direct code. -/
theorem Direct.optimizeAt (direct : code.Direct) (threadable : code.Threadable) (index : Nat) :
    code.optimizeAt index = (code, none) := by
  unfold Code.optimizeAt
  cases found : code.instructions[index]? with
  | none => rfl
  | some instruction =>
    by_cases branches : instruction.opcode.isBranch = true
    · obtain ⟨target, leads, away, rest⟩ := direct index instruction found branches
      have stays : ∀ fuel, code.advance index instruction.opcode fuel target = target := by
        refine advance_of_stops fun next there => ?_
        rw [Int.toNat_natCast] at there
        rcases rest with outside | ⟨_, here, falls, fresh⟩
        · rw [Array.getElem?_eq_none outside] at there
          cases there
        · cases here.symm.trans there
          refine ⟨fun inverted => ?_, Bool.eq_false_iff.mpr fun repeats =>
            fresh ((threadable.repeatsRead_iff there).mp repeats), fun same => ?_⟩
          · rw [inverted, Opcode.isBranch_opposite branches] at falls
            cases falls
          · rw [same, branches] at falls
            cases falls
      have number : (code.operand instruction.first).number = target :=
        congrArg Operand.number leads.operand_eq
      have elsewhere : (target : Int) ≠ index + 1 := fun next => away (by omega)
      simp only [branches, number, stays, if_true, if_neg elsewhere]
    · simp [branches]

/-- **Direct code is left alone.** -/
theorem Direct.optimize (direct : code.Direct) (threadable : code.Threadable) :
    code.optimize = (code, []) := by
  have run : ∀ indices : List Nat, code.optimizeFrom indices = (code, []) := by
    intro indices
    induction indices with
    | nil => rfl
    | cons index indices ih => simp [optimizeFrom, direct.optimizeAt threadable, ih]
  exact run _

end Code

/-! ### Main result -/

/-- **Optimizing once is enough.** After the pass no branch can be improved, and a second pass makes
no change and leaves the code as it is. This holds of any code that can be threaded; every compiled
program can be, and what was compiled with optimization is left alone by another pass. -/
theorem optimize_direct :
    (∀ code : Code, code.Threadable →
      code.optimize.1.Direct ∧ code.optimize.1.optimize = (code.optimize.1, [])) ∧
    ∀ (config : CompileConfig) (root : Node) (code : Code) (events : List CompileEvent),
      compileTree config root = .ok (code, events) →
      code.Threadable ∧ (config.optimize = true → code.Direct ∧ code.optimize = (code, [])) := by
  have enough : ∀ code : Code, code.Threadable →
      code.optimize.1.Direct ∧ code.optimize.1.optimize = (code.optimize.1, []) := by
    intro code threadable
    have direct := threadable.optimize.direct threadable
    exact ⟨direct, direct.optimize (threadable.optimize.threadable threadable)⟩
  refine ⟨enough, fun config root code events compiled => ?_⟩
  obtain ⟨_, original, made, rfl⟩ := compileTree_ok_iff.mp ⟨events, compiled⟩
  obtain ⟨_, last, result, finished⟩ := generated_ok made
  refine ⟨(optimizedCode_finished config.optimize finished).threadable, fun wanted => ?_⟩
  rw [wanted]
  exact enough original finished.threadable

/-- A disjunction whose sides compare one field. -/
def comparedTwice : Node :=
  let field (id : Nat) : Node :=
    .field ⟨some ⟨id, .empty, .empty, .empty⟩, none, false, false⟩
  .test .or .baseline (.test .anyEq .baseline (field 0) (field 1))
    (.test .anyEq .baseline (field 0) (field 2))

/-- One pass improves the program with a detour, and another one leaves it alone; the optimized
program of a disjunction is left alone as well. -/
theorem detour_direct :
    (Code.detour.Threadable ∧ Code.detour.optimize.2 ≠ [] ∧ Code.detour.optimize.1.Direct ∧
      Code.detour.optimize.1.optimize = (Code.detour.optimize.1, [])) ∧
    ∃ code events, compileTree ⟨.identity, true, false, false⟩ comparedTwice = .ok (code, events) ∧
      code.Direct ∧ code.optimize = (code, []) := by
  have whole := optimize_direct
  have improved : Code.detour.optimize.2 ≠ [] := by decide
  have compiles : ∃ compiled, compileTree ⟨.identity, true, false, false⟩ comparedTwice =
      .ok compiled := compiles_iff.mpr ⟨.inr rfl, rfl⟩
  obtain ⟨⟨code, events⟩, compiled⟩ := compiles
  exact ⟨⟨Code.detour_threadable, improved, whole.1 _ Code.detour_threadable⟩, code, events,
    compiled, (whole.2 _ _ _ _ compiled).2 rfl⟩

end DisplayFilter
