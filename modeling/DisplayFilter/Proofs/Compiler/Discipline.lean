/-
**The argument stack and the set of compiled programs.**

Threading a branch leads it past instructions that only compute and along other branches, so that it
still leads where the plan of the tree lets it. Compiled programs follow the plan of their tree,
optimized or not, and keep its discipline along every path.

* `Code.Follows.threaded`: threaded code follows the plan.
* `Code.KeepsDiscipline`, `compileTree_keepsDiscipline`: the paths of compiled programs.
-/

import DisplayFilter.Proofs.Compiler.WellFormed
import DisplayFilter.Proofs.Generation.Layout
import DisplayFilter.Proofs.Generation.Ownership

namespace DisplayFilter

namespace Code

variable {code current : Code} {plan : List Purpose}

/-- Threading changes no result. -/
theorem Threaded.keepsResults {upTo bound : Nat} (threaded : code.Threaded upTo current)
    (threadable : code.Threadable) : code.KeepsResults current bound := by
  refine ⟨threaded.keeps threadable, (threaded.writesTo_iff threadable).mpr,
    fun _ found result => threaded.original found ?_⟩
  rintro idle
  rw [idle] at result
  exact result rfl

/-- **Threaded code follows the plan.** -/
theorem Follows.threaded (follows : code.Follows plan)
    (threaded : code.Threaded code.instructions.size current) (threadable : code.Threadable) :
    current.Follows plan := by
  refine ⟨⟨by rw [follows.length, threaded.size], fun {index instruction purpose} found label => ?_⟩,
    fun {index target} leads => ?_⟩
  · rw [threaded.instruction] at found
    obtain ⟨before, there, same⟩ := Option.map_eq_some_iff.mp found
    have serves := follows.serves there label
    split at same
    · rename_i falls
      obtain rfl := serves.eq_plain (Opcode.duty_of_isBranch (fallsThrough_iff.mp falls.2).1)
      rw [← same]
      rfl
    · rw [← same]
      exact serves.keep (threaded.keepsResults threadable)
  · obtain ⟨instruction, found, branches, _⟩ := threaded.leads leads
    refine threaded.leads_induction threadable leads found
      (motive := fun target => (levelAt plan index).Opens (levelAt plan target))
      (fun target leads => follows.opens leads) ?_ ?_ ?_
    · intro target next opens there inverted
      rwa [follows.levelAt_behind there
        (Opcode.duty_of_isBranch (inverted ▸ Opcode.isBranch_opposite branches))]
    · intro target next opens there repeats
      rwa [follows.levelAt_behind there (by rw [(reads_of_repeatsRead repeats).1]; rfl)]
    · intro target next further opens there same leads
      exact opens.trans (follows.opens leads)

/-- How a program uses the argument stack and the set, where the plan says what its instructions are
for. -/
structure KeepsDiscipline (code : Code) (plan : List Purpose) : Prop where
  /-- Each instruction does what it is for; what is pushed is the value of the argument, and what is
  added are the values of the element. -/
  laid : code.LaidOut plan
  /-- What is more than computing is the purpose of one instruction only. -/
  single : ∀ (index other : Nat) (purpose : Purpose), plan[index]? = some purpose →
    plan[other]? = some purpose → purpose ≠ .plain → index = other
  stack : code.StackDiscipline plan
  set : code.SetDiscipline plan

end Code

/-- **Compiled programs keep the discipline of their tree.** Whatever tree is compiled, with or
without optimization, and whichever way its branches go: the argument stack has one depth at each
instruction, a call finds the values of its own arguments on top of it and the next instruction
removes them, nothing is left on it at the end; and each test that elements are added for is decided
on elements of its own and its set is cleared before any other test comes to the set. -/
theorem compileTree_keepsDiscipline (config : CompileConfig) (root : Node) (code : Code)
    (events : List CompileEvent) (compiled : compileTree config root = .ok (code, events)) :
    code.KeepsDiscipline (root.plan config.returnValues) := by
  obtain ⟨_, original, made, rfl⟩ := compileTree_ok_iff.mp ⟨events, compiled⟩
  obtain ⟨_, last, result, finished⟩ := generated_ok made
  have takes := root.takes_plan config.returnValues
  have distinct := root.distinct_plan config.returnValues
  -- Both the plain and the optimized program are finished and follow the plan.
  obtain ⟨ends, follows⟩ : (optimizedCode config.optimize original).1.Finished last result ∧
      (optimizedCode config.optimize original).1.Follows (root.plan config.returnValues) := by
    unfold optimizedCode
    cases config.optimize with
    | false => exact ⟨finished, generated_follows made⟩
    | true =>
      have threadable := finished.threadable
      exact ⟨finished.optimize, (generated_follows made).threaded threadable.optimize threadable⟩
  exact ⟨follows.toLaidOut, fun _ _ _ here there => distinct.index_eq here there,
    follows.stackDiscipline takes ends, follows.setDiscipline takes ends⟩

/-- The result of a call with two arguments, one of them a call itself, tested for membership in a set
of two fields. -/
def calledMember : Node :=
  let field (id : Nat) : Node := .field ⟨some ⟨id, .empty, .empty, .empty⟩, none, false, false⟩
  .test .member .baseline
    (.call (some ⟨"max", 1, 0⟩) [field 0, .call (some ⟨"abs", 1, 1⟩) [field 1]])
    (.set [.single (field 2), .between (field 0) (field 3)])

/-- The program of calls within a membership test keeps the discipline. -/
theorem calledMember_keepsDiscipline :
    ∃ code events, compileTree ⟨.identity, true, false, false⟩ calledMember = .ok (code, events) ∧
      code.KeepsDiscipline (calledMember.plan false) := by
  obtain ⟨⟨code, events⟩, compiled⟩ : ∃ compiled,
      compileTree ⟨.identity, true, false, false⟩ calledMember = .ok compiled :=
    compiles_iff.mpr ⟨.inr rfl, rfl⟩
  exact ⟨code, events, compiled, compileTree_keepsDiscipline _ _ code events compiled⟩

end DisplayFilter
