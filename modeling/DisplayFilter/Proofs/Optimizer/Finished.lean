/-
**Optimized code is finished code.**

The branches of finished code can be threaded, and threading them leads neither backwards nor past
the instruction that returns.

* `Code.Finished.halts_iff`, `Code.Finished.read_found`: its returning instruction and its reads.
* `Code.Finished.threadable`: finished code can be threaded.
* `Code.Finished.thread_le`: no branch is threaded past the instruction that returns.
* `Code.Finished.optimize`: optimized code is finished.
-/

import DisplayFilter.Proofs.Generation.Finished
import DisplayFilter.Proofs.Optimizer.Threading

namespace DisplayFilter.Code

variable {code current : Code} {index last : Nat} {instruction : Instruction} {result : Handle}

/-! ### Operands of threaded code -/

namespace Threaded

variable {upTo : Nat}

theorem loaded (threaded : code.Threaded upTo current) : current.loaded = code.loaded :=
  congrArg (·.loaded) threaded.rest

theorem registers (threaded : code.Threaded upTo current) : current.registers = code.registers :=
  congrArg (·.registers) threaded.rest

/-- An operand is as it was, or it is the target of a branch that was threaded. -/
theorem arena_cases (threaded : code.Threaded upTo current) (position : Nat) :
    current.arena[position]? = code.arena[position]? ∨
      ∃ (index : Nat) (instruction : Instruction),
        code.instructions[index]? = some instruction ∧ code.leaps index instruction = true ∧
        instruction.first = position ∧
        current.arena[position]? = some (.target (code.thread index instruction)) := by
  by_cases cell : ∃ (index : Nat) (instruction : Instruction), index < upTo ∧
      code.instructions[index]? = some instruction ∧ code.leaps index instruction = true ∧
      instruction.first = position
  · obtain ⟨index, instruction, early, found, leaps, first⟩ := cell
    exact .inr ⟨index, instruction, found, leaps, first, threaded.moved early found leaps first⟩
  · exact .inl (threaded.kept fun index instruction early found leaps first =>
      cell ⟨index, instruction, early, found, leaps, first⟩)

/-- Threading changes only the numbers of jump targets. -/
theorem keeps (threaded : code.Threaded upTo current) (threadable : code.Threadable) :
    code.Keeps current := by
  refine ⟨fun found plain => threaded.operand_of_value threadable found plain,
    fun {position number} found => ?_, fun {field raw register} found => ?_⟩
  · rcases threaded.arena_cases position with same | ⟨index, branch, _, _, _, moved⟩
    · exact ⟨number, same.trans found⟩
    · exact ⟨code.thread index branch, moved⟩
  · unfold cachedRegister?
    rw [threaded.loaded]
    exact found

/-- A branch of threaded code was a branch that leaps, and goes to where it is threaded. -/
theorem branch (threaded : code.Threaded upTo current)
    (found : current.instructions[index]? = some instruction) (early : index < upTo)
    (branches : instruction.opcode.isBranch = true) :
    code.instructions[index]? = some instruction ∧ code.leaps index instruction = true := by
  rw [threaded.instruction] at found
  obtain ⟨original, there, same⟩ := Option.map_eq_some_iff.mp found
  split at same
  · cases same
    cases branches
  · rename_i leaping
    cases same
    refine ⟨there, leaps_iff.mpr ⟨branches, fun next => ?_⟩⟩
    exact leaping ⟨early, fallsThrough_iff.mpr ⟨branches, next⟩⟩

/-- An instruction that is no branch stays. -/
theorem instruction_of_plain (threaded : code.Threaded upTo current)
    (found : code.instructions[index]? = some instruction)
    (plain : instruction.opcode.isBranch = false) :
    current.instructions[index]? = some instruction := by
  have stays : ¬ (index < upTo ∧ code.fallsThrough index instruction = true) := by
    rintro ⟨_, falls⟩
    rw [(fallsThrough_iff.mp falls).1] at plain
    cases plain
  rw [threaded.instruction, found, Option.map_some, if_neg stays]

end Threaded

/-! ### Finished code -/

namespace Finished

/-- An instruction of finished code belongs to the body or is the last. -/
theorem cases_found (finished : code.Finished last result)
    (found : code.instructions[index]? = some instruction) :
    index < last ∧ code.Fits index instruction ∨
      index = last ∧ instruction = .of last .halt [result] := by
  have inside := (Array.getElem?_eq_some_iff.mp found).1
  rw [finished.size] at inside
  rcases Nat.lt_or_eq_of_le (Nat.le_of_lt_succ inside) with early | rfl
  · exact .inl ⟨early, finished.body early found⟩
  · exact .inr ⟨rfl, Option.some.inj (found.symm.trans finished.final)⟩

/-- Only the last instruction of finished code returns. -/
theorem halts_iff (finished : code.Finished last result)
    (found : code.instructions[index]? = some instruction) :
    instruction.opcode = .halt ↔ index = last := by
  rcases finished.cases_found found with ⟨early, fits⟩ | ⟨rfl, rfl⟩
  · refine iff_of_false (fun halts => ?_) (Nat.ne_of_lt early)
    cases fits with
    | plain opcode operands free count values =>
      cases (halts : opcode = .halt)
      cases free
    | read field raw position register operand cached => cases halts
    | branch opcode target branches cell =>
      cases (halts : opcode = .halt)
      cases branches
  · exact iff_of_true rfl rfl

/-- A plain read of finished code reads a field into the register of the field. -/
theorem read_found (finished : code.Finished last result)
    (found : code.instructions[index]? = some instruction)
    (reads : instruction.opcode = .readTree) :
    ∃ (field : Field) (raw : Bool) (position register : Nat) (number : Int),
      instruction = .of index .readTree [(position : Int), (register : Int)] ∧
      code.arena[position]? = some (.field field raw) ∧
      code.cachedRegister? field raw = some (register : Int) ∧
      code.arena[register]? = some (.register number) := by
  rcases finished.cases_found found with ⟨_, fits⟩ | ⟨_, rfl⟩
  · cases fits with
    | plain opcode operands free count values =>
      cases (reads : opcode = .readTree)
      cases free
    | read field raw position register operand cached =>
      obtain ⟨place, number, rfl, held⟩ := finished.numbered.caches field raw register cached
      exact ⟨field, raw, position, place, number, rfl, operand, cached, held⟩
    | branch opcode target branches cell =>
      cases (reads : opcode = .readTree)
      cases branches
  · cases reads

/-- **Finished code can be threaded.** -/
theorem threadable (finished : code.Finished last result) : code.Threadable := by
  refine ⟨fun found branches => ?_, finished.distinct, fun found reads => ?_⟩
  · obtain ⟨position, number, first, cell, forward, _⟩ := finished.forward found branches
    exact ⟨position, number, first, cell, forward⟩
  · obtain ⟨_, _, _, register, number, rfl, _, _, held⟩ := finished.read_found found reads
    exact ⟨register, number, rfl, held⟩

/-- The instruction that returns is not passed. -/
theorem passes_le (finished : code.Finished last result) {branch : Opcode} {target next : Int}
    (branches : branch.isBranch = true) (passes : code.Passes index branch target next)
    (bound : target ≤ last) : next ≤ last := by
  have inner : ∀ (target : Nat) (next : Instruction), code.instructions[target]? = some next →
      next.opcode ≠ .halt → (target : Int) ≤ last → (target : Int) + 1 ≤ last := by
    intro target next found runs bound
    rcases finished.cases_found found with ⟨early, _⟩ | ⟨_, rfl⟩
    · omega
    · exact absurd rfl runs
  cases passes with
  | opposite target next found inverted =>
    refine inner target next found (fun halts => ?_) bound
    rw [halts] at inverted
    cases branch <;> cases inverted
  | repeated target next found repeats =>
    refine inner target next found (fun halts => ?_) bound
    simp [repeatsRead, halts] at repeats
  | same target next found equal =>
    obtain ⟨position, number, first, cell, _, inside⟩ := finished.forward found (equal ▸ branches)
    rw [aim_eq first cell]
    exact inside

/-- **No branch is threaded past the instruction that returns.** -/
theorem thread_le (finished : code.Finished last result)
    (found : code.instructions[index]? = some instruction)
    (branches : instruction.opcode.isBranch = true) : code.thread index instruction ≤ last := by
  refine thread_induction ?_ fun target next passes => finished.passes_le branches passes
  obtain ⟨position, number, first, cell, _, inside⟩ := finished.forward found branches
  rw [aim_eq first cell]
  exact inside

/-- **Optimized code is finished.** -/
theorem optimize (finished : code.Finished last result) : code.optimize.1.Finished last result := by
  have threadable := finished.threadable
  have threaded := threadable.optimize
  have kept := threaded.keeps threadable
  have inside : ∀ {index : Nat} {instruction : Instruction},
      code.optimize.1.instructions[index]? = some instruction →
      index < code.instructions.size := by
    intro index instruction found
    rw [← threaded.size]
    exact (Array.getElem?_eq_some_iff.mp found).1
  refine ⟨threaded.size.trans finished.size, threaded.instruction_of_plain finished.final rfl,
    fun {index instruction} early found => ?_, finished.result.imp_right kept.holdsValue,
    fun {index instruction} found branches => ?_, fun {position number} found => ?_,
    fun {index other instruction branch} found branches there also same => ?_,
    finished.numbered.congr (fun position number => ⟨fun found => ?_, fun found => ?_⟩)
      threaded.registers threaded.loaded⟩
  · rw [threaded.instruction] at found
    obtain ⟨original, there, same⟩ := Option.map_eq_some_iff.mp found
    split at same
    · cases same
      exact .plain .noOp [] rfl rfl (List.forall_mem_nil _)
    · cases same
      exact (finished.body early there).keep kept
  · obtain ⟨original, leaps⟩ := threaded.branch found (inside found) branches
    obtain ⟨position, _, first, _⟩ := finished.forward original branches
    exact ⟨position, code.thread index instruction, first,
      threaded.moved (inside found) original leaps first, threadable.lt_thread original branches,
      finished.thread_le original branches⟩
  · rcases threaded.arena_cases position with same | ⟨index, branch, there, leaps, first, moved⟩
    · exact finished.targets (same.symm.trans found)
    · have branches := (leaps_iff.mp leaps).1
      cases (Option.some.inj (moved.symm.trans found) :)
      have ahead := threadable.lt_thread there branches
      exact ⟨by omega, finished.thread_le there branches⟩
  · exact finished.distinct (threaded.branch found (inside found) branches).1 branches
      (threaded.branch there (inside there) also).1 also same
  · rcases threaded.arena_cases position with same | ⟨index, branch, _, _, _, moved⟩
    · exact same.symm.trans found
    · rw [found] at moved
      cases moved
  · exact kept.operand found rfl

end Finished

end DisplayFilter.Code
