/-
**What the optimizer changes.**

A branch is looked at in code whose earlier branches are improved already. That code can be threaded
as well, so the rounds in which a target is advanced come to an end: a round leads further on, and
there is nothing behind the last instruction. What is done to a branch is the same as if it were the
only one, and is told by the code before the pass: a branch to the next instruction becomes a no-op,
which loses nothing that the verifier looks at, and any other branch keeps its place and its jump
target, whose number grows and stays within the program if the verifier accepted the program.

* `Code.Threaded.threadable`: threaded code can be threaded.
* `Code.Threadable.arrives`: the rounds come to an end.
* `Code.Threadable.optimize_snd`: the changes, told by the code before them.
* `Code.Threaded.branchOutcome`: what becomes of a branch.
* `Code.Threaded.verifyFault?`: what the verifier accepted is still accepted.
* `Code.optimize_improves`: all of this together.
-/

import DisplayFilter.Proofs.Optimizer.Flow
import DisplayFilter.Proofs.Program.Rules

namespace DisplayFilter.Code

open Relation (ReflTransGen)

variable {code current : Code} {index upTo : Nat} {instruction : Instruction} {branch : Opcode}

/-! ### Threading again -/

/-- **Threaded code can be threaded.** -/
theorem Threaded.threadable (threaded : code.Threaded upTo current) (threadable : code.Threadable) :
    current.Threadable := by
  have original : ∀ {index : Nat} {instruction : Instruction},
      current.instructions[index]? = some instruction → instruction.opcode.isBranch = true →
      code.instructions[index]? = some instruction := by
    intro index instruction found branches
    refine threaded.original found fun idle => ?_
    rw [idle] at branches
    cases branches
  refine ⟨fun found branches => ?_, fun found branches there also same => ?_, fun found reads => ?_⟩
  · have before := original found branches
    obtain ⟨position, number, first, cell, ahead⟩ := threadable.forward before branches
    rcases threaded.arena_cases position with same | ⟨other, branch, there, leaps, cellOf, moved⟩
    · exact ⟨position, number, first, same.trans cell, ahead⟩
    · -- The jump target was moved, so it is that of the branch itself.
      have also := (leaps_iff.mp leaps).1
      cases threadable.distinct before branches there also (first.trans cellOf.symm)
      exact ⟨position, _, first, moved, threadable.lt_thread there also⟩
  · exact threadable.distinct (original found branches) branches (original there also) also same
  · have before := threaded.original found (by rw [reads]; decide)
    obtain ⟨position, number, second, register⟩ := threadable.reads before reads
    exact ⟨position, number, second, threaded.operand_of_value threadable register rfl⟩

/-! ### The end of the rounds -/

/-- A branch does not stop at what it passes. -/
theorem Passes.not_stops {target next : Int} (passes : code.Passes index branch target next) :
    ∃ there, code.instructions[target.toNat]? = some there ∧ ¬ code.Stops index branch there := by
  cases passes with
  | opposite target there found inverted =>
    exact ⟨there, by rwa [Int.toNat_natCast], fun stops => stops.1 inverted⟩
  | repeated target there found repeats =>
    refine ⟨there, by rwa [Int.toNat_natCast], fun stops => ?_⟩
    rw [stops.2.1] at repeats
    cases repeats
  | same target there found equal =>
    exact ⟨there, by rwa [Int.toNat_natCast], fun stops => stops.2.2 equal⟩

/-- There is no endless way of passing: each round leads further on, and there is nothing to pass
behind the last instruction. -/
theorem Threadable.acc_passes (threadable : code.Threadable) (branches : branch.isBranch = true)
    (target : Int) :
    Acc (fun next target => code.Passes index branch target next) target := by
  refine (Subrelation.wf (fun {next target} passes => ?_)
    (measure fun target : Int => (code.instructions.size - target).toNat).wf).apply target
  have further := threadable.lt_of_passes branches passes
  obtain ⟨there, found, _⟩ := passes.not_stops
  have inside := (Array.getElem?_eq_some_iff.mp found).1
  show ((code.instructions.size : Int) - next).toNat < (code.instructions.size - target).toNat
  omega

/-- The rounds in which the target of a branch is advanced come to an end, and the branch is
threaded to where they end. -/
structure Arrives (code : Code) (index : Nat) (branch : Instruction) : Prop where
  finite : Acc (fun next target => code.Passes index branch.opcode target next) (code.aim branch)
  reached : ReflTransGen (code.Passes index branch.opcode) (code.aim branch)
    (code.thread index branch)
  last : ∀ next, ¬ code.Passes index branch.opcode (code.thread index branch) next

theorem Threadable.arrives (threadable : code.Threadable)
    (found : code.instructions[index]? = some instruction)
    (branches : instruction.opcode.isBranch = true) : code.Arrives index instruction := by
  refine ⟨threadable.acc_passes branches _, code.advance_passes _ _ _ _, fun next passes => ?_⟩
  obtain ⟨there, reached, goesOn⟩ := passes.not_stops
  exact goesOn (threadable.thread_stops found branches reached)

/-! ### The list of changes -/

/-- What is done to the branch at an index. -/
def change? (code : Code) (index : Nat) : Option BranchChange :=
  match code.instructions[index]? with
  | none => none
  | some instruction =>
    if code.fallsThrough index instruction then some (.disabled index)
    else if code.leaps index instruction ∧ code.thread index instruction ≠ code.aim instruction then
      some (.advanced index (code.aim instruction) (code.thread index instruction))
    else none

/-- What is done to a branch is told by the code before all changes. -/
theorem Threaded.optimizeAt_snd (threaded : code.Threaded upTo current)
    (threadable : code.Threadable) : (current.optimizeAt upTo).2 = code.change? upTo := by
  unfold change?
  cases found : code.instructions[upTo]? with
  | none =>
    rw [threaded.optimizeAt_eq_self fun instruction there => by cases found.symm.trans there]
  | some instruction =>
    by_cases branches : instruction.opcode.isBranch = true
    · rw [threaded.optimizeAt_eq threadable found branches]
      by_cases next : code.aim instruction = upTo + 1
      · simp [fallsThrough, branches, next]
      · by_cases stays : code.thread upTo instruction = code.aim instruction <;>
          simp [fallsThrough, leaps, branches, next, stays]
    · rw [threaded.optimizeAt_eq_self fun other there => by
        cases found.symm.trans there
        exact Bool.eq_false_iff.mpr branches]
      simp [fallsThrough, leaps, branches]

/-- What is done to several branches in order. -/
theorem Threaded.optimizeFrom_snd (threaded : code.Threaded upTo current)
    (threadable : code.Threadable) (count : Nat) :
    (current.optimizeFrom (List.range' upTo count)).2 =
      (List.range' upTo count).filterMap code.change? := by
  induction count generalizing upTo current with
  | zero => rfl
  | succ count ih =>
    rw [List.range'_succ]
    unfold Code.optimizeFrom
    have rest := ih (threaded.optimizeAt threadable)
    simp only [rest, threaded.optimizeAt_snd threadable, List.filterMap_cons]
    cases code.change? upTo <;> rfl

/-- **All changes are told by the code before them.** -/
theorem Threadable.optimize_snd (threadable : code.Threadable) :
    code.optimize.2 = (List.range code.instructions.size).filterMap code.change? := by
  unfold Code.optimize
  rw [List.range_eq_range']
  exact code.threaded_zero.optimizeFrom_snd threadable _

/-! ### What becomes of branches and operands -/

/-- What becomes of the branch at an index: a no-op without operands if it went to the next
instruction; otherwise it stays and its jump target leads as far as before or further. -/
inductive BranchOutcome (before after : Code) (index : Nat) (branch : Instruction) : Prop
  | disabled (next : before.aim branch = index + 1)
      (idle : after.instructions[index]? = some ⟨index, .noOp, noOperand, noOperand, noOperand⟩)
  | kept (away : before.aim branch ≠ index + 1)
      (stays : after.instructions[index]? = some branch) (old new : Int)
      (here : before.Has branch.first (.target old)) (there : after.Has branch.first (.target new))
      (further : old ≤ new)

/-- Whether the branch at an index was replaced or got another target. -/
def rewritten (before after : Code) (index : Nat) : Bool :=
  match before.instructions[index]? with
  | none => false
  | some branch =>
    branch.opcode.isBranch &&
      (after.instructions[index]? ≠ some branch || after.aim branch ≠ before.aim branch)

namespace Threaded

section Whole

variable (threaded : code.Threaded code.instructions.size current) (threadable : code.Threadable)
include threaded

/-- A branch that falls through is replaced. -/
theorem fallsThrough_outcome (found : code.instructions[index]? = some instruction)
    (falls : code.fallsThrough index instruction = true) :
    current.instructions[index]? = some (.of index .noOp []) := by
  have early := (Array.getElem?_eq_some_iff.mp found).1
  rw [threaded.instruction, found, Option.map_some, if_pos ⟨early, falls⟩]

include threadable

/-- A branch that leaps stays and leads to where it is threaded. -/
theorem leaps_outcome (found : code.instructions[index]? = some instruction)
    (leaps : code.leaps index instruction = true) :
    current.instructions[index]? = some instruction ∧
      current.Has instruction.first (.target (code.thread index instruction)) := by
  obtain ⟨branches, away⟩ := leaps_iff.mp leaps
  obtain ⟨position, number, first, _⟩ := threadable.forward found branches
  have early := (Array.getElem?_eq_some_iff.mp found).1
  refine ⟨?_, position, first, threaded.moved early found leaps first⟩
  rw [threaded.instruction, found, Option.map_some,
    if_neg fun both => away (fallsThrough_iff.mp both.2).2]

theorem branchOutcome (found : code.instructions[index]? = some instruction)
    (branches : instruction.opcode.isBranch = true) :
    code.BranchOutcome current index instruction := by
  by_cases next : code.aim instruction = index + 1
  · have falls := fallsThrough_iff.mpr ⟨branches, next⟩
    exact .disabled next (threaded.fallsThrough_outcome found falls)
  · obtain ⟨stays, there⟩ :=
      threaded.leaps_outcome threadable found (leaps_iff.mpr ⟨branches, next⟩)
    obtain ⟨position, number, first, cell, _⟩ := threadable.forward found branches
    refine .kept next stays number _ ⟨position, first, cell⟩ there ?_
    rw [← aim_eq first cell]
    exact threadable.aim_le_thread branches

/-- **Changes are made to exactly the branches that are replaced or get another target.** -/
theorem isSome_change? : (code.change? index).isSome = code.rewritten current index := by
  unfold change? rewritten
  cases found : code.instructions[index]? with
  | none => rfl
  | some instruction =>
    by_cases branches : instruction.opcode.isBranch = true
    · by_cases next : code.aim instruction = index + 1
      · have falls := fallsThrough_iff.mpr ⟨branches, next⟩
        have replaced : Instruction.of index .noOp [] ≠ instruction := by
          rintro rfl
          cases branches
        simp [threaded.fallsThrough_outcome found falls, falls, branches, replaced]
      · have leaps := leaps_iff.mpr ⟨branches, next⟩
        obtain ⟨stays, there⟩ := threaded.leaps_outcome threadable found leaps
        have aims : current.aim instruction = code.thread index instruction :=
          congrArg Operand.number there.operand_eq
        by_cases same : code.thread index instruction = code.aim instruction <;>
          simp [fallsThrough, branches, next, leaps, stays, aims, same]
    · simp [fallsThrough, leaps, branches]

/-- The arena keeps its size. -/
theorem arena_size : current.arena.size = code.arena.size := by
  have alike : ∀ position : Nat,
      current.arena[position]? = none ↔ code.arena[position]? = none := by
    intro position
    rcases threaded.arena_cases position with same | ⟨index, branch, found, leaps, first, moved⟩
    · rw [same]
    · obtain ⟨place, number, cellOf, cell, _⟩ := threadable.forward found (leaps_iff.mp leaps).1
      rw [first] at cellOf
      rw [moved, Int.ofNat.inj cellOf, cell]
      exact iff_of_false nofun nofun
  refine Nat.le_antisymm ?_ ?_
  · exact Array.getElem?_eq_none_iff.mp ((alike _).mpr (Array.getElem?_eq_none (Nat.le_refl _)))
  · exact Array.getElem?_eq_none_iff.mp ((alike _).mp (Array.getElem?_eq_none (Nat.le_refl _)))

end Whole

end Threaded

/-! ### The verifier -/

/-- A no-op keeps the rules wherever it stands. -/
theorem keepsRules_noOp {arena : Array Operand} {registers : Int} {size : Nat} :
    (Instruction.of index .noOp []).KeepsRules arena registers size index := by
  have empty : ∀ (slot : Nat) (handle : Handle),
      (Instruction.of index .noOp []).slots[slot]? = some handle → handle = noOperand := by
    intro slot handle held
    rcases Instruction.slots_of held with unused | used
    · exact unused
    · cases used
  refine ⟨rfl, rfl, fun slot handle held => .inl (empty slot handle held),
    fun slot handle held _ => empty slot handle held, fun slot position number held => ?_,
    fun slot position number held => ?_, fun branches => by cases branches⟩
  · cases (empty slot position held : Int.ofNat position = Int.negSucc 0)
  · cases (empty slot position held : Int.ofNat position = Int.negSucc 0)

/-- If no branch goes past the end of the program, none is threaded past it. -/
theorem thread_le_size
    (inside : ∀ (index : Nat) (instruction : Instruction),
      code.instructions[index]? = some instruction → instruction.opcode.isBranch = true →
      code.aim instruction ≤ code.instructions.size)
    (found : code.instructions[index]? = some instruction)
    (branches : instruction.opcode.isBranch = true) :
    code.thread index instruction ≤ code.instructions.size := by
  refine thread_induction (motive := (· ≤ (code.instructions.size : Int)))
    (inside index instruction found branches) fun _ _ passes _ => ?_
  cases passes with
  | opposite target next here inverted =>
    have early := (Array.getElem?_eq_some_iff.mp here).1
    omega
  | repeated target next here repeats =>
    have early := (Array.getElem?_eq_some_iff.mp here).1
    omega
  | same target next here equal => exact inside target next here (equal ▸ branches)

/-- An instruction that keeps the rules as a branch does not go past the end of the program. -/
theorem aim_le_size
    (rules : instruction.KeepsRules code.arena code.registers code.instructions.size index)
    (branches : instruction.opcode.isBranch = true) :
    code.aim instruction ≤ code.instructions.size := by
  obtain ⟨position, number, first, cell⟩ := rules.branch branches
  rw [aim_eq first cell]
  exact (rules.target 0 position number (congrArg some first) cell).2.2

section Verified

variable (threaded : code.Threaded code.instructions.size current) (threadable : code.Threadable)
  (rules : ∀ (index : Nat) (instruction : Instruction),
    code.instructions[index]? = some instruction →
    instruction.KeepsRules code.arena code.registers code.instructions.size index)
include threaded threadable rules

/-- Threaded code keeps the rules that the code kept. -/
theorem Threaded.keepsRules (found : current.instructions[index]? = some instruction) :
    instruction.KeepsRules current.arena current.registers current.instructions.size index := by
  rw [threaded.instruction] at found
  obtain ⟨original, before, same⟩ := Option.map_eq_some_iff.mp found
  split at same
  · cases same
    exact keepsRules_noOp
  cases same
  have kept := threaded.keeps threadable
  have rule := rules index instruction before
  rw [threaded.registers, threaded.size]
  refine ⟨rule.id, rule.known, fun slot handle held => ?_, rule.unused,
    fun slot position number held there => ?_, fun slot position number held there => ?_,
    fun branches => ?_⟩
  · rw [threaded.arena_size threadable]
    exact rule.operand slot handle held
  · rcases threaded.arena_cases position with alike | ⟨other, branch, found, leaps, _, moved⟩
    · exact rule.target slot position number held (alike.symm.trans there)
    · -- A moved target is one that some branch had before, or follows an instruction.
      have branches := (leaps_iff.mp leaps).1
      cases (Option.some.inj (moved.symm.trans there) :)
      have ahead := threadable.lt_thread found branches
      have inside := thread_le_size
        (fun place branch here => aim_le_size (rules place branch here)) found branches
      unfold unresolved
      omega
  · rcases threaded.arena_cases position with alike | ⟨_, _, _, _, _, moved⟩
    · exact rule.register slot position number held (alike.symm.trans there)
    · cases moved.symm.trans there
  · obtain ⟨position, number, first, cell⟩ := rule.branch branches
    obtain ⟨later, moved⟩ := kept.target cell
    exact ⟨position, later, first, moved⟩

end Verified

/-- **Optimizing keeps what the verifier accepted.** -/
theorem Threaded.verifyFault? (threaded : code.Threaded code.instructions.size current)
    (threadable : code.Threadable) (accepted : code.verifyFault? = none) :
    current.verifyFault? = none := by
  obtain ⟨⟨last, ending, halts⟩, rules⟩ := verify_eq_nil.mp (verifyFault?_eq_none.mp accepted)
  refine verifyFault?_eq_none.mpr
    (verify_eq_nil.mpr ⟨⟨last, ?_, halts⟩, fun index instruction found => ?_⟩)
  · rw [Array.back?_eq_getElem?] at ending ⊢
    rw [threaded.size]
    exact threaded.instruction_of_plain ending (by rw [halts]; rfl)
  · have kept : ∀ (place : Nat) (original : Instruction),
        code.instructions[place]? = some original →
        original.KeepsRules code.arena code.registers code.instructions.size place :=
      fun place original there => instructionFindings_eq_nil_iff.mp (rules place original there)
    exact instructionFindings_eq_nil_iff.mpr (threaded.keepsRules threadable kept found)

/-! ### Main result -/

/-- The code in which the branches before an index are improved. -/
def improvedBefore (code : Code) (index : Nat) : Code :=
  (code.optimizeFrom (List.range index)).1

theorem Threadable.improvedBefore (threadable : code.Threadable) (index : Nat) :
    (code.improvedBefore index).Threadable := by
  have threaded := code.threaded_zero.optimizeFrom threadable index
  rw [← List.range_eq_range'] at threaded
  exact threaded.threadable threadable

/-- How improved code differs from the code before, given the changes that were made. -/
structure Improves (before after : Code) (changes : List BranchChange) : Prop where
  size : after.instructions.size = before.instructions.size
  /-- Every instruction keeps its id. -/
  id : ∀ (index : Nat) (instruction : Instruction), before.instructions[index]? = some instruction →
    ∃ later, after.instructions[index]? = some later ∧ later.id = instruction.id
  plain : ∀ (index : Nat) (instruction : Instruction),
    before.instructions[index]? = some instruction → instruction.opcode.isBranch = false →
    after.instructions[index]? = some instruction
  branch : ∀ (index : Nat) (branch : Instruction), before.instructions[index]? = some branch →
    branch.opcode.isBranch = true → before.BranchOutcome after index branch
  /-- Every operand stays that is no jump target of a branch. -/
  operand : ∀ position : Nat, (∀ (index : Nat) (branch : Instruction),
      before.instructions[index]? = some branch → branch.opcode.isBranch = true →
      branch.first ≠ position) → after.arena[position]? = before.arena[position]?
  arena : after.arena.size = before.arena.size
  /-- The registers and the fields that are read stay. -/
  rest : after.rest = before.rest
  count : changes.length = (List.range before.instructions.size).countP (before.rewritten after)
  verified : before.verifyFault? = none → after.verifyFault? = none

/-- **What the optimizer may change, and that it ends.** The target of every branch is advanced in
finitely many rounds, in the code as it is when the branch is looked at. No more is changed than
branches that go to the next instruction, which become no-ops, and the jump targets of the other
branches, which move forward. -/
theorem optimize_improves (code : Code) (threadable : code.Threadable) :
    (∀ (index : Nat) (branch : Instruction),
      (code.improvedBefore index).instructions[index]? = some branch →
      branch.opcode.isBranch = true → (code.improvedBefore index).Arrives index branch) ∧
    code.Improves code.optimize.1 code.optimize.2 := by
  have threaded := threadable.optimize
  refine ⟨fun index _ found branches => (threadable.improvedBefore index).arrives found branches,
    threaded.size, fun index instruction found => ?_,
    fun index instruction found plain => threaded.instruction_of_plain found plain,
    fun index branch found branches => threaded.branchOutcome threadable found branches,
    fun position outside => ?_, threaded.arena_size threadable, threaded.rest, ?_,
    threaded.verifyFault? threadable⟩
  · by_cases falls : code.fallsThrough index instruction = true
    · exact ⟨_, threaded.fallsThrough_outcome found falls, (code.numbered _ _ found).symm⟩
    · refine ⟨instruction, ?_, rfl⟩
      rw [threaded.instruction, found, Option.map_some, if_neg fun both => falls both.2]
  · exact threaded.kept fun index branch _ found leaps =>
      outside index branch found (leaps_iff.mp leaps).1
  · rw [threadable.optimize_snd, List.length_filterMap_eq_countP]
    exact List.countP_congr fun index _ => by rw [threaded.isSome_change? threadable]

/-- A program whose first branch leads to the opposite branch, then to the same branch, then to a
read that was just made, and whose second branch leads to the next instruction. -/
def detour : Code where
  instructions := #[.of 0 .readTree [0, 1], .of 1 .ifFalseGoto [2], .of 2 .ifTrueGoto [3],
    .of 3 .ifTrueGoto [4], .of 4 .ifFalseGoto [5], .of 5 .not [], .of 6 .readTree [0, 1],
    .of 7 .halt []]
  arena := #[.field ⟨0, .empty, .empty, .empty⟩ false, .register 0, .target 3, .target 3, .target 5,
    .target 6]
  registers := 1
  loaded := []
  interesting := []
  references := []
  rawReferences := []
  numbered := fun index instruction found => by
    match index, found with
    | 0, rfl | 1, rfl | 2, rfl | 3, rfl | 4, rfl | 5, rfl | 6, rfl | 7, rfl => rfl

theorem detour_threadable : detour.Threadable := by
  have cells : ∀ {index : Nat} {instruction : Instruction},
      detour.instructions[index]? = some instruction → instruction.opcode.isBranch = true →
      instruction.first = ((index + 1 : Nat) : Int) := by
    intro index instruction found branches
    match index, found with
    | 0, rfl | 5, rfl | 6, rfl | 7, rfl => cases branches
    | 1, rfl | 2, rfl | 3, rfl | 4, rfl => rfl
  refine ⟨fun {index instruction} found branches => ?_,
    fun {index other instruction branch} found branches there also same => ?_,
    fun {index instruction} found reads => ?_⟩
  · refine ⟨index + 1, (detour.operand instruction.first).number, cells found branches, ?_⟩
    match index, found with
    | 0, rfl | 5, rfl | 6, rfl | 7, rfl => cases branches
    | 1, rfl | 2, rfl | 3, rfl | 4, rfl => exact ⟨rfl, by decide⟩
  · rw [cells found branches, cells there also] at same
    exact Nat.succ.inj (Int.ofNat.inj same)
  · match index, found with
    | 0, rfl | 6, rfl => exact ⟨1, 0, rfl, rfl⟩
    | 1, rfl | 2, rfl | 3, rfl | 4, rfl | 5, rfl | 7, rfl => cases reads

/-- Two of four branches are improved. -/
theorem detour_improves :
    detour.Threadable ∧ detour.optimize.2 = [.advanced 1 3 7, .disabled 2] ∧
      detour.Improves detour.optimize.1 detour.optimize.2 :=
  ⟨detour_threadable, rfl, (optimize_improves detour detour_threadable).2⟩

end DisplayFilter.Code
