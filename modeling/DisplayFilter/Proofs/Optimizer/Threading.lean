/-
**What optimizing branches does.**

The branches are improved one after another, each in code whose earlier branches are improved
already. As branches go forward and each has a jump target of its own, the result can be told from
the code before all of it: a branch to the next instruction is a no-op, any other branch goes to
where its target may be advanced in the original code, and nothing else is changed.

* `Code.Threaded`: the code with its first branches improved.
* `Code.Threadable.optimize`: optimized code is the code with all branches improved.
* `Code.advance_passes`: a target is advanced over instructions that do not matter.
* `Code.thread_induction`: what passing keeps holds where a branch is threaded to.
* `Code.Threadable.thread_stops`: a target is advanced until it reaches an instruction that matters.
-/

import DisplayFilter.Optimizer
import DisplayFilter.Proofs.Generation.Step
import DisplayFilter.Proofs.Program.Verified
import Mathlib.Logic.Relation
import Mathlib.Tactic.Common

namespace DisplayFilter.Code

open Relation (ReflTransGen)

variable {code current : Code} {index upTo : Nat} {instruction : Instruction}

/-! ### Branches -/

/-- Where a branch goes. -/
def aim (code : Code) (branch : Instruction) : Int :=
  (code.operand branch.first).number

/-- Whether an instruction is a branch that goes to the next instruction anyway. -/
def fallsThrough (code : Code) (index : Nat) (instruction : Instruction) : Bool :=
  instruction.opcode.isBranch && code.aim instruction = index + 1

/-- Whether an instruction is a branch that goes elsewhere. -/
def leaps (code : Code) (index : Nat) (instruction : Instruction) : Bool :=
  instruction.opcode.isBranch && code.aim instruction ≠ index + 1

theorem fallsThrough_iff : code.fallsThrough index instruction = true ↔
    instruction.opcode.isBranch = true ∧ code.aim instruction = index + 1 := by
  simp [fallsThrough]

theorem leaps_iff : code.leaps index instruction = true ↔
    instruction.opcode.isBranch = true ∧ code.aim instruction ≠ index + 1 := by
  simp [leaps]

/-- Where a branch may go instead. -/
def thread (code : Code) (index : Nat) (branch : Instruction) : Int :=
  code.advance index branch.opcode (code.instructions.size + 1) (code.aim branch)

/-- Code whose branches are resolved, go forward and have a jump target each, and whose reads go to
registers. -/
structure Threadable (code : Code) : Prop where
  forward : ∀ {index : Nat} {instruction : Instruction},
    code.instructions[index]? = some instruction → instruction.opcode.isBranch = true →
    ∃ (position : Nat) (number : Int), instruction.first = position ∧
      code.arena[position]? = some (.target number) ∧ (index : Int) < number
  distinct : ∀ {index other : Nat} {instruction branch : Instruction},
    code.instructions[index]? = some instruction → instruction.opcode.isBranch = true →
    code.instructions[other]? = some branch → branch.opcode.isBranch = true →
    instruction.first = branch.first → index = other
  reads : ∀ {index : Nat} {instruction : Instruction},
    code.instructions[index]? = some instruction → instruction.opcode = .readTree →
    ∃ (position : Nat) (number : Int), instruction.second = position ∧
      code.arena[position]? = some (.register number)

theorem aim_eq {position : Nat} {number : Int} (first : instruction.first = position)
    (cell : code.arena[position]? = some (.target number)) : code.aim instruction = number := by
  unfold aim operand
  rw [first, operandAt_eq cell]
  rfl

theorem Threadable.lt_aim (threadable : code.Threadable)
    (found : code.instructions[index]? = some instruction)
    (branches : instruction.opcode.isBranch = true) : (index : Int) < code.aim instruction := by
  obtain ⟨position, number, first, cell, forward⟩ := threadable.forward found branches
  rw [aim_eq first cell]
  exact forward

/-! ### Advancing a target -/

/-- What a branch with a given opcode passes on its way from the index. -/
inductive Passes (code : Code) (index : Nat) (branch : Opcode) : Int → Int → Prop
  /-- The opposite branch is not taken. -/
  | opposite (target : Nat) (next : Instruction) (found : code.instructions[target]? = some next)
      (inverted : next.opcode = branch.opposite) : Passes code index branch target (target + 1)
  /-- What was just read need not be read again. -/
  | repeated (target : Nat) (next : Instruction) (found : code.instructions[target]? = some next)
      (repeats : code.repeatsRead index next = true) : Passes code index branch target (target + 1)
  /-- The same branch is taken. -/
  | same (target : Nat) (next : Instruction) (found : code.instructions[target]? = some next)
      (equal : next.opcode = branch) : Passes code index branch target (code.aim next)

/-- **A target is advanced over what the branch passes.** -/
theorem advance_passes (code : Code) (index : Nat) (branch : Opcode) (fuel : Nat) (target : Int) :
    ReflTransGen (code.Passes index branch) target (code.advance index branch fuel target) := by
  induction fuel generalizing target with
  | zero => exact .refl
  | succ fuel ih =>
    unfold advance
    split
    · exact .refl
    · rename_i nonnegative
      obtain ⟨target, rfl⟩ := Int.eq_ofNat_of_zero_le (Int.not_lt.mp nonnegative)
      rw [Int.toNat_natCast]
      split
      · exact .refl
      · rename_i next found
        split
        · rename_i inverted
          exact .head (.opposite target next found inverted) (ih _)
        split
        · rename_i repeats
          exact .head (.repeated target next found repeats) (ih _)
        split
        · rename_i equal
          exact .head (.same target next found equal) (ih _)
        · exact .refl

/-- **What passing keeps holds where a branch is threaded to.** -/
theorem thread_induction {motive : Int → Prop} (aims : motive (code.aim instruction))
    (passes : ∀ target next, code.Passes index instruction.opcode target next → motive target →
      motive next) : motive (code.thread index instruction) := by
  have run : ∀ reached, ReflTransGen (code.Passes index instruction.opcode)
      (code.aim instruction) reached → motive reached := by
    intro reached passed
    induction passed with
    | refl => exact aims
    | tail _ further ih => exact passes _ _ further ih
  exact run _ (code.advance_passes _ _ _ _)

/-- What is passed lies behind where the branch would go then. -/
theorem Threadable.lt_of_passes (threadable : code.Threadable) {branch : Opcode} {target next : Int}
    (branches : branch.isBranch = true) (passes : code.Passes index branch target next) :
    target < next := by
  cases passes with
  | opposite target next found inverted => omega
  | repeated target next found repeats => omega
  | same target next found equal => exact threadable.lt_aim found (equal ▸ branches)

/-- Branches are threaded forward. -/
theorem Threadable.aim_le_thread (threadable : code.Threadable)
    (branches : instruction.opcode.isBranch = true) :
    code.aim instruction ≤ code.thread index instruction := by
  refine thread_induction (Int.le_refl _) fun target next passes further => ?_
  exact Int.le_trans further (Int.le_of_lt (threadable.lt_of_passes branches passes))

/-- An instruction that a branch does not pass. -/
def Stops (code : Code) (index : Nat) (branch : Opcode) (next : Instruction) : Prop :=
  next.opcode ≠ branch.opposite ∧ code.repeatsRead index next = false ∧ next.opcode ≠ branch

/-- With enough fuel the target is advanced as far as possible: each step leads further on, and
there is nothing to pass behind the last instruction. -/
theorem Threadable.advance_stops (threadable : code.Threadable) {branch : Opcode}
    (branches : branch.isBranch = true) {fuel : Nat} {target : Int} (start : 0 ≤ target)
    (enough : (code.instructions.size : Int) < target + fuel) {next : Instruction}
    (found : code.instructions[(code.advance index branch fuel target).toNat]? = some next) :
    code.Stops index branch next := by
  induction fuel generalizing target with
  | zero =>
    have inside := (Array.getElem?_eq_some_iff.mp found).1
    simp only [advance] at inside
    omega
  | succ fuel ih =>
    unfold advance at found
    rw [if_neg (by omega)] at found
    obtain ⟨target, rfl⟩ := Int.eq_ofNat_of_zero_le start
    rw [Int.toNat_natCast] at found
    split at found
    · rename_i outside
      rw [Int.toNat_natCast, outside] at found
      cases found
    · rename_i other here
      split at found
      · exact ih (by omega) (by omega) found
      rename_i notInverted
      split at found
      · exact ih (by omega) (by omega) found
      rename_i notRepeated
      split at found
      · rename_i equal
        have further := threadable.lt_aim here (equal ▸ branches)
        unfold aim at further
        exact ih (by omega) (by omega) found
      · rename_i different
        rw [Int.toNat_natCast, here] at found
        cases found
        exact ⟨notInverted, Bool.not_eq_true _ ▸ notRepeated, different⟩

/-- **A branch is threaded until it reaches an instruction that matters.** -/
theorem Threadable.thread_stops (threadable : code.Threadable)
    (found : code.instructions[index]? = some instruction)
    (branches : instruction.opcode.isBranch = true) {next : Instruction}
    (there : code.instructions[(code.thread index instruction).toNat]? = some next) :
    code.Stops index instruction.opcode next := by
  have forward := threadable.lt_aim found branches
  exact threadable.advance_stops branches (by omega) (by omega) there

theorem Threadable.lt_thread (threadable : code.Threadable)
    (found : code.instructions[index]? = some instruction)
    (branches : instruction.opcode.isBranch = true) :
    (index : Int) < code.thread index instruction :=
  Int.lt_of_lt_of_le (threadable.lt_aim found branches) (threadable.aim_le_thread branches)

/-! ### The branches one after another -/

/-- What is neither an instruction nor an operand. -/
def rest (code : Code) : Code :=
  { code with instructions := #[], arena := #[], numbered := empty.numbered }

theorem rest_setNumber (handle : Handle) (number : Int) :
    (code.setNumber handle number).rest = code.rest := by
  unfold setNumber
  split <;> rfl

/-- The code with the branches before an index improved. -/
structure Threaded (code : Code) (upTo : Nat) (current : Code) : Prop where
  instruction : ∀ index : Nat, current.instructions[index]? =
    (code.instructions[index]?).map fun instruction =>
      if index < upTo ∧ code.fallsThrough index instruction = true then .of index .noOp []
      else instruction
  moved : ∀ {index : Nat} {instruction : Instruction} {position : Nat}, index < upTo →
    code.instructions[index]? = some instruction → code.leaps index instruction = true →
    instruction.first = position →
    current.arena[position]? = some (.target (code.thread index instruction))
  kept : ∀ {position : Nat}, (∀ (index : Nat) (instruction : Instruction), index < upTo →
      code.instructions[index]? = some instruction → code.leaps index instruction = true →
      instruction.first ≠ position) →
    current.arena[position]? = code.arena[position]?
  size : current.instructions.size = code.instructions.size
  rest : current.rest = code.rest

/-- Nothing is improved at first. -/
theorem threaded_zero (code : Code) : code.Threaded 0 code := by
  refine ⟨fun index => ?_, fun early => absurd early (Nat.not_lt_zero _), fun _ => rfl, rfl, rfl⟩
  cases code.instructions[index]? <;> simp

namespace Threaded

/-- The instructions from the bound on are as they were. -/
theorem instruction_of_le (threaded : code.Threaded upTo current) (late : upTo ≤ index) :
    current.instructions[index]? = code.instructions[index]? := by
  have early : ¬ index < upTo := Nat.not_lt.mpr late
  rw [threaded.instruction]
  simp [early]

/-- An operand that is no cell of an improved branch is as it was. -/
theorem operand_eq {position : Nat} (same : current.arena[position]? = code.arena[position]?) :
    current.operand (position : Int) = code.operand (position : Int) := by
  unfold operand operandAt
  rw [Int.toNat_natCast, same]

/-- The cells of the branches that are left are as they were. -/
theorem cell_of_le (threaded : code.Threaded upTo current) (threadable : code.Threadable)
    (late : upTo ≤ index) (found : code.instructions[index]? = some instruction)
    (branches : instruction.opcode.isBranch = true) {position : Nat}
    (first : instruction.first = position) :
    current.arena[position]? = code.arena[position]? := by
  refine threaded.kept fun earlier branch early there leaps cell => ?_
  have also : branch.opcode.isBranch = true := (leaps_iff.mp leaps).1
  have same := threadable.distinct there also found branches (cell.trans first.symm)
  omega

/-- What is no jump target is as it was. -/
theorem operand_of_value (threaded : code.Threaded upTo current) (threadable : code.Threadable)
    {position : Nat} {operand : Operand} (found : code.arena[position]? = some operand)
    (plain : operand.isTarget = false) : current.arena[position]? = some operand := by
  rw [← found]
  refine threaded.kept fun earlier branch early there leaps cell => ?_
  have branches : branch.opcode.isBranch = true := (leaps_iff.mp leaps).1
  obtain ⟨place, number, first, target, _⟩ := threadable.forward there branches
  rw [cell] at first
  rw [← Int.ofNat.inj first, found] at target
  cases target
  cases plain

/-- The branches that are left go where they went. -/
theorem aim_of_le (threaded : code.Threaded upTo current) (threadable : code.Threadable)
    (late : upTo ≤ index) (found : code.instructions[index]? = some instruction)
    (branches : instruction.opcode.isBranch = true) :
    current.aim instruction = code.aim instruction := by
  obtain ⟨position, number, first, cell, _⟩ := threadable.forward found branches
  rw [aim_eq first cell, aim_eq first]
  rw [threaded.cell_of_le threadable late found branches first, cell]

/-- Reads go to the registers they went to. -/
theorem register_eq (threaded : code.Threaded upTo current) (threadable : code.Threadable)
    (found : code.instructions[index]? = some instruction)
    (reads : instruction.opcode = .readTree) :
    current.operand instruction.second = code.operand instruction.second := by
  obtain ⟨position, number, second, register⟩ := threadable.reads found reads
  rw [second]
  refine operand_eq ?_
  rw [register]
  exact threaded.operand_of_value threadable register rfl

/-- Improving earlier branches does not matter to whether a read is repeated. -/
theorem repeatsRead_eq (threaded : code.Threaded upTo current) (threadable : code.Threadable)
    {target : Nat} {next : Instruction} (found : code.instructions[target]? = some next) :
    current.repeatsRead index next = code.repeatsRead index next := by
  unfold repeatsRead
  by_cases reads : next.opcode = .readTree
  · rw [threaded.instruction, threaded.register_eq threadable found reads]
    cases before : code.instructions[index - 1]? with
    | none => rfl
    | some earlier =>
      simp only [Option.map_some]
      split
      · rename_i disabled
        have branches := (fallsThrough_iff.mp disabled.2).1
        have differs : earlier.opcode ≠ .readTree := by
          intro same
          rw [same] at branches
          cases branches
        simp [differs, Instruction.of]
      · by_cases alike : earlier.opcode = .readTree
        · rw [threaded.register_eq threadable before alike]
        · simp [alike]
  · simp [reads]

/-- **Improving earlier branches does not matter to where a target may be advanced.** -/
theorem advance_eq (threaded : code.Threaded upTo current) (threadable : code.Threadable)
    {branch : Opcode} (branches : branch.isBranch = true) (fuel : Nat) {target : Int}
    (late : upTo ≤ target) :
    current.advance index branch fuel target = code.advance index branch fuel target := by
  induction fuel generalizing target with
  | zero => rfl
  | succ fuel ih =>
    obtain ⟨target, rfl⟩ := Int.eq_ofNat_of_zero_le (Int.le_trans (Int.natCast_nonneg upTo) late)
    have behind : upTo ≤ target := Int.ofNat_le.mp late
    unfold advance
    rw [Int.toNat_natCast, threaded.instruction_of_le behind]
    cases found : code.instructions[target]? with
    | none => rfl
    | some next =>
      simp only [threaded.repeatsRead_eq threadable found]
      rw [ih (by omega)]
      by_cases equal : next.opcode = branch
      · have aims := threaded.aim_of_le threadable behind found (equal ▸ branches)
        have forward := threadable.lt_aim found (equal ▸ branches)
        unfold aim at aims forward
        rw [aims, ih (by omega)]
      · simp [equal]

/-- **The next branch is improved as the original code tells.** -/
theorem optimizeAt_eq (threaded : code.Threaded upTo current) (threadable : code.Threadable)
    (found : code.instructions[upTo]? = some instruction)
    (branches : instruction.opcode.isBranch = true) :
    current.optimizeAt upTo =
      if code.aim instruction = upTo + 1 then
        (current.disable upTo, some (.disabled upTo))
      else if code.thread upTo instruction = code.aim instruction then (current, none)
      else
        (current.setNumber instruction.first (code.thread upTo instruction),
          some (.advanced upTo (code.aim instruction) (code.thread upTo instruction))) := by
  have aims : (current.operand instruction.first).number = code.aim instruction :=
    threaded.aim_of_le threadable (Nat.le_refl _) found branches
  have ahead := threadable.lt_aim found branches
  have advanced : current.advance upTo instruction.opcode (current.instructions.size + 1)
      (code.aim instruction) = code.thread upTo instruction := by
    rw [threaded.advance_eq threadable branches _ (Int.le_of_lt ahead), threaded.size]
    rfl
  unfold Code.optimizeAt
  rw [threaded.instruction_of_le (Nat.le_refl _), found]
  simp only [branches, aims, advanced, if_true]

/-- There is nothing to improve at an index without a branch. -/
theorem pass (threaded : code.Threaded upTo current)
    (falls : ∀ instruction, code.instructions[upTo]? = some instruction →
      instruction.opcode.isBranch = false) : code.Threaded (upTo + 1) current := by
  refine ⟨fun index => ?_, fun {index instruction position} early found leaps first => ?_,
    fun outside => ?_, threaded.size, threaded.rest⟩
  · rw [threaded.instruction]
    cases found : code.instructions[index]? with
    | none => rfl
    | some instruction =>
      have same : index < upTo + 1 ∧ code.fallsThrough index instruction = true ↔
          index < upTo ∧ code.fallsThrough index instruction = true := by
        refine and_congr_left fun falling => ⟨fun early => ?_, by omega⟩
        refine Nat.lt_of_le_of_ne (Nat.le_of_lt_succ early) fun here => ?_
        have branches := (fallsThrough_iff.mp falling).1
        rw [falls instruction (here ▸ found)] at branches
        cases branches
      simp only [Option.map_some, same]
  · refine threaded.moved (Nat.lt_of_le_of_ne (Nat.le_of_lt_succ early) fun here => ?_) found leaps
      first
    have branches := (leaps_iff.mp leaps).1
    rw [falls instruction (here ▸ found)] at branches
    cases branches
  · exact threaded.kept fun index instruction early =>
      outside index instruction (Nat.lt_succ_of_lt early)

/-- A branch that falls through is disabled. -/
theorem disable (threaded : code.Threaded upTo current)
    (found : code.instructions[upTo]? = some instruction)
    (falls : code.fallsThrough upTo instruction = true) :
    code.Threaded (upTo + 1) (current.disable upTo) := by
  obtain ⟨branches, here⟩ := fallsThrough_iff.mp falls
  refine ⟨fun index => ?_, fun {index branch position} early there leaps first => ?_,
    fun outside => ?_, (Array.size_modify ..).trans threaded.size, threaded.rest⟩
  · rw [Code.disable, Array.getElem?_modify, threaded.instruction]
    by_cases same : upTo = index
    · subst same
      simp [found, falls]
    · rw [if_neg same]
      have bound : index < upTo + 1 ↔ index < upTo := by omega
      simp only [bound]
  · refine threaded.moved (Nat.lt_of_le_of_ne (Nat.le_of_lt_succ early) fun equal => ?_) there leaps
      first
    subst equal
    cases found.symm.trans there
    exact (leaps_iff.mp leaps).2 here
  · exact threaded.kept fun index instruction early =>
      outside index instruction (Nat.lt_succ_of_lt early)

/-- A branch that leaps gets another target. -/
theorem move (threaded : code.Threaded upTo current) {later : Code}
    (found : code.instructions[upTo]? = some instruction)
    (leaps : code.leaps upTo instruction = true) {position : Nat}
    (first : instruction.first = position)
    (cell : later.arena[position]? = some (.target (code.thread upTo instruction)))
    (others : ∀ other : Nat, other ≠ position → later.arena[other]? = current.arena[other]?)
    (instructions : later.instructions = current.instructions) (rest : later.rest = current.rest)
    (threadable : code.Threadable) : code.Threaded (upTo + 1) later := by
  obtain ⟨branches, away⟩ := leaps_iff.mp leaps
  refine ⟨fun index => ?_, fun {index branch place} early there leaping same => ?_,
    fun {place} outside => ?_, ?_, rest.trans threaded.rest⟩
  · rw [instructions, threaded.instruction]
    cases there : code.instructions[index]? with
    | none => rfl
    | some branch =>
      have same : index < upTo + 1 ∧ code.fallsThrough index branch = true ↔
          index < upTo ∧ code.fallsThrough index branch = true := by
        refine and_congr_left fun falling => ⟨fun early => ?_, by omega⟩
        refine Nat.lt_of_le_of_ne (Nat.le_of_lt_succ early) fun here => ?_
        subst here
        cases found.symm.trans there
        exact away (fallsThrough_iff.mp falling).2
      simp only [Option.map_some, same]
  · by_cases here : index = upTo
    · subst here
      cases found.symm.trans there
      rw [first] at same
      rw [← Int.ofNat.inj same]
      exact cell
    · have different : place ≠ position := by
        rintro rfl
        have also := (leaps_iff.mp leaping).1
        exact here (threadable.distinct there also found branches (same.trans first.symm))
      rw [others place different]
      exact threaded.moved (Nat.lt_of_le_of_ne (Nat.le_of_lt_succ early) here) there leaping same
  · have different : place ≠ position := by
      rintro rfl
      exact outside upTo instruction (Nat.lt_succ_self _) found leaps first
    rw [others place different]
    exact threaded.kept fun index instruction early =>
      outside index instruction (Nat.lt_succ_of_lt early)
  · rw [instructions]
    exact threaded.size

/-- There is nothing to do at an index without a branch. -/
theorem optimizeAt_eq_self (threaded : code.Threaded upTo current)
    (falls : ∀ instruction, code.instructions[upTo]? = some instruction →
      instruction.opcode.isBranch = false) : current.optimizeAt upTo = (current, none) := by
  unfold Code.optimizeAt
  rw [threaded.instruction_of_le (Nat.le_refl _)]
  cases found : code.instructions[upTo]? with
  | none => rfl
  | some instruction => simp [falls instruction found]

/-- **Improving the next branch.** -/
theorem optimizeAt (threaded : code.Threaded upTo current) (threadable : code.Threadable) :
    code.Threaded (upTo + 1) (current.optimizeAt upTo).1 := by
  by_cases branching : ∃ instruction, code.instructions[upTo]? = some instruction ∧
      instruction.opcode.isBranch = true
  · obtain ⟨instruction, found, branches⟩ := branching
    obtain ⟨position, number, first, cell, _⟩ := threadable.forward found branches
    rw [threaded.optimizeAt_eq threadable found branches]
    by_cases next : code.aim instruction = upTo + 1
    · rw [if_pos next]
      exact threaded.disable found (fallsThrough_iff.mpr ⟨branches, next⟩)
    · rw [if_neg next]
      have leaps : code.leaps upTo instruction = true := leaps_iff.mpr ⟨branches, next⟩
      have waiting : current.arena[position]? = some (.target number) := by
        rw [threaded.cell_of_le threadable (Nat.le_refl _) found branches first, cell]
      by_cases stays : code.thread upTo instruction = code.aim instruction
      · rw [if_pos stays]
        refine threaded.move found leaps first ?_ (fun _ _ => rfl) rfl rfl threadable
        rw [waiting, stays, aim_eq first cell]
      · rw [if_neg stays, first]
        refine threaded.move found leaps first ?_ (fun other different => ?_)
          (setNumber_instructions _ _) (rest_setNumber _ _) threadable
        · rw [arena_setNumber, if_pos rfl, waiting]
          rfl
        · rw [arena_setNumber, if_neg (by omega)]
  · have falls : ∀ instruction, code.instructions[upTo]? = some instruction →
        instruction.opcode.isBranch = false :=
      fun instruction found => Bool.eq_false_iff.mpr fun branches =>
        branching ⟨instruction, found, branches⟩
    rw [threaded.optimizeAt_eq_self falls]
    exact threaded.pass falls

/-- Improving several branches in order. -/
theorem optimizeFrom (threaded : code.Threaded upTo current) (threadable : code.Threadable)
    (count : Nat) :
    code.Threaded (upTo + count) (current.optimizeFrom (List.range' upTo count)).1 := by
  induction count generalizing upTo current with
  | zero => exact threaded
  | succ count ih =>
    rw [List.range'_succ]
    unfold Code.optimizeFrom
    have rest := ih (threaded.optimizeAt threadable)
    rwa [Nat.add_assoc, Nat.add_comm 1 count] at rest

end Threaded

/-- **Optimized code is the code with all branches improved.** -/
theorem Threadable.optimize (threadable : code.Threadable) :
    code.Threaded code.instructions.size code.optimize.1 := by
  have threaded := code.threaded_zero.optimizeFrom threadable code.instructions.size
  rw [Nat.zero_add] at threaded
  unfold Code.optimize
  rw [List.range_eq_range']
  exact threaded

end DisplayFilter.Code
