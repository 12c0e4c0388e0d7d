/-
**What the code for a value leaves pending.**

The code for a value is put behind whatever is there and changes nothing of it. Its jumps are the new
jump targets that are not resolved: each belongs to one branch, which skips what needs the value, and
they are listed in the order of these branches. Every other new jump target belongs to one branch too,
and leads forward within the code. That is all the callers of the generator need to know about jumps,
and it is what they can say of their own code in turn.

* `Code.emitted`, `Code.emittedCells`: the instructions that were added, and the jump targets of the
  branches among them.
* `Code.Steps.mem_emittedCells`: these are the jump targets that were added.
* `Code.Steps.filter_emittedCells`: the pending ones among them, in their order.
* `Code.LeavesPending`: the rules.
* `Session`: code in the making whose fields are kept in registers, as they are at any time.
* `Compile.entityBehind_leavesPending`: the code for a value keeps them, whatever is pending before.
-/

import DisplayFilter.Proofs.Compiler.WellFormed
import DisplayFilter.Proofs.Generation.Results

namespace DisplayFilter

namespace Code

variable {code before after : Code} {jumps : List Handle}

/-! ### What is added -/

theorem Extends.instructions_prefix (grown : before.Extends after) :
    before.instructions.toList <+: after.instructions.toList := by
  refine List.prefix_iff_getElem?.mpr fun index inside => ?_
  rw [Array.getElem?_toList]
  exact grown.instruction (Array.getElem?_eq_getElem (by simpa using inside))

theorem Extends.arena_prefix (grown : before.Extends after) :
    before.arena.toList <+: after.arena.toList := by
  refine List.prefix_iff_getElem?.mpr fun position inside => ?_
  rw [Array.getElem?_toList]
  exact grown.operand (Array.getElem?_eq_getElem (by simpa using inside))

/-- The instructions that later code has behind those of earlier code. -/
def emitted (before after : Code) : List Instruction :=
  after.instructions.toList.drop before.instructions.size

theorem getElem?_emitted (before after : Code) (place : Nat) :
    (before.emitted after)[place]? = after.instructions[before.instructions.size + place]? := by
  rw [emitted, List.getElem?_drop, Array.getElem?_toList]

theorem Extends.toList_eq (grown : before.Extends after) :
    after.instructions.toList = before.instructions.toList ++ before.emitted after := by
  have split := List.prefix_iff_eq_append.mp grown.instructions_prefix
  rw [Array.length_toList] at split
  exact split.symm

theorem AddsSkips.opcode_of_isBranch (adds : before.AddsSkips after) {instruction : Instruction}
    (member : instruction ∈ before.emitted after) (branches : instruction.opcode.isBranch = true) :
    instruction.opcode = .ifFalseGoto := by
  obtain ⟨added, grown, skips⟩ := adds
  have same : before.emitted after = added := by
    rw [emitted, grown, ← Array.length_toList, List.drop_left]
  exact skips instruction (same ▸ member) branches

/-! ### Jump targets that are added -/

/-- The jump targets of the branches that were added, in their order. -/
def emittedCells (before after : Code) : List Handle :=
  ((before.emitted after).filter fun instruction => instruction.opcode.isBranch).map (·.first)

theorem Steps.cells_eq_append (steps : Steps (before, []) (after, jumps)) :
    after.cells = before.cells ++ before.emittedCells after := by
  obtain ⟨new, cells, branches⟩ := steps.cells
  have split : after.branchCells = before.branchCells ++ before.emittedCells after := by
    rw [branchCells, steps.extends.1.toList_eq, List.filter_append, List.map_append]
    rfl
  rw [cells, List.append_cancel_left (branches.symm.trans split)]

theorem Steps.nodup_emittedCells (steps : Steps (before, []) (after, jumps)) :
    (before.emittedCells after).Nodup := by
  have distinct : after.cells.Nodup := nodup_positions _
  rw [steps.cells_eq_append] at distinct
  exact (List.nodup_append.mp distinct).2.1

/-- A handle of the earlier code is one of its positions. -/
theorem lt_of_mem_positions {select : Operand → Bool} {position : Nat}
    (member : (position : Handle) ∈ code.positions select) : position < code.arena.size := by
  obtain ⟨other, operand, same, found, -⟩ := mem_positions.mp member
  rw [Int.ofNat.inj same]
  exact (Array.getElem?_eq_some_iff.mp found).1

/-- **The jump targets of the branches that were added are those that were added.** -/
theorem Steps.mem_emittedCells (steps : Steps (before, []) (after, jumps)) {position : Nat} :
    (position : Handle) ∈ before.emittedCells after ↔
      before.arena.size ≤ position ∧ ∃ number, after.arena[position]? = some (.target number) := by
  have cells := steps.cells_eq_append
  constructor
  · intro member
    have among : (position : Handle) ∈ after.cells := cells ▸ List.mem_append_right _ member
    obtain ⟨other, operand, same, found, target⟩ := mem_positions.mp among
    obtain rfl := Int.ofNat.inj same
    refine ⟨Nat.le_of_not_lt fun early => ?_, ?_⟩
    · -- a target of the earlier code would be listed twice
      have old : before.arena[position]? = some operand := by
        have there := Array.getElem?_eq_getElem early
        rw [there, ← steps.extends.1.operand there, found]
      have distinct : after.cells.Nodup := nodup_positions _
      rw [cells] at distinct
      exact (List.nodup_append.mp distinct).2.2 _ (mem_positions.mpr ⟨_, _, rfl, old, target⟩) _
        member rfl
    · obtain ⟨content, number⟩ := operand
      cases content <;> first | exact ⟨number, found⟩ | cases target
  · rintro ⟨late, number, found⟩
    have among : (position : Handle) ∈ after.cells := mem_positions.mpr ⟨_, _, rfl, found, rfl⟩
    rw [cells] at among
    rcases List.mem_append.mp among with old | new
    · exact absurd (lt_of_mem_positions old) (Nat.not_lt.mpr late)
    · exact new

theorem unresolvedCells_eq_filter (code : Code) :
    code.unresolvedCells = code.cells.filter fun cell => cell ∈ code.unresolvedCells := by
  have among (position : Nat) : ((position : Handle) ∈ code.unresolvedCells ↔
      (code.arena[position]?).any Operand.isPending = true) := by
    rw [unresolvedCells, mem_positions, Option.any_eq_true]
    constructor
    · rintro ⟨other, operand, same, found, waits⟩
      rw [Int.ofNat.inj same]
      exact ⟨operand, found, waits⟩
    · rintro ⟨operand, found, waits⟩
      exact ⟨position, operand, rfl, found, waits⟩
  rw [cells, positions, List.filter_map, List.filter_filter]
  conv_lhs => rw [unresolvedCells, positions]
  congr 1
  refine List.filter_congr fun position _ => ?_
  rw [Bool.eq_iff_iff]
  simp only [Function.comp_apply, Bool.and_eq_true, decide_eq_true_eq, among]
  refine ⟨fun waits => ⟨waits, ?_⟩, And.left⟩
  obtain ⟨operand, found, waits⟩ := (Option.any_eq_true _ _).mp waits
  rw [found, Operand.eq_of_isPending waits]
  rfl

/-- **The pending targets are the unresolved ones among those that were added**, in their order. -/
theorem Steps.filter_emittedCells (steps : Steps (before, []) (after, jumps)) :
    (before.emittedCells after).filter (fun cell => cell ∈ jumps) = jumps := by
  have split : after.unresolvedCells = before.unresolvedCells ++ jumps :=
    steps.unresolvedCells (List.append_nil _).symm
  have fresh := steps.extends.2
  have divided := unresolvedCells_eq_filter after
  rw [steps.cells_eq_append, List.filter_append, split] at divided
  have old : before.cells.filter (fun cell => cell ∈ before.unresolvedCells ++ jumps) =
      before.unresolvedCells := by
    rw [unresolvedCells_eq_filter before]
    refine List.filter_congr fun cell member => ?_
    obtain ⟨position, _, rfl, -⟩ := mem_positions.mp member
    have early := lt_of_mem_positions member
    have apart : (position : Handle) ∉ jumps := fun jump => by
      have late := fresh _ jump
      omega
    rw [← unresolvedCells_eq_filter before]
    simp [apart]
  have new : (before.emittedCells after).filter
      (fun cell => cell ∈ before.unresolvedCells ++ jumps) =
        (before.emittedCells after).filter fun cell => cell ∈ jumps := by
    refine List.filter_congr fun cell member => ?_
    have apart : cell ∉ before.unresolvedCells := by
      intro waits
      obtain ⟨position, _, rfl, -⟩ := mem_positions.mp waits
      exact absurd (lt_of_mem_positions waits)
        (Nat.not_lt.mpr (steps.mem_emittedCells.mp member).1)
    simp [apart]
  rw [old, new] at divided
  exact (List.append_cancel_left divided).symm

/-! ### The rules -/

/-- What the code for a value leaves: its result, and its jumps among what it adds. -/
structure LeavesPending (before after : Code) (jumps : List Handle) (result : Handle) : Prop where
  /-- The instructions before stay, and others are put behind them. -/
  instructions : before.instructions.toList <+: after.instructions.toList
  /-- So do the operands. -/
  operands : before.arena.toList <+: after.arena.toList
  /-- No jump is listed twice. -/
  distinct : jumps.Nodup
  /-- The jumps are new targets that are not resolved. -/
  waiting : ∀ jump ∈ jumps, ∃ position : Nat, jump = position ∧ before.arena.size ≤ position ∧
    after.arena[position]? = some (.target unresolved)
  /-- Among the branches added that are taken without a value, one after another, each jump has one. -/
  skips : ((before.emitted after).filter fun instruction =>
    instruction.opcode = .ifFalseGoto ∧ instruction.first ∈ jumps).map (·.first) = jumps
  /-- Every other new target belongs to one branch added, and leads forward within the code. -/
  settled : ∀ (position : Nat) (number : Int), before.arena.size ≤ position →
    after.arena[position]? = some (.target number) → (position : Handle) ∉ jumps →
    ∃ index, (∀ other, before.instructions.size ≤ other →
        (after.BranchesTo position other ↔ other = index)) ∧
      before.instructions.size ≤ index ∧ (index : Int) < number ∧ number ≤ after.instructions.size
  /-- The result is a register, a constant or a pattern. -/
  result : after.HoldsResult result

/-- A new target belongs to one of the branches that were added. -/
theorem Steps.existsUnique_branch (steps : Steps (before, []) (after, jumps)) {position : Nat}
    (member : (position : Handle) ∈ before.emittedCells after) :
    ∃ index, before.instructions.size ≤ index ∧ ∀ other, before.instructions.size ≤ other →
      (after.BranchesTo position other ↔ other = index) := by
  obtain ⟨instruction, among, first⟩ := List.mem_map.mp member
  obtain ⟨added, branches⟩ := List.mem_filter.mp among
  obtain ⟨place, found⟩ := List.mem_iff_getElem?.mp added
  refine ⟨before.instructions.size + place, Nat.le_add_right _ _, fun other late => ?_⟩
  constructor
  · rintro ⟨branch, there, also, same⟩
    obtain ⟨distance, rfl⟩ := Nat.exists_eq_add_of_le late
    rw [← getElem?_emitted] at there
    rw [getElem?_unique steps.nodup_emittedCells there also found branches (same.trans first.symm)]
  · rintro rfl
    rw [getElem?_emitted] at found
    exact ⟨instruction, found, branches, first⟩

theorem Steps.leavesPending (steps : Steps (before, []) (after, jumps)) (adds : before.AddsSkips after)
    {result : Handle} (holds : after.HoldsResult result) :
    before.LeavesPending after jumps result := by
  obtain ⟨grown, fresh⟩ := steps.extends
  obtain ⟨distinct, waiting⟩ := steps.pending_unresolved
  refine ⟨grown.instructions_prefix, grown.arena_prefix, distinct, fun jump member => ?_, ?_,
    fun position number late found other => ?_, holds⟩
  · obtain ⟨position, operand, rfl, found, waits⟩ := mem_positions.mp (waiting jump member)
    rw [Operand.eq_of_isPending waits] at found
    exact ⟨position, rfl, Int.ofNat_le.mp (fresh _ member), found⟩
  · conv_rhs => rw [← steps.filter_emittedCells]
    rw [emittedCells, List.filter_map, List.filter_filter]
    congr 1
    refine List.filter_congr fun instruction member => ?_
    have skips : instruction.opcode = .ifFalseGoto ↔ instruction.opcode.isBranch = true :=
      ⟨fun skips => skips ▸ rfl, adds.opcode_of_isBranch member⟩
    rw [Bool.eq_iff_iff]
    simp [skips, and_comm]
  · have member := steps.mem_emittedCells.mpr ⟨late, number, found⟩
    obtain ⟨index, behind, only⟩ := steps.existsUnique_branch member
    obtain ⟨instruction, there, branches, first⟩ := (only index behind).mpr rfl
    have forward : after.ForwardFrom before.instructions.size :=
      steps.forward fun index _ late found =>
        absurd (Array.getElem?_eq_some_iff.mp found).1 (Nat.not_lt.mpr late)
    obtain ⟨target, goal, same, cell, leads⟩ := forward index instruction behind there branches
    obtain rfl := Int.ofNat.inj (first.symm.trans same)
    obtain rfl : number = goal := congrArg Operand.number (Option.some.inj (found.symm.trans cell))
    refine ⟨index, only, behind, leads.resolve_left fun waits => other ?_⟩
    have among : (position : Handle) ∈ after.unresolvedCells :=
      mem_positions.mpr ⟨position, _, rfl, found, by rw [waits]; rfl⟩
    rw [steps.unresolvedCells (List.append_nil _).symm] at among
    rcases List.mem_append.mp among with old | new
    · exact absurd (lt_of_mem_positions old) (Nat.not_lt.mpr late)
    · exact new

end Code

/-! ### Sessions -/

/-- The state of a compilation between two steps: the fields it knows to be loaded are in registers. -/
structure Session extends Code where
  caches : toCode.CachesRegisters

/-- The state a compilation starts from. -/
def Session.start : Session := ⟨.empty, Code.cachesRegisters_empty⟩

/-- Code that steps lead to from a session is the code of a session again. -/
theorem Code.Steps.session {session : Session} {after : Code} {jumps : List Handle}
    (steps : Steps (session.toCode, []) (after, jumps)) : ∃ later : Session, later.toCode = after :=
  ⟨⟨after, steps.cachesRegisters session.caches⟩, rfl⟩

namespace Compile

open Code

variable {registry : Registry} {after : Code} {pending waiting : List Handle} {result : Handle}

/-- The code for a value behind jumps that are pending already. -/
def entityBehind (registry : Registry) (pending : List Handle) (node : Node) : Gen Value := do
  let (value, jumps) ← entity registry node
  return (value, pending ++ jumps)

/-- **What the code for a value leaves pending.** Whatever node it is made for, in whatever state of a
session and whatever is pending, the code for a value is only added. What is pending then is what was
pending before, followed by jumps of its own, the jump targets it adds keep the rules, and the session
goes on from there. -/
theorem entityBehind_leavesPending (node : Node) (session : Session)
    (made : entityBehind registry pending node session.toCode = .ok ((result, waiting), after)) :
    ∃ jumps, waiting = pending ++ jumps ∧ session.LeavesPending after jumps result ∧
      ∃ later : Session, later.toCode = after := by
  have runs : RunsValue node.isEntity (entity registry node) session.toCode :=
    entity_runs node _ session.caches
  have leaves : Leaves registry node session.toCode := entity_leaves node _ session.caches
  have yields : Gen.Yields (entityBehind registry pending node) session.toCode (fun value after =>
      ∃ jumps, value.2 = pending ++ jumps ∧ session.LeavesPending after jumps value.1 ∧
        ∃ later : Session, later.toCode = after) fun _ => True := by
    refine (Gen.Yields.and runs leaves).bind (fun _ _ => trivial) fun value after run => ?_
    obtain ⟨⟨-, steps, -⟩, stands, adds⟩ := run
    exact ⟨value.2, rfl, steps.leavesPending adds stands.holdsResult, steps.session⟩
  exact yields.of_ok made

/-- A call of a function for a field. -/
def upperField : Node :=
  .call (some ⟨"upper", 1, 1⟩) [.field ⟨some ⟨0, .empty, .empty, .empty⟩, none, false, false⟩]

/-- Behind a jump that is pending already, the jump of the argument is resolved and that of the call is
left. -/
theorem entityBehind_leavesPending_call :
    ∃ after result,
      entityBehind .identity [2] upperField Session.start.toCode = .ok ((result, [2, 7]), after) ∧
      ∃ jumps, [2, 7] = [2] ++ jumps ∧ Session.start.LeavesPending after jumps result ∧
        ∃ later : Session, later.toCode = after := by
  have waits : (entityBehind .identity [2] upperField Session.start.toCode).toOption.map (·.1.2) =
      some [2, 7] := by decide +kernel
  cases made : entityBehind .identity [2] upperField Session.start.toCode with
  | error violation =>
    rw [made] at waits
    cases waits
  | ok outcome =>
    obtain ⟨⟨result, waiting⟩, after⟩ := outcome
    rw [made] at waits
    cases waits
    exact ⟨after, result, rfl, entityBehind_leavesPending upperField Session.start made⟩

end Compile

end DisplayFilter
