/-
**Jump targets of generated code.**

Every branch has a jump target of its own: a cell of the arena that holds the number of the
instruction to go to. A run of code generation makes a cell together with its branch, and resolves
each pending cell once.

* `Code.Steps.cells`: the cells a run makes are, in order, the targets of the branches it emits.
* `Code.Steps.unresolvedCells`: the cells that are not resolved are those that were not resolved
  before, followed by the pending ones.
* `Code.Steps.forward`: a resolved branch goes forward, at most to the end of the code.
* `Code.Steps.fixup`: pending targets can be resolved.
-/

import DisplayFilter.Proofs.Generation.Outcome
import DisplayFilter.Proofs.Generation.Step
import DisplayFilter.Proofs.Program.Verified
import Mathlib.Data.List.Nodup

namespace DisplayFilter

/-- Whether an operand is a jump target that is not resolved. -/
def Operand.isPending (operand : Operand) : Bool :=
  !operand.isResolved

theorem Operand.eq_of_isPending {operand : Operand} (waits : operand.isPending = true) :
    operand = .target unresolved := by
  obtain ⟨content, number⟩ := operand
  cases content <;> simp_all [Operand.isPending, Operand.isResolved, Operand.isTarget,
    Operand.target]

namespace Code

variable {code before after : Code} {pending : List Handle}

/-! ### Positions in the arena -/

/-- The handles of the operands that a test selects, in order. -/
def positions (code : Code) (select : Operand → Bool) : List Handle :=
  ((List.range code.arena.size).filter fun position => (code.arena[position]?).any select).map
    fun (position : Nat) => (position : Int)

theorem mem_positions {select : Operand → Bool} {handle : Handle} :
    handle ∈ code.positions select ↔ ∃ (position : Nat) (operand : Operand),
      handle = position ∧ code.arena[position]? = some operand ∧ select operand = true := by
  unfold positions
  rw [List.mem_map]
  constructor
  · rintro ⟨position, member, rfl⟩
    obtain ⟨_, selected⟩ := List.mem_filter.mp member
    obtain ⟨operand, found, holds⟩ := (Option.any_eq_true _ _).mp selected
    exact ⟨position, operand, rfl, found, holds⟩
  · rintro ⟨position, operand, rfl, found, holds⟩
    refine ⟨position, List.mem_filter.mpr ⟨?_, ?_⟩, rfl⟩
    · exact List.mem_range.mpr (Array.getElem?_eq_some_iff.mp found).1
    · simp [found, holds]

theorem nodup_positions (select : Operand → Bool) : (code.positions select).Nodup := by
  unfold positions
  refine List.Nodup.map ?_ (List.nodup_range.filter _)
  intro first second same
  exact Int.ofNat.inj same

/-- A new operand adds at most its own handle. -/
theorem positions_push (select : Operand → Bool) {operand : Operand}
    (grown : after.arena = before.arena.push operand) :
    after.positions select = before.positions select ++
      if select operand then [(before.arena.size : Int)] else [] := by
  unfold positions
  rw [grown, Array.size_push, List.range_succ, List.filter_append, List.map_append]
  congr 1
  · congr 1
    refine List.filter_congr fun position member => ?_
    have inside := List.mem_range.mp member
    rw [Array.getElem?_push, if_neg (by omega)]
  · by_cases holds : select operand <;> simp [holds]

/-- Numbers do not matter to a test that does not look at them. -/
theorem positions_congr {select : Operand → Bool}
    (size : after.arena.size = before.arena.size)
    (same : ∀ position : Nat,
      (after.arena[position]?).any select = (before.arena[position]?).any select) :
    after.positions select = before.positions select := by
  unfold positions
  rw [size]
  congr 1
  exact List.filter_congr fun position _ => same position

/-! ### Cells and branches -/

/-- The handles of the jump targets. -/
def cells (code : Code) : List Handle :=
  code.positions Operand.isTarget

/-- The handles of the jump targets that are not resolved. -/
def unresolvedCells (code : Code) : List Handle :=
  code.positions Operand.isPending

/-- The jump targets of the branches, in the order of the branches. -/
def branchCells (code : Code) : List Handle :=
  (code.instructions.toList.filter fun instruction => instruction.opcode.isBranch).map (·.first)

theorem branchCells_push {instruction : Instruction}
    (grown : after.instructions = before.instructions.push instruction) :
    after.branchCells = before.branchCells ++
      if instruction.opcode.isBranch then [instruction.first] else [] := by
  unfold branchCells
  rw [grown, Array.toList_push, List.filter_append, List.map_append]
  by_cases branches : instruction.opcode.isBranch <;> simp [branches]

theorem branchCells_congr (same : after.instructions = before.instructions) :
    after.branchCells = before.branchCells := by
  unfold branchCells
  rw [same]

theorem cells_resolve (targets : List Handle) : (code.resolve targets).cells = code.cells := by
  refine positions_congr (resolve_arena_size targets) fun position => ?_
  rw [arena_resolve]
  split
  · rw [Option.any_map]
    rfl
  · rfl

/-- Resolving takes the targets off the list of unresolved ones. -/
theorem unresolvedCells_resolve (targets : List Handle) :
    (code.resolve targets).unresolvedCells =
      code.unresolvedCells.filter fun cell => cell ∉ targets := by
  unfold unresolvedCells positions
  rw [resolve_arena_size, List.filter_map, List.filter_filter]
  congr 1
  refine List.filter_congr fun position _ => ?_
  rw [arena_resolve]
  by_cases member : (position : Int) ∈ targets
  · rw [if_pos member, Option.any_map]
    have known : (code.instructions.size : Int) ≠ unresolved := by
      unfold unresolved
      omega
    simp [Operand.isPending, Operand.isResolved, known, member]
  · rw [if_neg member]
    simp [member]

/-! ### One step -/

/-- **A step makes a cell only together with its branch.** -/
theorem Step.cells {start stop : Code × List Handle} (step : Step start stop) :
    ∃ new, stop.1.cells = start.1.cells ++ new ∧
      stop.1.branchCells = start.1.branchCells ++ new := by
  cases step with
  | operand operand noTarget noRegister =>
    refine ⟨[], ?_, by rw [List.append_nil]; exact branchCells_congr rfl⟩
    exact (positions_push _ (newOperand_arena operand)).trans (by rw [noTarget]; rfl)
  | register =>
    exact ⟨[], positions_push _ newRegister_arena,
      by rw [List.append_nil]; exact branchCells_congr rfl⟩
  | load field raw first =>
    exact ⟨[], positions_push _ newRegister_arena,
      by rw [List.append_nil]; exact branchCells_congr rfl⟩
  | emit opcode operands plain count values =>
    have falls := Opcode.isBranch_of_isPlain plain
    refine ⟨[], (List.append_nil _).symm, ?_⟩
    exact (branchCells_push (emit_instructions opcode operands)).trans (by
      rw [show (Instruction.of _ opcode operands).opcode = opcode from rfl, falls]; rfl)
  | read field raw position register operand cached =>
    exact ⟨[], (List.append_nil _).symm, branchCells_push (emit_instructions _ _)⟩
  | @branch code pending opcode branches =>
    refine ⟨[code.newTarget.1], positions_push _ (newOperand_arena _), ?_⟩
    refine (branchCells_push (emit_instructions opcode _)).trans ?_
    rw [show (Instruction.of _ opcode [code.newTarget.1]).opcode = opcode from rfl, branches]
    rfl
  | resolve targets =>
    exact ⟨[], (cells_resolve targets).trans (List.append_nil _).symm,
      by rw [List.append_nil]; exact branchCells_congr (resolve_instructions targets)⟩
  | note _ _ _ => exact ⟨[], (List.append_nil _).symm, (List.append_nil _).symm⟩

/-- **A step keeps the pending targets at the end of the unresolved ones.** -/
theorem Step.unresolvedCells {start stop : Code × List Handle} (step : Step start stop)
    {earlier : List Handle} (split : start.1.unresolvedCells = earlier ++ start.2) :
    stop.1.unresolvedCells = earlier ++ stop.2 := by
  cases step with
  | operand operand noTarget noRegister =>
    have settled : operand.isPending = false := by
      simp [Operand.isPending, Operand.isResolved, noTarget]
    refine (positions_push _ (newOperand_arena operand)).trans ?_
    rw [settled]
    exact (List.append_nil _).trans split
  | register =>
    exact (positions_push _ newRegister_arena).trans ((List.append_nil _).trans split)
  | load field raw first =>
    exact (positions_push _ newRegister_arena).trans ((List.append_nil _).trans split)
  | emit opcode operands plain count values => exact split
  | read field raw position register operand cached => exact split
  | @branch code pending opcode branches =>
    refine (positions_push _ (newOperand_arena _)).trans ?_
    rw [← List.append_assoc, ← split]
    rfl
  | @resolve code pending targets =>
    have distinct : (earlier ++ (pending ++ targets)).Nodup := split ▸ nodup_positions _
    rw [← List.append_assoc] at distinct
    rw [unresolvedCells_resolve, split, ← List.append_assoc, List.filter_append]
    have apart := List.nodup_append.mp distinct
    have kept : (earlier ++ pending).filter (fun cell => cell ∉ targets) = earlier ++ pending :=
      List.filter_eq_self.mpr fun cell member => by
        simpa using fun inside => apart.2.2 cell member cell inside rfl
    have dropped : targets.filter (fun cell => cell ∉ targets) = [] :=
      List.filter_eq_nil_iff.mpr fun cell member => by simp [member]
    rw [kept, dropped, List.append_nil]
  | note _ _ _ => exact split

/-- Every branch from an instruction on has a jump target that is not resolved yet or that lies
behind the branch and inside the code. -/
def ForwardFrom (code : Code) (since : Nat) : Prop :=
  ∀ (index : Nat) (instruction : Instruction), since ≤ index →
    code.instructions[index]? = some instruction → instruction.opcode.isBranch = true →
    ∃ (position : Nat) (number : Int), instruction.first = position ∧
      code.arena[position]? = some (.target number) ∧
      (number = unresolved ∨ ((index : Int) < number ∧ number ≤ code.instructions.size))

/-- Branches stay forward when the code is extended by something that is no branch. -/
theorem ForwardFrom.extend {since : Nat} (forward : before.ForwardFrom since)
    (grown : before.Extends after)
    (added : ∀ (index : Nat) (instruction : Instruction),
      after.instructions[index]? = some instruction → instruction.opcode.isBranch = true →
      before.instructions[index]? = some instruction) : after.ForwardFrom since := by
  intro index instruction late found branches
  obtain ⟨position, number, first, operand, bound⟩ :=
    forward index instruction late (added index instruction found branches) branches
  refine ⟨position, number, first, grown.operand operand, bound.imp_right fun inside => ?_⟩
  exact ⟨inside.1, Int.le_trans inside.2 (Int.ofNat_le.mpr grown.instructions_size)⟩

/-- **A step keeps branches forward.** -/
theorem Step.forward {start stop : Code × List Handle} (step : Step start stop) {since : Nat}
    (forward : start.1.ForwardFrom since) : stop.1.ForwardFrom since := by
  cases step with
  | operand operand noTarget noRegister =>
    exact forward.extend (.newOperand operand) fun _ _ found _ => found
  | register => exact forward.extend .newRegister fun _ _ found _ => found
  | load field raw first =>
    exact (forward.extend .newRegister fun _ _ found _ => found :)
  | emit opcode operands plain count values =>
    have falls := Opcode.isBranch_of_isPlain plain
    refine forward.extend (.emit opcode operands) fun index instruction found branches => ?_
    rcases getElem?_of_push found with old | ⟨_, rfl⟩
    · exact old
    · rw [show (Instruction.of _ opcode operands).opcode = opcode from rfl, falls] at branches
      cases branches
  | read field raw position register operand cached =>
    refine forward.extend (.emit _ _) fun index instruction found branches => ?_
    rcases getElem?_of_push found with old | ⟨_, rfl⟩
    · exact old
    · cases branches
  | @branch code pending opcode branches =>
    intro index instruction late found _
    rcases getElem?_of_push found with old | ⟨_, rfl⟩
    · have grown : code.Extends (code.newTarget.2.emit opcode [code.newTarget.1]) :=
        (Extends.newOperand _).trans (.emit _ _)
      obtain ⟨position, number, first, operand, bound⟩ :=
        forward index instruction late old ‹_›
      refine ⟨position, number, first, grown.operand operand, bound.imp_right fun inside => ?_⟩
      exact ⟨inside.1, Int.le_trans inside.2 (Int.ofNat_le.mpr grown.instructions_size)⟩
    · exact ⟨code.arena.size, unresolved, rfl, Array.getElem?_push_size, .inl rfl⟩
  | @resolve code pending targets =>
    intro index instruction late found branches
    rw [resolve_instructions] at found
    obtain ⟨position, number, first, operand, bound⟩ := forward index instruction late found branches
    have inside := (Array.getElem?_eq_some_iff.mp found).1
    by_cases member : (position : Int) ∈ targets
    · refine ⟨position, code.instructions.size, first, ?_, .inr ⟨by omega, by simp⟩⟩
      rw [arena_resolve, if_pos member, operand]
      rfl
    · refine ⟨position, number, first, ?_, by simpa using bound⟩
      rw [arena_resolve, if_neg member]
      exact operand
  | note _ _ _ => exact forward

/-! ### A run -/

theorem Steps.cells {start stop : Code × List Handle} (steps : Steps start stop) :
    ∃ new, stop.1.cells = start.1.cells ++ new ∧
      stop.1.branchCells = start.1.branchCells ++ new := by
  induction steps with
  | refl => exact ⟨[], (List.append_nil _).symm, (List.append_nil _).symm⟩
  | tail _ step ih =>
    obtain ⟨old, cells, branches⟩ := ih
    obtain ⟨new, moreCells, moreBranches⟩ := step.cells
    refine ⟨old ++ new, ?_, ?_⟩
    · rw [moreCells, cells, List.append_assoc]
    · rw [moreBranches, branches, List.append_assoc]

theorem Steps.unresolvedCells {start stop : Code × List Handle} (steps : Steps start stop)
    {earlier : List Handle} (split : start.1.unresolvedCells = earlier ++ start.2) :
    stop.1.unresolvedCells = earlier ++ stop.2 := by
  induction steps with
  | refl => exact split
  | tail _ step ih => exact step.unresolvedCells ih

theorem Steps.forward {start stop : Code × List Handle} (steps : Steps start stop) {since : Nat}
    (forward : start.1.ForwardFrom since) : stop.1.ForwardFrom since := by
  induction steps with
  | refl => exact forward
  | tail _ step ih => exact step.forward ih

/-! ### Resolving pending targets succeeds -/

/-- **Distinct unresolved targets can be resolved.** -/
theorem fixup_eq_resolve {targets : List Handle} (distinct : targets.Nodup)
    (waiting : ∀ target ∈ targets, target ∈ code.unresolvedCells) :
    code.fixup targets = (code.resolve targets, none) := by
  induction targets generalizing code with
  | nil => rfl
  | cons target targets ih =>
    obtain ⟨position, operand, rfl, found, waits⟩ :=
      mem_positions.mp (waiting target List.mem_cons_self)
    have same : code.operand (position : Int) = .target unresolved :=
      (operandAt_eq found).trans (Operand.eq_of_isPending waits)
    have rest := List.nodup_cons.mp distinct
    unfold fixup
    rw [same]
    refine (ih rest.2 fun later member => ?_).trans ?_
    · have kept : later ∈ (code.resolve [(position : Int)]).unresolvedCells := by
        rw [unresolvedCells_resolve]
        refine List.mem_filter.mpr ⟨waiting later (List.mem_cons_of_mem _ member), ?_⟩
        have different : later ≠ position := fun equal => rest.1 (equal ▸ member)
        simp [different]
      exact kept
    · rfl

/-- The pending targets of a run are distinct and unresolved. -/
theorem Steps.pending_unresolved (steps : Steps (before, []) (after, pending)) :
    pending.Nodup ∧ ∀ target ∈ pending, target ∈ after.unresolvedCells := by
  have split : after.unresolvedCells = before.unresolvedCells ++ pending :=
    steps.unresolvedCells (List.append_nil _).symm
  refine ⟨?_, fun target member => ?_⟩
  · have distinct : (before.unresolvedCells ++ pending).Nodup := split ▸ nodup_positions _
    exact (List.nodup_append.mp distinct).2.1
  · rw [split]
    exact List.mem_append_right _ member

/-- **Resolving the targets that a run has left pending does not break off.** -/
theorem Steps.fixup (steps : Steps (before, []) (code, pending)) :
    Gen.fixup pending code = .ok ((), code.resolve pending) := by
  obtain ⟨distinct, waiting⟩ := steps.pending_unresolved
  unfold Gen.fixup
  rw [fixup_eq_resolve distinct waiting]

theorem Steps.yields_fixup (steps : Steps (before, []) (code, pending)) {β : Type}
    {next : Unit → Gen β} {post : β → Code → Prop} {broken : Violation → Prop} :
    Gen.Yields (Gen.fixup pending >>= next) code post broken =
      Gen.Yields (next ()) (code.resolve pending) post broken := by
  unfold Gen.Yields
  simp only [Bind.bind, StateT.bind, Except.bind, steps.fixup]

theorem Steps.yields_fixup_last (steps : Steps (before, []) (code, pending))
    {post : Unit → Code → Prop} {broken : Violation → Prop} :
    Gen.Yields (Gen.fixup pending) code post broken = post () (code.resolve pending) := by
  unfold Gen.Yields
  simp only [steps.fixup]

end Code

end DisplayFilter
