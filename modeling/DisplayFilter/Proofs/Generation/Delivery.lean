/-
**Where the value of a node is found.**

A literal is an operand of its own and has no code. The code of any other value leaves results in
registers, the last of them for the value itself: what may follow in it is the removal of arguments and
branches. Whoever takes the value over names that register.

* `Code.LastResult`: the register of the last result between two indices.
* `Code.ValueOf`, `Code.Delivers`: the operand that stands for the value of a node.
* `Code.KeepsResults`: code in which the results before an index are as they were.
-/

import DisplayFilter.Proofs.Generation.Plan
import DisplayFilter.Proofs.Generation.Supply

namespace DisplayFilter.Code

variable {code before after : Code} {handle : Handle} {start stop : Nat}

/-! ### Last results -/

/-- The handle is one of the register that the last instruction with a result between two indices
writes to. -/
def LastResult (code : Code) (start stop : Nat) (handle : Handle) : Prop :=
  ∃ (number : Int) (writer : Nat), code.Has handle (.register number) ∧
    code.WritesTo writer number ∧ start ≤ writer ∧ writer < stop ∧
    ∀ (later : Nat) (instruction : Instruction), writer < later → later < stop →
      code.instructions[later]? = some instruction → instruction.opcode.resultSlot? = none

/-- The result of an instruction that was just emitted. -/
theorem lastResult_emit {opcode : Opcode} {operands : List Handle} {slot : Nat} {number : Int}
    (has : code.Has handle (.register number)) (behind : start ≤ code.instructions.size)
    (result : opcode.resultSlot? = some slot) (held : operands[slot]? = some handle) :
    (code.emit opcode operands).LastResult start (code.emit opcode operands).instructions.size
      handle := by
  have size : (code.emit opcode operands).instructions.size = code.instructions.size + 1 :=
    Array.size_push _
  refine ⟨number, code.instructions.size, has.extend (.emit _ _), writesTo_emit result held has,
    behind, by omega, fun later _ further inside _ => ?_⟩
  omega

namespace LastResult

/-- Behind the last result there may come instructions without one. -/
theorem extend (last : before.LastResult start before.instructions.size handle)
    (grown : before.Extends after)
    (silent : ∀ (index : Nat) (instruction : Instruction), before.instructions.size ≤ index →
      after.instructions[index]? = some instruction → instruction.opcode.resultSlot? = none) :
    after.LastResult start after.instructions.size handle := by
  obtain ⟨number, writer, has, writes, behind, early, none⟩ := last
  have longer := grown.continues.size_le
  refine ⟨number, writer, has.extend grown, writes.keep grown.keeps grown.continues, behind,
    by omega, fun later instruction further _ found => ?_⟩
  rcases Nat.lt_or_ge later before.instructions.size with old | new
  · exact none later instruction further old (grown.continues.back found old)
  · exact silent later instruction new found

/-- Later code with the same instructions. -/
theorem same (last : before.LastResult start before.instructions.size handle)
    (grown : before.Extends after) (same : after.instructions = before.instructions) :
    after.LastResult start after.instructions.size handle := by
  refine last.extend grown fun index instruction new found => ?_
  rw [same] at found
  exact absurd (Array.getElem?_eq_some_iff.mp found).1 (Nat.not_lt.mpr new)

theorem newOperand (last : code.LastResult start code.instructions.size handle)
    (operand : Operand) : (code.newOperand operand).2.LastResult start
      (code.newOperand operand).2.instructions.size handle :=
  last.same (.newOperand operand) rfl

/-- An instruction without result. -/
theorem emit {opcode : Opcode} (last : code.LastResult start code.instructions.size handle)
    (operands : List Handle) (silent : opcode.resultSlot? = none) :
    (code.emit opcode operands).LastResult start (code.emit opcode operands).instructions.size
      handle := by
  refine last.extend (.emit _ _) fun index instruction new found => ?_
  rcases getElem?_of_push found with old | ⟨_, rfl⟩
  · exact absurd (Array.getElem?_eq_some_iff.mp old).1 (Nat.not_lt.mpr new)
  · exact silent

theorem emitJump (last : code.LastResult start code.instructions.size handle) :
    code.emitJump.2.LastResult start code.emitJump.2.instructions.size handle :=
  (last.newOperand _).emit _ rfl

end LastResult

/-! ### Values -/

/-- The operand that stands for the value of a node whose code is between two indices. -/
def ValueOf (code : Code) (node : Node) (start stop : Nat) (handle : Handle) : Prop :=
  match node with
  | .value constant => code.Has handle (.constant constant)
  | .pattern (some pattern) => code.Has handle (.pattern pattern)
  | _ => code.LastResult start stop handle

/-- The operand that stands for the value of a node whose code ends at an index. -/
def Delivers (code : Code) (address : Address) (node : Node) (stop : Nat) (handle : Handle) : Prop :=
  ∃ start, start + (Node.valuePlan address node).length = stop ∧
    code.ValueOf node start stop handle

/-! ### What later code keeps -/

/-- What instructions before an index leave in registers, they leave there in later code. -/
structure KeepsResults (before after : Code) (bound : Nat) : Prop where
  keeps : before.Keeps after
  writes : ∀ {index : Nat} {number : Int}, before.WritesTo index number →
    after.WritesTo index number
  results : ∀ {index : Nat} {instruction : Instruction}, index < bound →
    after.instructions[index]? = some instruction → instruction.opcode.resultSlot? ≠ none →
    before.instructions[index]? = some instruction

variable {bound : Nat}

theorem Keeps.keepsResults (kept : before.Keeps after) (continues : before.Continues after)
    (inside : bound ≤ before.instructions.size) : before.KeepsResults after bound :=
  ⟨kept, fun writes => writes.keep kept continues,
    fun early found _ => continues.back found (by omega)⟩

theorem Extends.keepsResults (grown : before.Extends after) :
    before.KeepsResults after before.instructions.size :=
  grown.keeps.keepsResults grown.continues (Nat.le_refl _)

/-- Resolving what a run has left pending changes no result. -/
theorem Steps.keepsResults {pending : List Handle} (steps : Steps (before, []) (after, pending)) :
    after.KeepsResults (after.resolve pending) after.instructions.size := by
  have kept : after.Keeps (after.resolve pending) := keeps_resolve fun target member => by
    obtain ⟨position, operand, rfl, found, waits⟩ :=
      mem_positions.mp (steps.pending_unresolved.2 target member)
    rw [Operand.eq_of_isPending waits] at found
    exact ⟨position, _, rfl, found⟩
  refine kept.keepsResults (fun index instruction found => ?_) (Nat.le_refl _)
  rw [resolve_instructions]
  exact found

section Keep

variable (kept : before.KeepsResults after bound) (inside : stop ≤ bound)
include kept inside

theorem LastResult.keep (last : before.LastResult start stop handle) :
    after.LastResult start stop handle := by
  obtain ⟨number, writer, has, writes, behind, early, silent⟩ := last
  refine ⟨number, writer, has.keep kept.keeps rfl, kept.writes writes, behind, early,
    fun later instruction further before found => ?_⟩
  by_contra result
  exact result (silent later instruction further before (kept.results (by omega) found result))

theorem ValueOf.keep {node : Node} (value : before.ValueOf node start stop handle) :
    after.ValueOf node start stop handle := by
  unfold ValueOf at value ⊢
  split at value
  · exact value.keep kept.keeps rfl
  · exact value.keep kept.keeps rfl
  · exact value.keep kept inside

theorem Delivers.keep {address : Address} {node : Node}
    (delivers : before.Delivers address node stop handle) :
    after.Delivers address node stop handle := by
  obtain ⟨start, length, value⟩ := delivers
  exact ⟨start, length, value.keep kept inside⟩

end Keep

end DisplayFilter.Code
