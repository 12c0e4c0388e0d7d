/-
**Registers that hold what was computed.**

An instruction that can fail is followed by a branch that is taken if it does; an instruction
*settles* a register where that branch stands, or at once if it cannot fail. A settled register is
*alive* while no branch that stands before leads behind the instruction, and a reader is *supplied*
if all such branches lead behind the reader.

* `Code.Settles`, `Code.Alive`, `Code.Supplied`: the three notions.
* `Code.Alive.extend`: a register stays alive while nothing pending is resolved.
* `Code.Alive.supplied`: what is alive can be read next.
* `Code.Supplied.later`: a reader stays supplied, whatever is generated behind it.
-/

import DisplayFilter.Proofs.Generation.Shape
import DisplayFilter.Proofs.Program.Flow

namespace DisplayFilter.Code

variable {code before after : Code} {pending : List Handle} {number : Int} {index last : Nat}

/-! ### What later code keeps -/

theorem Has.keep {handle : Handle} {operand : Operand} (has : before.Has handle operand)
    (kept : before.Keeps after) (plain : operand.isTarget = false) : after.Has handle operand := by
  obtain ⟨position, same, found⟩ := has
  exact ⟨position, same, kept.operand found plain⟩

theorem Has.extend {handle : Handle} {operand : Operand} (has : before.Has handle operand)
    (grown : before.Extends after) : after.Has handle operand := by
  obtain ⟨position, same, found⟩ := has
  exact ⟨position, same, grown.operand found⟩

theorem has_newOperand (code : Code) (operand : Operand) :
    (code.newOperand operand).2.Has code.arena.size operand :=
  ⟨code.arena.size, rfl, Array.getElem?_push_size⟩

theorem has_newRegister (code : Code) :
    code.newRegister.2.Has code.arena.size (.register code.registers) :=
  ⟨code.arena.size, rfl, Array.getElem?_push_size⟩

/-- Instructions stay where they are. -/
def Continues (before after : Code) : Prop :=
  ∀ (index : Nat) (instruction : Instruction), before.instructions[index]? = some instruction →
    after.instructions[index]? = some instruction

theorem Extends.continues (grown : before.Extends after) : before.Continues after :=
  fun _ _ => grown.instruction

/-- An early instruction of later code is one of the code before. -/
theorem Continues.back (continues : before.Continues after) {instruction : Instruction}
    (found : after.instructions[index]? = some instruction)
    (early : index < before.instructions.size) :
    before.instructions[index]? = some instruction := by
  have here := Array.getElem?_eq_getElem early
  rw [here, ← continues _ _ here, found]

theorem Continues.size_le (continues : before.Continues after) :
    before.instructions.size ≤ after.instructions.size := by
  by_contra shrunk
  have found := continues _ _ (Array.getElem?_eq_getElem (Nat.lt_of_not_le shrunk))
  have inside := (Array.getElem?_eq_some_iff.mp found).1
  omega

theorem Extends.emitJump (code : Code) : code.Extends code.emitJump.2 :=
  (Extends.newOperand _).trans (.emit _ _)

/-- **A step adds to the code or resolves pending targets.** -/
theorem Step.grows {start stop : Code × List Handle} (step : Step start stop) :
    start.1.Extends stop.1 ∨
      ∃ targets, (∀ target ∈ targets, target ∈ start.2) ∧ stop.1 = start.1.resolve targets := by
  cases step with
  | operand operand _ _ => exact .inl (.newOperand operand)
  | register => exact .inl .newRegister
  | load field raw first =>
    exact .inl ((Step.load field raw first).extends (.refl _) (List.forall_mem_nil _)).1
  | emit opcode operands _ _ _ => exact .inl (.emit opcode operands)
  | read _ _ _ _ _ _ => exact .inl (.emit _ _)
  | branch opcode _ => exact .inl ((Extends.newOperand _).trans (.emit opcode _))
  | resolve targets => exact .inr ⟨targets, fun _ => List.mem_append_right _, rfl⟩
  | note _ _ _ => exact .inl ⟨id, id, Nat.le_refl _, id⟩

theorem Step.continues {start stop : Code × List Handle} (step : Step start stop) :
    start.1.Continues stop.1 := by
  intro index instruction found
  rcases step.grows with grown | ⟨targets, _, same⟩
  · exact grown.instruction found
  · rw [same, resolve_instructions]
    exact found

theorem Steps.continues {start stop : Code × List Handle} (steps : Steps start stop) :
    start.1.Continues stop.1 := by
  induction steps with
  | refl => exact fun _ _ => id
  | tail _ step ih => exact fun _ _ found => step.continues _ _ (ih _ _ found)

/-- A step keeps the operands, up to the numbers of jump targets. -/
theorem Step.keeps {start stop : Code × List Handle} (step : Step start stop)
    (targets : ∀ target ∈ start.2, start.1.HoldsTarget target) : start.1.Keeps stop.1 := by
  rcases step.grows with grown | ⟨resolved, waiting, same⟩
  · exact grown.keeps
  · rw [same]
    exact keeps_resolve fun target member => targets target (waiting target member)

theorem Keeps.refl (code : Code) : code.Keeps code :=
  ⟨fun found _ => found, fun found => ⟨_, found⟩, id⟩

theorem Keeps.trans {middle : Code} (first : before.Keeps middle) (second : middle.Keeps after) :
    before.Keeps after := by
  refine ⟨fun found plain => second.operand (first.operand found plain) plain, fun found => ?_,
    fun found => second.cached (first.cached found)⟩
  obtain ⟨later, there⟩ := first.target found
  exact second.target there

theorem Steps.keeps {start stop : Code × List Handle} (steps : Steps start stop)
    (sound : start.1.Sound start.2) : start.1.Keeps stop.1 := by
  induction steps with
  | refl => exact .refl _
  | tail run step ih => exact ih.trans (step.keeps (Steps.sound run sound).targets)

/-- The slots of an instruction are empty or hold operands. -/
theorem Fits.holds {instruction : Instruction} (fits : code.Fits index instruction)
    (caches : code.CachesRegisters) {slot : Nat} {handle : Handle}
    (held : instruction.slots[slot]? = some handle) :
    handle = noOperand ∨ ∃ operand, code.Has handle operand := by
  have value : ∀ {handle : Handle}, code.HoldsValue handle → ∃ operand, code.Has handle operand :=
    fun ⟨position, operand, same, found, _⟩ => ⟨operand, position, same, found⟩
  cases fits with
  | plain opcode operands free count values =>
    exact (Instruction.slots_of held).imp_right fun found =>
      value (values handle (List.mem_of_getElem? found))
  | read field raw position register operand cached =>
    refine (Instruction.slots_of held).imp_right fun found => ?_
    rcases List.mem_cons.mp (List.mem_of_getElem? found) with rfl | second
    · exact ⟨_, position, rfl, operand⟩
    · rw [List.mem_singleton.mp second]
      exact value (caches.holdsValue cached)
  | branch opcode target branches cell =>
    refine (Instruction.slots_of held).imp_right fun found => ?_
    rw [List.mem_singleton.mp (List.mem_of_getElem? found)]
    obtain ⟨position, number, same, there⟩ := cell
    exact ⟨_, position, same, there⟩

/-- A register of later code, where there was an operand, was that register before. -/
theorem Keeps.has_back (kept : before.Keeps after) {handle : Handle} {operand : Operand}
    (has : before.Has handle operand) (later : after.Has handle (.register number)) :
    before.Has handle (.register number) := by
  by_cases target : operand.isTarget = true
  · obtain ⟨content, cell⟩ := operand
    cases content <;> cases target
    obtain ⟨position, same, found⟩ := has
    obtain ⟨moved, there⟩ := kept.target found
    cases later.unique ⟨position, same, there⟩
  · rw [Bool.not_eq_true] at target
    rw [later.unique (has.keep kept target)]
    exact has

/-- The registers of an instruction were its registers before. -/
theorem Sound.register_back (sound : before.Sound pending) (kept : before.Keeps after)
    {instruction : Instruction} (found : before.instructions[index]? = some instruction)
    {slot : Nat} {handle : Handle} (held : instruction.slots[slot]? = some handle)
    (later : after.Has handle (.register number)) : before.Has handle (.register number) := by
  rcases (sound.shaped index instruction found).holds sound.numbered.caches held with
    unused | ⟨operand, has⟩
  · obtain ⟨position, same, _⟩ := later
    rw [unused] at same
    cases same
  · exact kept.has_back has later

/-! ### Where branches lead -/

/-- Branches go forward and not past the end of the code. -/
theorem ForwardFrom.leads_bound {target : Nat} (forward : code.ForwardFrom 0)
    (leads : code.Leads index target) : index < target ∧ target ≤ code.instructions.size := by
  obtain ⟨instruction, found, branches, has⟩ := leads
  obtain ⟨position, number, first, cell, bound⟩ :=
    forward index instruction (Nat.zero_le _) found branches
  cases (has.unique ⟨position, first, cell⟩ :)
  unfold unresolved at bound
  omega

/-- A branch of later code, where it was there before, has a jump target that was there before. -/
theorem ForwardFrom.cell {instruction : Instruction} (forward : before.ForwardFrom 0)
    (continues : before.Continues after) (found : after.instructions[index]? = some instruction)
    (branches : instruction.opcode.isBranch = true) (early : index < before.instructions.size) :
    ∃ number, before.instructions[index]? = some instruction ∧
      before.Has instruction.first (.target number) := by
  have here := continues.back found early
  obtain ⟨position, number, first, cell, _⟩ :=
    forward index instruction (Nat.zero_le _) here branches
  exact ⟨number, here, position, first, cell⟩

/-- While nothing is resolved, a branch leads to where it did. -/
theorem Leads.back {target : Nat} (leads : after.Leads index target)
    (grown : before.Extends after) (forward : before.ForwardFrom 0)
    (early : index < before.instructions.size) : before.Leads index target := by
  obtain ⟨instruction, found, branches, has⟩ := leads
  obtain ⟨number, here, cell⟩ := forward.cell grown.continues found branches early
  refine ⟨instruction, here, branches, ?_⟩
  rw [has.unique (cell.extend grown)]
  exact cell

/-- **A branch leads to where it did, or is resolved to an instruction behind the code.** -/
theorem Step.leads {start stop : Code × List Handle} (step : Step start stop) {target : Nat}
    (forward : start.1.ForwardFrom 0) (early : index < start.1.instructions.size)
    (leads : stop.1.Leads index target) :
    start.1.Leads index target ∨ start.1.instructions.size ≤ target := by
  rcases step.grows with grown | ⟨targets, _, same⟩
  · exact .inl (leads.back grown forward early)
  · obtain ⟨instruction, found, branches, has⟩ := leads
    obtain ⟨number, here, position, first, cell⟩ :=
      forward.cell step.continues found branches early
    have there : stop.1.arena[position]? = some (.target target) := by
      obtain ⟨place, equal, held⟩ := has
      rw [Int.ofNat.inj (first.symm.trans equal)]
      exact held
    rw [same, arena_resolve] at there
    split at there
    · rw [cell] at there
      cases there
      exact .inr (Nat.le_refl _)
    · exact .inl ⟨instruction, here, branches, position, first, there⟩

theorem Steps.leads {start stop : Code × List Handle} (steps : Steps start stop) {target : Nat}
    (forward : start.1.ForwardFrom 0) (early : index < start.1.instructions.size)
    (leads : stop.1.Leads index target) :
    start.1.Leads index target ∨ start.1.instructions.size ≤ target := by
  induction steps with
  | refl => exact .inl leads
  | tail run step ih =>
    have longer := (Steps.continues run).size_le
    rcases step.leads (Steps.forward run forward) (by omega) leads with before | behind
    · exact ih before
    · exact .inr (Nat.le_trans longer behind)

/-! ### Settled registers -/

/-- A register has what the instruction at the index computes once `last` is passed: the instruction
itself if it cannot fail, and otherwise the branch that tells its failure. -/
inductive Settles (code : Code) (number : Int) (index : Nat) : Nat → Prop
  | sure {instruction : Instruction} (writes : code.WritesTo index number)
      (found : code.instructions[index]? = some instruction)
      (sure : instruction.opcode.guardDistance? = none) : Settles code number index index
  | guarded {instruction branch : Instruction} {distance : Nat} (writes : code.WritesTo index number)
      (found : code.instructions[index]? = some instruction)
      (fails : instruction.opcode.guardDistance? = some distance)
      (there : code.instructions[index + distance]? = some branch)
      (guards : branch.opcode = .ifFalseGoto) : Settles code number index (index + distance)

theorem WritesTo.keep (writes : before.WritesTo index number) (kept : before.Keeps after)
    (continues : before.Continues after) : after.WritesTo index number := by
  obtain ⟨instruction, slot, handle, found, result, held, has⟩ := writes
  exact ⟨instruction, slot, handle, continues _ _ found, result, held, has.keep kept rfl⟩

theorem WritesTo.back (writes : after.WritesTo index number) (sound : before.Sound pending)
    (kept : before.Keeps after) (continues : before.Continues after)
    (early : index < before.instructions.size) : before.WritesTo index number := by
  obtain ⟨instruction, slot, handle, found, result, held, has⟩ := writes
  have here := continues.back found early
  exact ⟨instruction, slot, handle, here, result, held, sound.register_back kept here held has⟩

theorem ReadsFrom.back (reads : after.ReadsFrom index number) (sound : before.Sound pending)
    (kept : before.Keeps after) (continues : before.Continues after)
    (early : index < before.instructions.size) : before.ReadsFrom index number := by
  obtain ⟨instruction, slot, handle, found, source, held, has⟩ := reads
  have here := continues.back found early
  exact ⟨instruction, slot, handle, here, source, held, sound.register_back kept here held has⟩

theorem ReadsPlainly.keep {field : Field} {raw : Bool} (reads : before.ReadsPlainly index field raw)
    (kept : before.Keeps after) (continues : before.Continues after) :
    after.ReadsPlainly index field raw := by
  obtain ⟨instruction, found, opcode, has⟩ := reads
  exact ⟨instruction, continues _ _ found, opcode, has.keep kept rfl⟩

namespace Settles

theorem keep (settles : before.Settles number index last) (kept : before.Keeps after)
    (continues : before.Continues after) : after.Settles number index last := by
  cases settles with
  | sure writes found sure => exact .sure (writes.keep kept continues) (continues _ _ found) sure
  | guarded writes found fails there guards =>
    exact .guarded (writes.keep kept continues) (continues _ _ found) fails
      (continues _ _ there) guards

theorem writes (settles : code.Settles number index last) : code.WritesTo index number := by
  cases settles <;> assumption

theorem le (settles : code.Settles number index last) : index ≤ last := by
  cases settles <;> omega

theorem lt_size (settles : code.Settles number index last) : last < code.instructions.size := by
  cases settles with
  | sure writes found sure => exact (Array.getElem?_eq_some_iff.mp found).1
  | guarded writes found fails there guards => exact (Array.getElem?_eq_some_iff.mp there).1

end Settles

/-- A register that may be read: no branch leads behind the instruction that settles it without
having passed it. -/
def Alive (code : Code) (number : Int) : Prop :=
  ∃ index last, code.Settles number index last ∧
    ∀ branch target, branch ≤ last → code.Leads branch target → target ≤ index

/-- A register that is settled on every way to a reader: each branch before leads to the instruction
that settles it at most, or behind the reader. -/
def Supplied (code : Code) (number : Int) (reader : Nat) : Prop :=
  ∃ index last, code.Settles number index last ∧ last < reader ∧
    ∀ branch target, branch ≤ last → code.Leads branch target → target ≤ index ∨ reader < target

/-- **A register stays alive while nothing pending is resolved.** -/
theorem Alive.extend (alive : before.Alive number) (grown : before.Extends after)
    (forward : before.ForwardFrom 0) : after.Alive number := by
  obtain ⟨index, last, settles, entered⟩ := alive
  refine ⟨index, last, settles.keep grown.keeps grown.continues, fun branch target early leads => ?_⟩
  have inside := settles.lt_size
  exact entered branch target early (leads.back grown forward (by omega))

/-- What is alive can be read by what is emitted next. -/
theorem Alive.supplied (alive : before.Alive number) (grown : before.Extends after)
    (forward : before.ForwardFrom 0) : after.Supplied number before.instructions.size := by
  obtain ⟨index, last, settles, entered⟩ := alive
  have inside := settles.lt_size
  refine ⟨index, last, settles.keep grown.keeps grown.continues, inside,
    fun branch target early leads => .inl ?_⟩
  exact entered branch target early (leads.back grown forward (by omega))

/-- **A reader stays supplied, whatever is generated behind it.** -/
theorem Supplied.later {reader : Nat} (supplied : before.Supplied number reader)
    (kept : before.Keeps after) (continues : before.Continues after)
    (leads : ∀ branch target, branch < before.instructions.size → after.Leads branch target →
      before.Leads branch target ∨ before.instructions.size ≤ target)
    (inside : reader < before.instructions.size) : after.Supplied number reader := by
  obtain ⟨index, last, settles, early, entered⟩ := supplied
  refine ⟨index, last, settles.keep kept continues, early, fun branch target low goes => ?_⟩
  rcases leads branch target (by omega) goes with before | behind
  · exact entered branch target low before
  · exact .inr (by omega)

/-- A register that was just settled is alive, if no branch was emitted since that is resolved. -/
theorem alive_of_new (forward : before.ForwardFrom 0) (grown : before.Extends after)
    (settles : after.Settles number before.instructions.size last)
    (fresh : ∀ branch target, before.instructions.size ≤ branch → branch ≤ last →
      ¬ after.Leads branch target) : after.Alive number := by
  refine ⟨before.instructions.size, last, settles, fun branch target early leads => ?_⟩
  rcases Nat.lt_or_ge branch before.instructions.size with old | new
  · exact (forward.leads_bound (leads.back grown forward old)).2
  · exact absurd leads (fresh branch target new early)

/-! ### New results -/

/-- The operands of an instruction are in its slots. -/
theorem slots_of_operand {id : Int} {opcode : Opcode} {operands : List Handle} {slot : Nat}
    {handle : Handle} (found : operands[slot]? = some handle) (small : slot < 3) :
    (Instruction.of id opcode operands).slots[slot]? = some handle := by
  match slot with
  | 0 => simp [Instruction.slots, Instruction.of, found]
  | 1 => simp [Instruction.slots, Instruction.of, found]
  | 2 => simp [Instruction.slots, Instruction.of, found]

theorem resultSlot?_lt {opcode : Opcode} {slot : Nat} (result : opcode.resultSlot? = some slot) :
    slot < 3 := by
  cases opcode <;> cases result <;> decide

theorem not_isBranch_of_resultSlot? {opcode : Opcode} {slot : Nat}
    (result : opcode.resultSlot? = some slot) : opcode.isBranch = false := by
  cases opcode <;> cases result <;> rfl

/-- The instruction that was just emitted writes to the register in its slot. -/
theorem writesTo_emit {opcode : Opcode} {operands : List Handle} {slot : Nat} {handle : Handle}
    (result : opcode.resultSlot? = some slot) (held : operands[slot]? = some handle)
    (has : code.Has handle (.register number)) :
    (code.emit opcode operands).WritesTo code.instructions.size number :=
  ⟨_, slot, handle, Array.getElem?_push_size, result,
    slots_of_operand held (resultSlot?_lt result), has⟩

/-- The result of an instruction that cannot fail is alive at once. -/
theorem alive_emit (forward : code.ForwardFrom 0) {opcode : Opcode} {operands : List Handle}
    {slot : Nat} {handle : Handle} (result : opcode.resultSlot? = some slot)
    (held : operands[slot]? = some handle) (has : code.Has handle (.register number))
    (sure : opcode.guardDistance? = none) : (code.emit opcode operands).Alive number := by
  refine alive_of_new forward (.emit opcode operands)
    (.sure (writesTo_emit result held has) Array.getElem?_push_size sure) ?_
  rintro branch target new early ⟨instruction, found, branches, _⟩
  rw [emit_instructions, Nat.le_antisymm early new, Array.getElem?_push_size] at found
  cases found
  exact absurd branches (by rw [show (Instruction.of _ opcode operands).opcode = opcode from rfl,
    not_isBranch_of_resultSlot? result]; exact Bool.false_ne_true)

/-- **A result that can fail is alive behind its branch.** Between the instruction and the branch
there is no other branch. -/
theorem alive_guarded {middle : Code} {instruction : Instruction} {distance : Nat}
    (forward : code.ForwardFrom 0) (grown : code.Extends middle)
    (writes : middle.WritesTo code.instructions.size number)
    (found : middle.instructions[code.instructions.size]? = some instruction)
    (fails : instruction.opcode.guardDistance? = some distance)
    (reached : middle.instructions.size = code.instructions.size + distance)
    (straight : ∀ (index : Nat) (instruction : Instruction), code.instructions.size ≤ index →
      middle.instructions[index]? = some instruction → instruction.opcode.isBranch = false) :
    middle.emitJump.2.Alive number := by
  have further := Extends.emitJump middle
  have guard : middle.emitJump.2.instructions[code.instructions.size + distance]? =
      some (.of middle.instructions.size .ifFalseGoto [middle.newTarget.1]) := by
    rw [← reached]
    exact Array.getElem?_push_size
  refine alive_of_new forward (grown.trans further)
    (.guarded (writes.keep further.keeps further.continues) (further.instruction found) fails guard
      rfl) ?_
  rintro branch target new early ⟨other, there, branches, has⟩
  rcases Nat.lt_or_eq_of_le early with before | rfl
  · have old := further.continues.back there (by omega)
    rw [straight branch other new old] at branches
    cases branches
  · cases guard.symm.trans there
    have cell := (has_newOperand middle (.target unresolved)).extend
      (.emit .ifFalseGoto [middle.newTarget.1])
    have same : Operand.target target = Operand.target unresolved := has.unique cell
    have number : (target : Int) = -1 := congrArg Operand.number same
    omega

/-- Behind a single instruction that can fail. -/
theorem alive_emitJump (forward : code.ForwardFrom 0) {opcode : Opcode} {operands : List Handle}
    {slot : Nat} {handle : Handle} (result : opcode.resultSlot? = some slot)
    (held : operands[slot]? = some handle) (has : code.Has handle (.register number))
    (fails : opcode.guardDistance? = some 1) :
    (code.emit opcode operands).emitJump.2.Alive number := by
  refine alive_guarded forward (.emit opcode operands) (writesTo_emit result held has)
    Array.getElem?_push_size fails (Array.size_push _) fun index instruction new found => ?_
  rcases getElem?_of_push found with old | ⟨_, rfl⟩
  · have inside := (Array.getElem?_eq_some_iff.mp old).1
    omega
  · exact not_isBranch_of_resultSlot? result

/-! ### Operands that may be read -/

/-- An operand that is no jump target, and whose register is alive if it is one. -/
def Gives (code : Code) (handle : Handle) : Prop :=
  code.HoldsValue handle ∧ ∀ number, code.Has handle (.register number) → code.Alive number

theorem Gives.extend {handle : Handle} (gives : before.Gives handle) (grown : before.Extends after)
    (forward : before.ForwardFrom 0) : after.Gives handle := by
  refine ⟨grown.holdsValue gives.1, fun number has => ?_⟩
  obtain ⟨position, operand, same, found, plain⟩ := gives.1
  have there : before.Has handle operand := ⟨position, same, found⟩
  cases has.unique (there.extend grown)
  exact (gives.2 number there).extend grown forward

/-- An operand other than a register may be read. -/
theorem Has.gives {handle : Handle} {operand : Operand} (has : code.Has handle operand)
    (noTarget : operand.isTarget = false) (noRegister : operand.isRegister = false) :
    code.Gives handle := by
  refine ⟨?_, fun number also => ?_⟩
  · obtain ⟨position, same, found⟩ := has
    exact ⟨position, operand, same, found, noTarget⟩
  · rw [has.unique also] at noRegister
    cases noRegister

theorem Alive.gives {handle : Handle} (alive : code.Alive number)
    (has : code.Has handle (.register number)) : code.Gives handle := by
  refine ⟨?_, fun other also => ?_⟩
  · obtain ⟨position, same, found⟩ := has
    exact ⟨position, _, same, found, rfl⟩
  · cases has.unique also
    exact alive

end DisplayFilter.Code
