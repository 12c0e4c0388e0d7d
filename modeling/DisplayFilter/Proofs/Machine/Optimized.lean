/-
**Optimized programs do the same.**

A machine that runs a program and one that runs the optimized program go through the same states,
except that the second one leaves out instructions that change nothing on the way. A branch is
followed in the original program over the instructions that its target was advanced past: branches
whose outcome is known from the one that was taken, and reads of a field that was read just before
the branch. That the state really comes from that read is known because no branch of the optimized
program leads to a branch.

* `Machine.Settled`: at a branch behind a read, reading again changes nothing.
* `Machine.passes_reaches`: what a branch passes changes nothing.
* `Machine.optimize_reaches`: both programs reach the end in the same state.
* `optimize_returns`: a tree's program returns the same with and without optimization.
-/

import DisplayFilter.Proofs.Compiler.WellFormed
import DisplayFilter.Proofs.Machine.Run

namespace DisplayFilter

namespace Code

variable {code : Code} {last index : Nat} {result : Handle} {instruction : Instruction}

/-! ### Operands of optimized code -/

/-- An operand that is no jump target is the same in optimized code. -/
theorem Finished.operand_optimize (finished : code.Finished last result) {handle : Handle}
    (held : handle = noOperand ∨ code.HoldsValue handle) :
    code.optimize.1.operand handle = code.operand handle := by
  rcases held with rfl | ⟨position, operand, rfl, found, plain⟩
  · rfl
  · refine Threaded.operand_eq ?_
    rw [found]
    exact finished.threadable.optimize.operand_of_value finished.threadable found plain

/-- An instruction that does not branch has no jump targets. -/
theorem Finished.values (finished : code.Finished last result)
    (found : code.instructions[index]? = some instruction)
    (falls : instruction.opcode.isBranch = false) :
    ∀ handle ∈ instruction.slots, handle = noOperand ∨ code.HoldsValue handle := by
  intro handle member
  obtain ⟨slot, there⟩ := List.mem_iff_getElem?.mp member
  rcases finished.cases_found found with ⟨_, fits⟩ | ⟨_, rfl⟩
  · cases fits with
    | plain opcode operands free count values =>
      exact (Instruction.slots_of there).imp_right fun used =>
        values handle (List.mem_of_getElem? used)
    | read field raw position register operand cached =>
      refine (Instruction.slots_of there).imp_right fun used => ?_
      rcases List.mem_cons.mp (List.mem_of_getElem? used) with rfl | second
      · exact ⟨position, _, rfl, operand, rfl⟩
      · rw [List.mem_singleton.mp second]
        exact finished.numbered.caches.holdsValue cached
    | branch opcode target branches cell =>
      rw [show (Instruction.of _ opcode [target]).opcode = opcode from rfl, branches] at falls
      cases falls
  · rcases Instruction.slots_of there with unused | used
    · exact .inl unused
    · rw [List.mem_singleton.mp (List.mem_of_getElem? used)]
      exact finished.result

end Code

namespace Machine

variable {σ : Type} {machine : Machine σ} {code : Code} {last position : Nat} {result : Handle}
  {instruction : Instruction} {state : MachineState σ}

/-- Instructions that do not branch do the same in optimized code. -/
theorem perform_optimize (finished : code.Finished last result)
    (found : code.instructions[position]? = some instruction)
    (falls : instruction.opcode.isBranch = false) :
    machine.perform code.optimize.1.toProgram instruction state =
      machine.perform code.toProgram instruction state := by
  have same : ∀ handle ∈ instruction.slots,
      code.optimize.1.toProgram.operand handle = code.toProgram.operand handle :=
    fun handle member => finished.operand_optimize (finished.values found falls handle member)
  unfold perform
  rw [same instruction.first (by simp [Instruction.slots]),
    same instruction.second (by simp [Instruction.slots]),
    same instruction.third (by simp [Instruction.slots])]

/-! ### Reads -/

/-- What a read does: it reads its field into the register of the field. -/
theorem perform_read (finished : code.Finished last result)
    (found : code.instructions[position]? = some instruction)
    (reads : instruction.opcode = .readTree) :
    ∃ (field : Field) (raw : Bool) (register : Nat) (number : Int),
      code.cachedRegister? field raw = some (register : Int) ∧
      code.arena[register]? = some (.register number) ∧
      (code.operand instruction.second).number = number ∧
      ∀ state : MachineState σ, machine.perform code.toProgram instruction state =
        machine.act .readTree (.field field raw) (.register number) .none state := by
  obtain ⟨field, raw, place, register, number, rfl, operand, cached, held⟩ :=
    finished.read_found found reads
  have first : code.operand (place : Int) = .field field raw := operandAt_eq operand
  have second : code.operand (register : Int) = .register number := operandAt_eq held
  refine ⟨field, raw, register, number, cached, held, congrArg Operand.number second,
    fun state => ?_⟩
  show machine.act .readTree (code.operand (place : Int)) (code.operand (register : Int))
    (code.operand noOperand) state = _
  rw [first, second]
  rfl

/-- Reads into registers of one number are reads of one field. -/
theorem perform_read_congr (finished : code.Finished last result) {other : Nat}
    {again : Instruction} (found : code.instructions[position]? = some instruction)
    (reads : instruction.opcode = .readTree) (there : code.instructions[other]? = some again)
    (rereads : again.opcode = .readTree)
    (same : (code.operand instruction.second).number = (code.operand again.second).number) :
    machine.perform code.toProgram again state = machine.perform code.toProgram instruction state := by
  obtain ⟨field, raw, register, number, cached, held, second, acts⟩ :=
    perform_read finished found reads
  obtain ⟨field', raw', register', number', cached', held', second', acts'⟩ :=
    perform_read finished there rereads
  have numbers : number = number' := by rw [← second, same, second']
  subst numbers
  cases finished.numbered.distinct held held'
  obtain ⟨rfl, rfl⟩ := finished.numbered.owned cached cached'
  rw [acts, acts']

/-- At a branch behind a read, reading again changes nothing. -/
def Settled (machine : Machine σ) (code : Code) (position : Nat) (state : MachineState σ) : Prop :=
  ∀ branch before : Instruction, code.instructions[position]? = some branch →
    branch.opcode.isBranch = true → 0 < position →
    code.instructions[position - 1]? = some before → before.opcode = .readTree →
    machine.perform code.toProgram before state = state

/-! ### Following a branch -/

/-- The branch that is taken and its opposite. -/
theorem takes_opposite {opcode : Opcode} {flag : Bool} (takes : opcode.takes flag = true) :
    opcode.opposite.isBranch = true ∧ opcode.opposite.takes flag = false := by
  cases opcode <;> simp_all [Opcode.takes, Opcode.opposite, Opcode.isBranch]

/-- There are two branches. -/
theorem eq_or_opposite {opcode other : Opcode} (branches : opcode.isBranch = true)
    (also : other.isBranch = true) : other = opcode ∨ other = opcode.opposite := by
  cases opcode <;> cases branches <;> cases other <;> cases also <;> simp [Opcode.opposite]

/-- **What a branch passes changes nothing.** -/
theorem passes_reaches (finished : code.Finished last result) {branch : Instruction}
    (found : code.instructions[position]? = some branch)
    (branches : branch.opcode.isBranch = true) (takes : branch.opcode.takes state.flag = true)
    (settled : machine.Settled code position state) {target next : Int}
    (passes : code.Passes position branch.opcode target next) :
    machine.Reaches code.toProgram (target.toNat, state) (next.toNat, state) := by
  cases passes with
  | opposite target other there inverted =>
    obtain ⟨falls, stays⟩ := takes_opposite takes
    rw [← inverted] at falls stays
    exact reaches_next there falls stays
  | repeated target other there repeats =>
    unfold Code.repeatsRead at repeats
    simp only [Bool.and_eq_true, decide_eq_true_eq] at repeats
    obtain ⟨⟨rereads, behind⟩, repeats⟩ := repeats
    split at repeats
    · cases repeats
    · rename_i before earlier
      simp only [Bool.and_eq_true, decide_eq_true_eq] at repeats
      have idle : machine.perform code.toProgram other state = state := by
        rw [perform_read_congr finished earlier repeats.1 there rereads repeats.2]
        exact settled branch before found branches behind earlier repeats.1
      have runs : other.opcode ≠ .halt := by simp [rereads]
      have step := @reaches_perform σ machine code.toProgram target state other there runs
        (by rw [rereads]; rfl)
      rw [idle] at step
      exact step
  | same target other there equal =>
    obtain ⟨cell, number, first, operand, forward, _⟩ :=
      finished.forward there (equal ▸ branches)
    rw [Code.aim_eq first operand]
    refine reaches_target there (equal ▸ branches) (equal ▸ takes) ?_
    have aims := Code.aim_eq first operand
    exact aims.trans (Int.toNat_of_nonneg (by omega)).symm

/-- The original program follows a branch to where it is threaded. -/
theorem thread_reaches (finished : code.Finished last result) {branch : Instruction}
    (found : code.instructions[position]? = some branch)
    (branches : branch.opcode.isBranch = true) (takes : branch.opcode.takes state.flag = true)
    (settled : machine.Settled code position state) :
    machine.Reaches code.toProgram (position, state)
      ((code.thread position branch).toNat, state) := by
  have forward := finished.threadable.lt_aim found branches
  have nonnegative : 0 ≤ code.aim branch := by omega
  refine Code.thread_induction
    (motive := fun target => machine.Reaches code.toProgram (position, state) (target.toNat, state))
    ?_ fun target next passes reached => ?_
  · exact reaches_target found branches takes (Int.toNat_of_nonneg nonnegative).symm
  · exact reached.trans (passes_reaches finished found branches takes settled passes)

/-! ### Both programs -/

/-- Behind an instruction that does not branch, the state is settled. -/
theorem settled_perform (finished : code.Finished last result) (idle : machine.RereadsIdly)
    (found : code.instructions[position]? = some instruction) :
    machine.Settled code (position + 1) (machine.perform code.toProgram instruction state) := by
  intro branch before _ _ _ earlier reads
  rw [Nat.add_sub_cancel] at earlier
  cases found.symm.trans earlier
  obtain ⟨field, raw, register, number, _, _, _, acts⟩ := @perform_read σ machine _ _ _ _ _ finished
    found reads
  rw [acts, acts]
  exact idle field raw number state

/-- Behind a branch, the state is settled. -/
theorem settled_branch (found : code.instructions[position]? = some instruction)
    (branches : instruction.opcode.isBranch = true) :
    machine.Settled code (position + 1) state := by
  intro branch before _ _ _ earlier reads
  rw [Nat.add_sub_cancel] at earlier
  cases found.symm.trans earlier
  rw [reads] at branches
  cases branches

/-- Where a branch is threaded to, the state is settled. -/
theorem settled_thread (finished : code.Finished last result)
    (found : code.instructions[position]? = some instruction)
    (branches : instruction.opcode.isBranch = true) :
    machine.Settled code (code.thread position instruction).toNat state := by
  intro branch before there also _ _ _
  obtain ⟨notInverted, _, different⟩ := finished.threadable.thread_stops found branches there
  exact ((eq_or_opposite branches also).elim different notInverted).elim

/-- A branch that falls through goes on with the next instruction, whatever the flag. -/
theorem fallsThrough_reaches (finished : code.Finished last result)
    (found : code.instructions[position]? = some instruction)
    (falls : code.fallsThrough position instruction = true) :
    machine.Reaches code.toProgram (position, state) (position + 1, state) ∧
      machine.Reaches code.optimize.1.toProgram (position, state) (position + 1, state) := by
  obtain ⟨branches, aims⟩ := Code.fallsThrough_iff.mp falls
  constructor
  · cases takes : instruction.opcode.takes state.flag with
    | true => exact reaches_target found branches takes aims
    | false => exact reaches_next found branches takes
  · have inside := (Array.getElem?_eq_some_iff.mp found).1
    have disabled : code.optimize.1.toProgram.instructions[position]? =
        some (.of position .noOp []) := by
      have threaded := finished.threadable.optimize.instruction position
      rwa [found, Option.map_some, if_pos ⟨inside, falls⟩] at threaded
    exact reaches_perform disabled (by simp [Instruction.of]) rfl

/-- Both programs follow a branch to one place. -/
theorem branch_reaches (finished : code.Finished last result) (early : position < last)
    (found : code.instructions[position]? = some instruction)
    (branches : instruction.opcode.isBranch = true)
    (settled : machine.Settled code position state) :
    ∃ next : Nat, position < next ∧ next ≤ last ∧ machine.Settled code next state ∧
      machine.Reaches code.toProgram (position, state) (next, state) ∧
      machine.Reaches code.optimize.1.toProgram (position, state) (next, state) := by
  have threadable := finished.threadable
  have threaded := threadable.optimize
  have inside := (Array.getElem?_eq_some_iff.mp found).1
  by_cases falls : code.fallsThrough position instruction = true
  · exact ⟨position + 1, Nat.lt_succ_self _, early, settled_branch found branches,
      fallsThrough_reaches finished found falls⟩
  have stays : code.optimize.1.toProgram.instructions[position]? = some instruction := by
    have same := threaded.instruction position
    rwa [found, Option.map_some, if_neg fun both => falls both.2] at same
  cases takes : instruction.opcode.takes state.flag with
  | false =>
    exact ⟨position + 1, Nat.lt_succ_self _, early, settled_branch found branches,
      reaches_next found branches takes, reaches_next stays branches takes⟩
  | true =>
    have leaps : code.leaps position instruction = true :=
      Code.leaps_iff.mpr ⟨branches, fun aims => falls (Code.fallsThrough_iff.mpr ⟨branches, aims⟩)⟩
    obtain ⟨cell, _, first, _⟩ := finished.forward found branches
    have ahead := threadable.lt_thread found branches
    have bound := finished.thread_le found branches
    refine ⟨(code.thread position instruction).toNat, by omega, by omega,
      settled_thread finished found branches,
      thread_reaches finished found branches takes settled,
      reaches_target stays branches takes ?_⟩
    have moved := Code.aim_eq first (threaded.moved inside found leaps first)
    exact moved.trans (Int.toNat_of_nonneg (by omega)).symm

/-- **Both programs reach the end in the same state.** -/
theorem optimize_reaches (finished : code.Finished last result) (idle : machine.RereadsIdly)
    (early : position ≤ last) (settled : machine.Settled code position state) :
    ∃ final, machine.Reaches code.toProgram (position, state) (last, final) ∧
      machine.Reaches code.optimize.1.toProgram (position, state) (last, final) := by
  have threadable := finished.threadable
  have threaded := threadable.optimize
  -- Every step leads forward, so the way left to the end gets shorter.
  induction distance : last - position using Nat.strongRecOn generalizing position state with
  | ind distance ih =>
    rcases Nat.lt_or_eq_of_le early with before | rfl
    · have inside : position < code.instructions.size := by
        rw [finished.size]
        omega
      obtain ⟨instruction, found⟩ : ∃ instruction, code.instructions[position]? = some instruction :=
        ⟨_, Array.getElem?_eq_getElem inside⟩
      have runs : instruction.opcode ≠ .halt := by
        intro halts
        obtain ⟨end_, size, returns⟩ := finished.wellFormed.returns
        have same := (returns position instruction found).mp halts
        rw [finished.size] at size
        omega
      by_cases branches : instruction.opcode.isBranch = true
      · obtain ⟨next, ahead, bound, settles, step, same⟩ :=
          branch_reaches finished before found branches settled
        obtain ⟨final, run, also⟩ := ih _ (by omega) bound settles rfl
        exact ⟨final, step.trans run, same.trans also⟩
      · rw [Bool.not_eq_true] at branches
        have settles := @settled_perform σ machine _ _ _ _ _ state finished idle found
        obtain ⟨final, run, also⟩ := ih _ (by omega) (by omega) settles rfl
        have step := @reaches_perform σ machine code.toProgram _ state _ found runs branches
        have same := @reaches_perform σ machine code.optimize.1.toProgram _ state _
          (threaded.instruction_of_plain found branches) runs branches
        rw [perform_optimize finished found branches] at same
        exact ⟨final, step.trans run, same.trans also⟩
    · exact ⟨state, .refl, .refl⟩

/-- Finished code returns its result, and so does optimized code. -/
theorem finished_returns (finished : code.Finished last result) (idle : machine.RereadsIdly)
    (start : MachineState σ) :
    ∃ final, machine.Returns code.toProgram start final result ∧
      machine.Returns code.optimize.1.toProgram start final result := by
  have settled : machine.Settled code 0 start := fun _ _ _ _ positive =>
    absurd positive (Nat.lt_irrefl 0)
  obtain ⟨final, run, also⟩ := optimize_reaches finished idle (Nat.zero_le last) settled
  exact ⟨final, ⟨last, _, run, finished.final, rfl, rfl⟩,
    ⟨last, _, also, finished.optimize.final, rfl, rfl⟩⟩

end Machine

/-! ### Main result -/

/-- **Optimization does not change what a program does.** If a tree compiles, it compiles with and
without optimization, and from any state both programs return, in the same final state and with the
same operand. -/
theorem optimize_returns {σ : Type} (machine : Machine σ) (idle : machine.RereadsIdly)
    (config : CompileConfig) (root : Node)
    (compiles : ∃ compiled, compileTree config root = .ok compiled) :
    ∃ plain optimized : Code,
      (∃ events, compileTree { config with optimize := false } root = .ok (plain, events)) ∧
      (∃ events, compileTree { config with optimize := true } root = .ok (optimized, events)) ∧
      ∀ start : MachineState σ, ∃ (final : MachineState σ) (result : Handle),
        machine.Returns plain.toProgram start final result ∧
        machine.Returns optimized.toProgram start final result ∧
        plain.toProgram.operand result = optimized.toProgram.operand result := by
  obtain ⟨⟨code, events⟩, compiled⟩ := compiles
  obtain ⟨admitted, original, made, -⟩ := compileTree_ok_iff.mp ⟨events, compiled⟩
  obtain ⟨_, last, result, finished⟩ := generated_ok made
  refine ⟨original, original.optimize.1, compileTree_ok_iff.mpr ⟨admitted, original, made, rfl⟩,
    compileTree_ok_iff.mpr ⟨admitted, original, made, rfl⟩, fun start => ?_⟩
  obtain ⟨final, returns, also⟩ := Machine.finished_returns finished idle start
  exact ⟨final, result, returns, also, (finished.operand_optimize finished.result).symm⟩

/-- A machine whose memory is its registers, in a packet with every field, each worth its number. -/
def registerMachine : Machine (Int → Option Int) where
  act opcode first second _ state :=
    match opcode, first.content with
    | .readTree, .field (some field) _ =>
      ⟨true, fun register =>
        if register = second.number then some field.id else state.memory register⟩
    | .anyEq, _ => ⟨state.memory first.number == state.memory second.number, state.memory⟩
    | _, _ => state

/-- A field compared with two others, one comparison after the other. -/
def twoComparisons : Node :=
  let field (id : Nat) : Node :=
    .field ⟨some ⟨id, .empty, .empty, .empty⟩, none, false, false⟩
  .test .and .baseline (.test .anyEq .baseline (field 0) (field 1))
    (.test .anyEq .baseline (field 0) (field 2))

/-- The program of two comparisons, plain and optimized, on a machine with registers. -/
theorem twoComparisons_returns :
    ∃ plain optimized : Code,
      (∃ events, compileTree ⟨.identity, false, false, false⟩ twoComparisons =
        .ok (plain, events)) ∧
      (∃ events, compileTree ⟨.identity, true, false, false⟩ twoComparisons =
        .ok (optimized, events)) ∧
      ∀ start, ∃ final result, registerMachine.Returns plain.toProgram start final result ∧
        registerMachine.Returns optimized.toProgram start final result ∧
        plain.toProgram.operand result = optimized.toProgram.operand result := by
  have idle : registerMachine.RereadsIdly := by
    intro field raw register state
    simp only [registerMachine, Operand.field, Operand.register, MachineState.mk.injEq, true_and]
    funext other
    split <;> rfl
  exact optimize_returns registerMachine idle ⟨.identity, false, false, false⟩ twoComparisons
    (compiles_iff.mpr ⟨.inr rfl, rfl⟩)

end DisplayFilter
