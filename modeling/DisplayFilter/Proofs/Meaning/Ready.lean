/-
**Code in the making and the machine that will run it.**

What code does is told while it is generated, of any finished code that it becomes part of: finished
code has the same instructions and operands, except that jump targets are resolved which are still
pending.

The registers of the machine are followed along. At the place where code generation stands, the
registers that are not taken yet are empty, and the register of a field's plain reads is empty or
holds the value of the field.

* `Code.PartOf`: code that has become part of finished code.
* `Packet.Ready`: what is known of the registers.
* `Store.Keeps`: what stays in a store.
* `Packet.goes_emit`, `Packet.goes_jump`: single instructions.
-/

import DisplayFilter.Proofs.Generation.Shape
import DisplayFilter.Proofs.Meaning.Packet

namespace DisplayFilter

namespace Code

variable {code before after final : Code} {pending : List Handle}

/-! ### Parts of finished code -/

/-- Everything that is settled in the code is the same in the finished code. -/
structure PartOf (code final : Code) : Prop where
  instruction : ∀ {index : Nat} {instruction : Instruction},
    code.instructions[index]? = some instruction → final.instructions[index]? = some instruction
  arena : ∀ {position : Nat} {operand : Operand}, code.arena[position]? = some operand →
    operand.isPending = false → final.arena[position]? = some operand

namespace PartOf

theorem of_extends (part : after.PartOf final) (grown : before.Extends after) :
    before.PartOf final :=
  ⟨fun found => part.instruction (grown.instruction found),
    fun found settled => part.arena (grown.operand found) settled⟩

theorem of_steps (part : after.PartOf final) (steps : Steps (before, []) (after, pending)) :
    before.PartOf final :=
  part.of_extends steps.extends.1

/-- What is resolved was pending, so nothing settled was changed. -/
theorem of_resolve {targets : List Handle} (part : (code.resolve targets).PartOf final)
    (waiting : ∀ target ∈ targets, target ∈ code.unresolvedCells) : code.PartOf final := by
  refine ⟨fun found => part.instruction (by rwa [resolve_instructions]),
    fun {position operand} found settled => part.arena ?_ settled⟩
  have outside : (position : Int) ∉ targets := by
    intro member
    obtain ⟨place, cell, same, there, waits⟩ := mem_positions.mp (waiting _ member)
    rw [← Int.ofNat.inj same, found] at there
    cases there
    rw [settled] at waits
    cases waits
  rw [arena_resolve, if_neg outside, found]

/-- What is resolved goes to the next instruction. -/
theorem target_of_resolve {targets : List Handle} (part : (code.resolve targets).PartOf final)
    (waiting : ∀ target ∈ targets, target ∈ code.unresolvedCells) {target : Handle}
    (member : target ∈ targets) : final.operand target = .target code.instructions.size := by
  obtain ⟨position, cell, rfl, there, waits⟩ := mem_positions.mp (waiting _ member)
  have resolved : (code.resolve targets).arena[position]? =
      some (.target code.instructions.size) := by
    rw [arena_resolve, if_pos member, there, Operand.eq_of_isPending waits]
    rfl
  have known : (Operand.target code.instructions.size).isPending = false := by
    have different : (code.instructions.size : Int) ≠ unresolved := by
      unfold unresolved
      omega
    simp [Operand.isPending, Operand.isResolved, Operand.target, different]
  exact operandAt_eq (part.arena resolved known)

/-- An operand that is no jump target. -/
theorem operand_eq (part : code.PartOf final) {position : Nat} {operand : Operand}
    (found : code.arena[position]? = some operand) (plain : operand.isTarget = false) :
    final.operand (position : Int) = operand := by
  have settled : operand.isPending = false := by simp [Operand.isPending, Operand.isResolved, plain]
  exact operandAt_eq (part.arena found settled)

end PartOf

/-! ### The registers of fields -/

/-- The plain reads of a field go to the register with the given number. -/
def Loads (code : Code) (field : Field) (raw : Bool) (number : Int) : Prop :=
  ∃ position : Nat, code.cachedRegister? field raw = some (position : Int) ∧
    code.arena[position]? = some (.register number)

theorem Loads.lt (numbered : code.Numbered) {field : Field} {raw : Bool} {number : Int}
    (loads : code.Loads field raw number) : number < code.registers := by
  obtain ⟨position, _, held⟩ := loads
  exact (numbered.bound held).2

/-- A register belongs to one field. -/
theorem Loads.unique (numbered : code.Numbered) {field other : Field} {raw otherRaw : Bool}
    {number : Int} (loads : code.Loads field raw number) (also : code.Loads other otherRaw number) :
    field = other ∧ raw = otherRaw := by
  obtain ⟨position, cached, held⟩ := loads
  obtain ⟨place, found, there⟩ := also
  cases numbered.distinct held there
  exact numbered.owned cached found

/-- A step gives fields no registers that were taken before. -/
theorem Step.loads {start stop : Code × List Handle} (step : Step start stop)
    (sound : start.1.Sound start.2) {field : Field} {raw : Bool} {number : Int}
    (loads : stop.1.Loads field raw number) :
    start.1.Loads field raw number ∨ start.1.registers ≤ number := by
  obtain ⟨position, cached, held⟩ := loads
  cases step with
  | operand operand noTarget noRegister =>
    rcases getElem?_of_push held with old | ⟨_, same⟩
    · exact .inl ⟨position, cached, old⟩
    · rw [← same] at noRegister
      cases noRegister
  | register =>
    rcases getElem?_of_push held with old | ⟨_, same⟩
    · exact .inl ⟨position, cached, old⟩
    · cases same
      exact .inr (Int.le_refl _)
  | load other otherRaw first =>
    rcases getElem?_of_push held with old | ⟨_, same⟩
    · rw [cacheRegister_cachedRegister?] at cached
      split at cached
      · have inside := (Array.getElem?_eq_some_iff.mp old).1
        have outside := Int.ofNat.inj (Option.some.inj cached)
        omega
      · exact .inl ⟨position, cached, old⟩
    · cases same
      exact .inr (Int.le_refl _)
  | emit opcode operands plain count values => exact .inl ⟨position, cached, held⟩
  | read other otherRaw place register operand found => exact .inl ⟨position, cached, held⟩
  | branch opcode branches =>
    rcases getElem?_of_push held with old | ⟨_, same⟩
    · exact .inl ⟨position, cached, old⟩
    · cases same
  | @resolve code pending targets =>
    have cells : ∀ target ∈ targets, code.HoldsTarget target := fun target member =>
      sound.targets target (List.mem_append_right _ member)
    refine .inl ⟨position, ?_, ?_⟩
    · unfold cachedRegister? at cached ⊢
      rwa [resolve_loaded] at cached
    · rw [arena_resolve] at held
      split at held
      · rename_i member
        obtain ⟨place, target, same, cell⟩ := cells _ member
        rw [Int.ofNat.inj same, cell] at held
        cases held
      · exact held
  | note _ _ _ => exact .inl ⟨position, cached, held⟩

theorem Step.registers_le {start stop : Code × List Handle} (step : Step start stop) :
    start.1.registers ≤ stop.1.registers := by
  cases step with
  | register => exact Nat.le_succ _
  | load _ _ _ => exact Nat.le_succ _
  | resolve targets => exact Nat.le_of_eq (resolve_registers targets).symm
  | _ => exact Nat.le_refl _

theorem Steps.registers_le {start stop : Code × List Handle} (steps : Steps start stop) :
    start.1.registers ≤ stop.1.registers := by
  induction steps with
  | refl => exact Nat.le_refl _
  | tail _ step ih => exact Nat.le_trans ih step.registers_le

/-- **A run gives fields no registers that were taken before.** -/
theorem Steps.loads {start stop : Code × List Handle} (steps : Steps start stop)
    (sound : start.1.Sound start.2) {field : Field} {raw : Bool} {number : Int}
    (loads : stop.1.Loads field raw number) :
    start.1.Loads field raw number ∨ start.1.registers ≤ number := by
  induction steps with
  | refl => exact .inl loads
  | tail run step ih =>
    rcases step.loads (Steps.sound run sound) loads with earlier | late
    · exact ih earlier
    · exact .inr (Int.le_trans (Int.ofNat_le.mpr (Steps.registers_le run)) late)

/-- A register that was made for something else does not become that of a field. -/
theorem Steps.not_loads (steps : Steps (code.newRegister.2, []) (after, pending))
    (sound : code.Sound []) (field : Field) (raw : Bool) :
    ¬ after.Loads field raw code.registers := by
  intro loads
  have made : code.newRegister.2.Sound [] := Step.sound (@Step.register code []) sound
  rcases steps.loads made loads with earlier | late
  · obtain ⟨position, cached, held⟩ := earlier
    rcases getElem?_of_push held with old | ⟨here, _⟩
    · exact Int.lt_irrefl _ (sound.numbered.bound old).2
    · obtain ⟨place, number, same, there⟩ := sound.numbered.caches field raw position cached
      have inside := (Array.getElem?_eq_some_iff.mp there).1
      have equal := Int.ofNat.inj same
      omega
  · rw [newRegister_registers] at late
    omega

/-- Sound code stays so if the pending targets are left to others. -/
theorem Sound.clear (sound : code.Sound pending) : code.Sound [] :=
  ⟨sound.shaped, sound.numbered, List.forall_mem_nil _⟩

end Code

/-! ### Stores -/

namespace Store

variable {V : Type} {store later last : Store V}

/-- The registers that are not empty stay as they are. -/
def Grows (store later : Store V) : Prop :=
  ∀ (number : Int) (value : V), store.registers number = some value →
    later.registers number = some value

/-- Nothing is lost or left behind: registers keep their values, and the stack and the members are
the same. -/
structure Keeps (store later : Store V) : Prop where
  grows : store.Grows later
  stack : later.stack = store.stack
  members : later.members = store.members

theorem Grows.trans (first : store.Grows later) (second : later.Grows last) : store.Grows last :=
  fun number value held => second number value (first number value held)

theorem Keeps.refl (store : Store V) : store.Keeps store :=
  ⟨fun _ _ held => held, rfl, rfl⟩

theorem Keeps.trans (first : store.Keeps later) (second : later.Keeps last) : store.Keeps last :=
  ⟨first.grows.trans second.grows, second.stack.trans first.stack,
    second.members.trans first.members⟩

/-- A register that is empty, or that holds the value already, can be set. -/
theorem Grows.set {number : Int} {value? : Option V} (grows : store.Grows later)
    (free : store.registers number = none ∨ store.registers number = value?) :
    store.Grows (later.set number value?) := by
  intro other value held
  rw [set_registers]
  split
  · rename_i same
    rw [same] at held
    rcases free with empty | equal
    · rw [empty] at held
      cases held
    · rw [← equal, held]
  · exact grows other value held

theorem Keeps.set {number : Int} {value? : Option V} (keeps : store.Keeps later)
    (free : store.registers number = none ∨ store.registers number = value?) :
    store.Keeps (later.set number value?) :=
  ⟨keeps.grows.set free, keeps.stack, keeps.members⟩

end Store

namespace Packet

variable {V : Type} {packet : Packet V} {code before after final : Code} {pending : List Handle}
  {store later : Store V}

/-- Operands keep their values. -/
theorem value?_of_grows (grows : store.Grows later) {operand : Operand} {value : V}
    (held : packet.value? store operand = some value) :
    packet.value? later operand = some value := by
  unfold value? at held ⊢
  split at held
  · exact grows _ _ held
  · exact held
  · exact held
  · cases held

/-- What is known of the registers where code generation stands. -/
structure Ready (packet : Packet V) (code : Code) (store : Store V) : Prop where
  fresh : ∀ number : Int, code.registers ≤ number → store.registers number = none
  loaded : ∀ (field : Field) (raw : Bool) (number : Int), code.Loads field raw number →
    store.registers number = none ∨ store.registers number = packet.readTree field raw []

namespace Ready

/-- Later code takes registers that are empty so far. -/
theorem extend {waiting : List Handle} (ready : packet.Ready before store)
    (sound : before.Sound waiting) (steps : Code.Steps (before, waiting) (after, pending)) :
    packet.Ready after store := by
  refine ⟨fun number free => ?_, fun field raw number loads => ?_⟩
  · have grown : before.registers ≤ after.registers := steps.registers_le
    exact ready.fresh number (by omega)
  · rcases steps.loads sound loads with earlier | late
    · exact ready.loaded field raw number earlier
    · exact .inl (ready.fresh number late)

/-- The registers are all that matters. -/
theorem congr (ready : packet.Ready code store) (same : later.registers = store.registers) :
    packet.Ready code later := by
  refine ⟨fun number free => ?_, fun field raw number loads => ?_⟩
  · rw [same]
    exact ready.fresh number free
  · rw [same]
    exact ready.loaded field raw number loads

/-- A register that belongs to no field can be set. -/
theorem set (ready : packet.Ready code store) {number : Int} (taken : number < code.registers)
    (own : ∀ field raw, ¬ code.Loads field raw number) (value? : Option V) :
    packet.Ready code (store.set number value?) := by
  refine ⟨fun other free => ?_, fun field raw other loads => ?_⟩
  · rw [Store.set_registers, if_neg (by omega)]
    exact ready.fresh other free
  · have different : other ≠ number := by
      rintro rfl
      exact own field raw loads
    rw [Store.set_registers, if_neg different]
    exact ready.loaded field raw other loads

/-- The register of a field can be set to the value of the field. -/
theorem load (ready : packet.Ready code store) (numbered : code.Numbered) {field : Field}
    {raw : Bool} {number : Int} (loads : code.Loads field raw number) :
    packet.Ready code (store.set number (packet.readTree field raw [])) := by
  have taken := loads.lt numbered
  refine ⟨fun other free => ?_, fun another otherRaw other also => ?_⟩
  · rw [Store.set_registers, if_neg (by omega)]
    exact ready.fresh other free
  · rw [Store.set_registers]
    split
    · rename_i same
      subst same
      obtain ⟨rfl, rfl⟩ := loads.unique numbered also
      exact .inr rfl
    · exact ready.loaded another otherRaw other also

end Ready

theorem ready_empty : packet.Ready .empty .empty :=
  ⟨fun _ _ => rfl, fun _ _ _ _ => .inl rfl⟩

/-! ### Single instructions -/

/-- A run of finished code from a position, a flag and a store to others. -/
def Goes (packet : Packet V) (final : Code) (start stop : Nat × Bool × Store V) : Prop :=
  packet.machine.Reaches final.toProgram (start.1, ⟨start.2.1, some start.2.2⟩)
    (stop.1, ⟨stop.2.1, some stop.2.2⟩)

theorem Goes.refl (final : Code) (start : Nat × Bool × Store V) :
    packet.Goes final start start :=
  Relation.ReflTransGen.refl

theorem Goes.trans {start middle stop : Nat × Bool × Store V} (first : packet.Goes final start middle)
    (second : packet.Goes final middle stop) : packet.Goes final start stop :=
  Relation.ReflTransGen.trans first second

variable {opcode : Opcode} {operands : List Handle} {flag flag' : Bool}

/-- **An instruction that was emitted is run.** -/
theorem goes_emit (part : (code.emit opcode operands).PartOf final)
    (runs : packet.run opcode (final.operand (operands[0]?.getD noOperand))
      (final.operand (operands[1]?.getD noOperand)) (final.operand (operands[2]?.getD noOperand))
      flag store = some (flag', later)) :
    packet.Goes final (code.instructions.size, flag, store)
      (code.instructions.size + 1, flag', later) := by
  have found : final.toProgram.instructions[code.instructions.size]? =
      some (.of code.instructions.size opcode operands) :=
    part.instruction Array.getElem?_push_size
  have acts : opcode ≠ .halt ∧ opcode.isBranch = false ∧ opcode ≠ .noOp := by
    cases opcode <;> first | exact ⟨by decide, rfl, by decide⟩ | cases runs
  have step := @Machine.reaches_perform _ packet.machine _ _ ⟨flag, some store⟩ _ found acts.1
    acts.2.1
  have performed : packet.machine.perform final.toProgram
      (.of code.instructions.size opcode operands) ⟨flag, some store⟩ = ⟨flag', some later⟩ := by
    unfold Machine.perform
    rw [if_neg (show (Instruction.of _ opcode operands).opcode ≠ .noOp from acts.2.2)]
    exact packet.machine_act runs
  rw [performed] at step
  exact step

/-- A run goes on with an instruction that was emitted where it stands. -/
theorem Goes.emit {start : Nat × Bool × Store V} {position : Nat}
    (goes : packet.Goes final start (position, flag, store))
    (here : code.instructions.size = position) (part : (code.emit opcode operands).PartOf final)
    (runs : packet.run opcode (final.operand (operands[0]?.getD noOperand))
      (final.operand (operands[1]?.getD noOperand)) (final.operand (operands[2]?.getD noOperand))
      flag store = some (flag', later)) :
    packet.Goes final start ((code.emit opcode operands).instructions.size, flag', later) := by
  rw [Code.emit_instructions, Array.size_push]
  rw [← here] at goes
  exact goes.trans (goes_emit part runs)

/-- A branch that was emitted is taken. -/
theorem goes_jump (part : (code.newTarget.2.emit opcode [code.newTarget.1]).PartOf final)
    (takes : opcode.takes flag = true) {target : Nat}
    (aims : final.operand code.newTarget.1 = .target target) :
    packet.Goes final (code.instructions.size, flag, store) (target, flag, store) := by
  have branches : opcode.isBranch = true := by cases opcode <;> first | rfl | cases takes
  have found : final.toProgram.instructions[code.instructions.size]? =
      some (.of code.instructions.size opcode [code.newTarget.1]) :=
    part.instruction Array.getElem?_push_size
  exact @Machine.reaches_target _ packet.machine _ _ ⟨flag, some store⟩ _ found branches takes target
    (congrArg Operand.number aims)

/-- A branch that was emitted is not taken. -/
theorem goes_next (part : (code.newTarget.2.emit opcode [code.newTarget.1]).PartOf final)
    (branches : opcode.isBranch = true) (stays : opcode.takes flag = false) :
    packet.Goes final (code.instructions.size, flag, store)
      (code.instructions.size + 1, flag, store) := by
  have found : final.toProgram.instructions[code.instructions.size]? =
      some (.of code.instructions.size opcode [code.newTarget.1]) :=
    part.instruction Array.getElem?_push_size
  exact @Machine.reaches_next _ packet.machine _ _ ⟨flag, some store⟩ _ found branches stays

end Packet

end DisplayFilter
