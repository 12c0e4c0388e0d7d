/-
**The steps code generation is made of.**

Whatever tree is compiled, its code grows by a few kinds of step. A `Code.Step` goes from code with
a list of pending jump targets to code with another such list: it makes an operand or a register,
emits an instruction, emits a branch whose target is pending from then on, resolves the last pending
targets to the next instruction, or notes fields that are read. `Code.Steps` is a run of them.

* `Code.Steps.frame`: a run does not look at targets that were pending before it.
* `Code.Steps.extends`: a run that starts without pending targets leaves the instructions, operands
  and loaded registers that were there as they are.
* `Code.arena_resolve`: what resolving does to the arena.
-/

import DisplayFilter.Code
import Mathlib.Logic.Relation
import Mathlib.Tactic.Common

namespace DisplayFilter

/-- Whether an instruction with the opcode may be emitted freely: it neither branches nor returns,
and it does not read a register that later reads share. -/
def Opcode.isPlain : Opcode → Bool
  | .ifTrueGoto | .ifFalseGoto | .halt | .readTree | .unknown _ => false
  | _ => true

theorem Opcode.isBranch_of_isPlain {opcode : Opcode} (plain : opcode.isPlain = true) :
    opcode.isBranch = false := by
  cases opcode <;> first | rfl | cases plain

/-- An array keeps its entries when one more is added. -/
theorem getElem?_push_of_some {α : Type} {entries : Array α} {index : Nat} {entry : α}
    (found : entries[index]? = some entry) (added : α) :
    (entries.push added)[index]? = some entry := by
  have inside := (Array.getElem?_eq_some_iff.mp found).1
  rw [Array.getElem?_push, if_neg (by omega), found]

/-- An entry of an array with one more is an old one or the last. -/
theorem getElem?_of_push {α : Type} {entries : Array α} {index : Nat} {entry added : α}
    (found : (entries.push added)[index]? = some entry) :
    entries[index]? = some entry ∨ index = entries.size ∧ entry = added := by
  rw [Array.getElem?_push] at found
  split at found
  · rename_i same
    exact .inr ⟨same, (Option.some.inj found).symm⟩
  · exact .inl found

/-- Whether the operand is a register. -/
def Operand.isRegister (operand : Operand) : Bool :=
  match operand.content with
  | .register => true
  | _ => false

namespace Code

variable {code before after : Code} {pending : List Handle}

/-! ### What the operations on code change -/

@[simp] theorem newOperand_arena (operand : Operand) :
    (code.newOperand operand).2.arena = code.arena.push operand := rfl

@[simp] theorem newRegister_fst : code.newRegister.1 = code.arena.size := rfl

@[simp] theorem newRegister_arena :
    code.newRegister.2.arena = code.arena.push (.register code.registers) := rfl

@[simp] theorem newRegister_registers : code.newRegister.2.registers = code.registers + 1 := rfl

@[simp] theorem newRegister_cachedRegister? (field : Field) (raw : Bool) :
    code.newRegister.2.cachedRegister? field raw = code.cachedRegister? field raw := rfl

@[simp] theorem emit_instructions (opcode : Opcode) (operands : List Handle) :
    (code.emit opcode operands).instructions =
      code.instructions.push (.of code.instructions.size opcode operands) := rfl

theorem cacheRegister_cachedRegister? (field other : Field) (raw otherRaw : Bool)
    (register : Handle) :
    (code.cacheRegister field raw register).cachedRegister? other otherRaw =
      if (other, otherRaw) = (field, raw) then some register
      else code.cachedRegister? other otherRaw := by
  unfold cacheRegister cachedRegister?
  by_cases same : (other, otherRaw) = (field, raw)
  · simp [same]
  · rw [if_neg same, List.lookup_cons, beq_false_of_ne same]

/-- Resolves targets to the next instruction, without a look at what they were. -/
def resolve (code : Code) (targets : List Handle) : Code :=
  targets.foldl (fun code target => code.setNumber target code.instructions.size) code

@[simp] theorem setNumber_instructions (handle : Handle) (number : Int) :
    (code.setNumber handle number).instructions = code.instructions := by
  unfold setNumber
  split <;> rfl

@[simp] theorem setNumber_registers (handle : Handle) (number : Int) :
    (code.setNumber handle number).registers = code.registers := by
  unfold setNumber
  split <;> rfl

@[simp] theorem setNumber_loaded (handle : Handle) (number : Int) :
    (code.setNumber handle number).loaded = code.loaded := by
  unfold setNumber
  split <;> rfl

theorem arena_setNumber (handle number : Int) (position : Nat) :
    (code.setNumber handle number).arena[position]? =
      if handle = position then
        (code.arena[position]?).map fun operand => { operand with number }
      else code.arena[position]? := by
  unfold setNumber
  by_cases negative : handle < 0
  · have other : handle ≠ position := by omega
    rw [if_pos negative, if_neg other]
  · rw [if_neg negative, Array.getElem?_modify]
    have same : handle.toNat = position ↔ handle = position := by omega
    simp only [same]

theorem resolve_cons (target : Handle) (targets : List Handle) :
    code.resolve (target :: targets) =
      (code.setNumber target code.instructions.size).resolve targets := rfl

@[simp] theorem resolve_instructions (targets : List Handle) :
    (code.resolve targets).instructions = code.instructions := by
  induction targets generalizing code with
  | nil => rfl
  | cons target targets ih => rw [resolve_cons, ih, setNumber_instructions]

@[simp] theorem resolve_registers (targets : List Handle) :
    (code.resolve targets).registers = code.registers := by
  induction targets generalizing code with
  | nil => rfl
  | cons target targets ih => rw [resolve_cons, ih, setNumber_registers]

@[simp] theorem resolve_loaded (targets : List Handle) :
    (code.resolve targets).loaded = code.loaded := by
  induction targets generalizing code with
  | nil => rfl
  | cons target targets ih => rw [resolve_cons, ih, setNumber_loaded]

/-- **Resolving changes the number of the given targets and nothing else.** -/
theorem arena_resolve (targets : List Handle) (position : Nat) :
    (code.resolve targets).arena[position]? =
      if (position : Handle) ∈ targets then
        (code.arena[position]?).map fun operand =>
          { operand with number := code.instructions.size }
      else code.arena[position]? := by
  induction targets generalizing code with
  | nil => simp [resolve]
  | cons target targets ih =>
    rw [resolve_cons, ih, setNumber_instructions, arena_setNumber]
    by_cases later : (position : Handle) ∈ targets
    · by_cases here : target = position
      · simp [here, Function.comp_def]
      · simp [later, here]
    · by_cases here : target = position
      · simp [here, later]
      · have outside : (position : Handle) ∉ target :: targets := by
          simp [later, Ne.symm here]
        rw [if_neg later, if_neg here, if_neg outside]

@[simp] theorem resolve_arena_size (targets : List Handle) :
    (code.resolve targets).arena.size = code.arena.size := by
  induction targets generalizing code with
  | nil => rfl
  | cons target targets ih =>
    rw [resolve_cons, ih]
    unfold setNumber
    split <;> simp

/-! ### Operands that instructions may use -/

/-- A handle of an operand that is no jump target. -/
def HoldsValue (code : Code) (handle : Handle) : Prop :=
  ∃ (position : Nat) (operand : Operand), handle = position ∧
    code.arena[position]? = some operand ∧ operand.isTarget = false

theorem HoldsValue.newOperand_self {operand : Operand} (plain : operand.isTarget = false) :
    (code.newOperand operand).2.HoldsValue code.arena.size :=
  ⟨code.arena.size, operand, rfl, Array.getElem?_push_size, plain⟩

theorem HoldsValue.newRegister_self : code.newRegister.2.HoldsValue code.arena.size :=
  ⟨code.arena.size, _, rfl, Array.getElem?_push_size, rfl⟩

theorem HoldsValue.newOperand {handle : Handle} (value : code.HoldsValue handle)
    (operand : Operand) : (code.newOperand operand).2.HoldsValue handle := by
  obtain ⟨position, held, same, found, plain⟩ := value
  exact ⟨position, held, same, getElem?_push_of_some found operand, plain⟩

theorem HoldsValue.newRegister {handle : Handle} (value : code.HoldsValue handle) :
    code.newRegister.2.HoldsValue handle :=
  value.newOperand (.register code.registers)

theorem HoldsValue.emit {handle : Handle} (value : code.HoldsValue handle) (opcode : Opcode)
    (operands : List Handle) : (code.emit opcode operands).HoldsValue handle :=
  value

theorem HoldsValue.resolve {handle : Handle} (value : code.HoldsValue handle)
    (targets : List Handle) : (code.resolve targets).HoldsValue handle := by
  obtain ⟨position, held, same, found, plain⟩ := value
  by_cases member : (position : Int) ∈ targets
  · refine ⟨position, { held with number := code.instructions.size }, same, ?_, plain⟩
    rw [arena_resolve, if_pos member, found]
    rfl
  · refine ⟨position, held, same, ?_, plain⟩
    rw [arena_resolve, if_neg member, found]

/-! ### Steps -/

/-- One step of code generation, with the pending jump targets before and after it. -/
inductive Step : Code × List Handle → Code × List Handle → Prop
  | operand {code : Code} {pending : List Handle} (operand : Operand) (noTarget : operand.isTarget = false)
      (noRegister : operand.isRegister = false) :
      Step (code, pending) ((code.newOperand operand).2, pending)
  | register {code : Code} {pending : List Handle} :
      Step (code, pending) (code.newRegister.2, pending)
  /-- The register for the plain reads of a field that was not read so far. -/
  | load {code : Code} {pending : List Handle} (field : Field) (raw : Bool)
      (first : code.cachedRegister? field raw = none) :
      Step (code, pending)
        (code.newRegister.2.cacheRegister field raw code.newRegister.1, pending)
  | emit {code : Code} {pending : List Handle} (opcode : Opcode) (operands : List Handle)
      (plain : opcode.isPlain = true) (count : operands.length = opcode.operandCount)
      (values : ∀ handle ∈ operands, code.HoldsValue handle) :
      Step (code, pending) (code.emit opcode operands, pending)
  /-- A plain read goes to the register of the field. -/
  | read {code : Code} {pending : List Handle} (field : Field) (raw : Bool) (position : Nat)
      (register : Handle) (operand : code.arena[position]? = some (.field field raw))
      (cached : code.cachedRegister? field raw = some register) :
      Step (code, pending) (code.emit .readTree [(position : Handle), register], pending)
  | branch {code : Code} {pending : List Handle} (opcode : Opcode)
      (branches : opcode.isBranch = true) :
      Step (code, pending)
        (code.newTarget.2.emit opcode [code.newTarget.1], pending ++ [code.newTarget.1])
  | resolve {code : Code} {pending : List Handle} (targets : List Handle) :
      Step (code, pending ++ targets) (code.resolve targets, pending)
  | note {code : Code} {pending : List Handle} (interesting references rawReferences : List Field) :
      Step (code, pending) ({ code with interesting, references, rawReferences }, pending)

/-- Instructions with one, two and three operands. -/
theorem Step.emit_one {opcode : Opcode} {first : Handle} (plain : opcode.isPlain = true)
    (count : opcode.operandCount = 1) (held : code.HoldsValue first) :
    Step (code, pending) (code.emit opcode [first], pending) :=
  .emit opcode _ plain count.symm (List.forall_mem_singleton.mpr held)

theorem Step.emit_two {opcode : Opcode} {first second : Handle} (plain : opcode.isPlain = true)
    (count : opcode.operandCount = 2) (held : code.HoldsValue first)
    (also : code.HoldsValue second) :
    Step (code, pending) (code.emit opcode [first, second], pending) :=
  .emit opcode _ plain count.symm
    (List.forall_mem_cons.mpr ⟨held, List.forall_mem_singleton.mpr also⟩)

theorem Step.emit_three {opcode : Opcode} {first second third : Handle}
    (plain : opcode.isPlain = true) (count : opcode.operandCount = 3)
    (held : code.HoldsValue first) (also : code.HoldsValue second)
    (too : code.HoldsValue third) :
    Step (code, pending) (code.emit opcode [first, second, third], pending) :=
  .emit opcode _ plain count.symm (List.forall_mem_cons.mpr ⟨held,
    List.forall_mem_cons.mpr ⟨also, List.forall_mem_singleton.mpr too⟩⟩)

/-- A run of steps of code generation. -/
abbrev Steps : Code × List Handle → Code × List Handle → Prop :=
  Relation.ReflTransGen Step

/-- A step does not look at targets that were pending before. -/
theorem Step.frame {start stop : Code × List Handle} (step : Step start stop)
    (earlier : List Handle) : Step (start.1, earlier ++ start.2) (stop.1, earlier ++ stop.2) := by
  cases step with
  | operand operand noTarget noRegister => exact .operand operand noTarget noRegister
  | register => exact .register
  | load field raw first => exact .load field raw first
  | emit opcode operands plain count values => exact .emit opcode operands plain count values
  | read field raw position register operand cached =>
    exact .read field raw position register operand cached
  | branch opcode branches =>
    rw [← List.append_assoc]
    exact .branch opcode branches
  | resolve targets =>
    rw [← List.append_assoc]
    exact .resolve targets
  | note interesting references rawReferences =>
    exact .note interesting references rawReferences

/-- **A run does not look at targets that were pending before.** -/
theorem Steps.frame {start stop : Code × List Handle} (steps : Steps start stop)
    (earlier : List Handle) :
    Steps (start.1, earlier ++ start.2) (stop.1, earlier ++ stop.2) := by
  induction steps with
  | refl => exact .refl
  | tail _ step ih => exact ih.tail (step.frame earlier)

/-- One run after another, each with the targets that it leaves pending. -/
theorem Steps.append {middle : Code} {first second : List Handle}
    (steps : Steps (before, []) (middle, first)) (more : Steps (middle, []) (after, second)) :
    Steps (before, []) (after, first ++ second) := by
  have framed := more.frame first
  rw [List.append_nil] at framed
  exact steps.trans framed

/-- All that a run has left pending is resolved. -/
theorem Steps.resolved (steps : Steps (before, []) (after, pending)) :
    Steps (before, []) (after.resolve pending, []) :=
  steps.tail (@Step.resolve after [] pending)

/-! ### What a run leaves as it is -/

/-- What was there before is still there. -/
structure Extends (before after : Code) : Prop where
  instruction : ∀ {index : Nat} {instruction : Instruction},
    before.instructions[index]? = some instruction → after.instructions[index]? = some instruction
  operand : ∀ {position : Nat} {operand : Operand},
    before.arena[position]? = some operand → after.arena[position]? = some operand
  registers : before.registers ≤ after.registers
  cached : ∀ {field : Field} {raw : Bool} {register : Handle},
    before.cachedRegister? field raw = some register →
      after.cachedRegister? field raw = some register

namespace Extends

theorem refl (code : Code) : code.Extends code :=
  ⟨id, id, Nat.le_refl _, id⟩

theorem trans {middle : Code} (first : before.Extends middle) (second : middle.Extends after) :
    before.Extends after :=
  ⟨fun found => second.instruction (first.instruction found),
    fun found => second.operand (first.operand found),
    Nat.le_trans first.registers second.registers, fun found => second.cached (first.cached found)⟩

theorem newOperand (operand : Operand) : code.Extends (code.newOperand operand).2 := by
  refine ⟨id, fun found => ?_, Nat.le_refl _, id⟩
  rw [newOperand_arena]
  exact getElem?_push_of_some found operand

theorem newRegister : code.Extends code.newRegister.2 :=
  ⟨id, (newOperand (.register code.registers)).operand, Nat.le_succ _, id⟩

theorem emit (opcode : Opcode) (operands : List Handle) :
    code.Extends (code.emit opcode operands) := by
  refine ⟨fun found => ?_, id, Nat.le_refl _, id⟩
  rw [emit_instructions]
  exact getElem?_push_of_some found _

theorem arena_size (grown : before.Extends after) : before.arena.size ≤ after.arena.size := by
  by_contra shrunk
  have found := grown.operand (Array.getElem?_eq_getElem (Nat.lt_of_not_le shrunk))
  have inside := (Array.getElem?_eq_some_iff.mp found).1
  omega

theorem instructions_size (grown : before.Extends after) :
    before.instructions.size ≤ after.instructions.size := by
  by_contra shrunk
  have found := grown.instruction (Array.getElem?_eq_getElem (Nat.lt_of_not_le shrunk))
  have inside := (Array.getElem?_eq_some_iff.mp found).1
  omega

theorem holdsValue (grown : before.Extends after) {handle : Handle}
    (value : before.HoldsValue handle) : after.HoldsValue handle := by
  obtain ⟨position, operand, same, found, plain⟩ := value
  exact ⟨position, operand, same, grown.operand found, plain⟩

end Extends

/-- A step touches only operands that are pending before it, and makes only new targets pending. -/
theorem Step.extends {start stop : Code × List Handle} (step : Step start stop)
    (grown : before.Extends start.1)
    (fresh : ∀ target ∈ start.2, (before.arena.size : Int) ≤ target) :
    before.Extends stop.1 ∧ ∀ target ∈ stop.2, (before.arena.size : Int) ≤ target := by
  cases step with
  | operand operand _ _ => exact ⟨grown.trans (.newOperand operand), fresh⟩
  | register => exact ⟨grown.trans .newRegister, fresh⟩
  | @load code _ field raw first =>
    refine ⟨⟨grown.instruction, (grown.trans .newRegister).operand,
      (grown.trans .newRegister).registers, fun {other otherRaw register} found => ?_⟩, fresh⟩
    have kept := grown.cached found
    have different : (other, otherRaw) ≠ (field, raw) := by
      intro same
      cases same
      exact absurd (first.symm.trans kept) (by simp)
    rw [cacheRegister_cachedRegister?, if_neg different, newRegister_cachedRegister?]
    exact kept
  | emit opcode operands _ _ _ => exact ⟨grown.trans (.emit opcode operands), fresh⟩
  | read _ _ _ _ _ _ => exact ⟨grown.trans (.emit _ _), fresh⟩
  | @branch code pending opcode _ =>
    refine ⟨(grown.trans (.newOperand _)).trans (.emit opcode _), fun target member => ?_⟩
    rcases List.mem_append.mp member with old | new
    · exact fresh target old
    · rw [List.mem_singleton.mp new]
      exact Int.ofNat_le.mpr grown.arena_size
  | @resolve code pending targets =>
    refine ⟨⟨fun found => ?_, fun {position operand} found => ?_, ?_, ?_⟩, fun target member =>
      fresh target (List.mem_append_left _ member)⟩
    · rw [resolve_instructions]
      exact grown.instruction found
    · have outside : (position : Handle) ∉ targets := by
        intro member
        have above := fresh _ (List.mem_append_right _ member)
        have below := (Array.getElem?_eq_some_iff.mp found).1
        omega
      rw [arena_resolve, if_neg outside]
      exact grown.operand found
    · rw [resolve_registers]
      exact grown.registers
    · intro field raw register found
      unfold cachedRegister?
      rw [resolve_loaded]
      exact grown.cached found
  | note _ _ _ =>
    exact ⟨⟨grown.instruction, grown.operand, grown.registers, grown.cached⟩, fresh⟩

/-- **A run that starts without pending targets only adds to the code.** -/
theorem Steps.extends (steps : Steps (before, []) (after, pending)) :
    before.Extends after ∧ ∀ target ∈ pending, (before.arena.size : Int) ≤ target := by
  have run : ∀ stop : Code × List Handle, Steps (before, []) stop →
      before.Extends stop.1 ∧ ∀ target ∈ stop.2, (before.arena.size : Int) ≤ target := by
    intro stop steps
    induction steps with
    | refl => exact ⟨.refl before, by simp⟩
    | tail _ step ih => exact step.extends ih.1 ih.2
  exact run (after, pending) steps

/-! ### Registers of plain reads -/

/-- The register of each field that was read is a register of the arena. -/
def CachesRegisters (code : Code) : Prop :=
  ∀ (field : Field) (raw : Bool) (register : Handle),
    code.cachedRegister? field raw = some register →
    ∃ (position : Nat) (number : Int), register = position ∧
      code.arena[position]? = some (.register number)

theorem CachesRegisters.holdsValue (caches : code.CachesRegisters) {field : Field} {raw : Bool}
    {register : Handle} (cached : code.cachedRegister? field raw = some register) :
    code.HoldsValue register := by
  obtain ⟨position, number, same, found⟩ := caches field raw register cached
  exact ⟨position, _, same, found, rfl⟩

theorem cachesRegisters_empty : empty.CachesRegisters := by
  intro field raw register cached
  cases cached

/-- Later code caches registers if it has the operands and caches nothing new. -/
theorem CachesRegisters.extend (caches : before.CachesRegisters) (grown : before.Extends after)
    (same : after.loaded = before.loaded) : after.CachesRegisters := by
  intro field raw register cached
  unfold cachedRegister? at cached
  rw [same] at cached
  obtain ⟨position, number, held, found⟩ := caches field raw register cached
  exact ⟨position, number, held, grown.operand found⟩

theorem Step.cachesRegisters {start stop : Code × List Handle} (step : Step start stop)
    (caches : start.1.CachesRegisters) : stop.1.CachesRegisters := by
  cases step with
  | operand operand _ _ => exact caches.extend (.newOperand operand) rfl
  | register => exact caches.extend .newRegister rfl
  | @load code _ field raw _ =>
    intro other otherRaw register cached
    rw [cacheRegister_cachedRegister?] at cached
    split at cached
    · cases cached
      exact ⟨code.arena.size, code.registers, rfl, Array.getElem?_push_size⟩
    · exact caches.extend .newRegister rfl other otherRaw register cached
  | emit opcode operands _ _ _ => exact caches.extend (.emit opcode operands) rfl
  | read _ _ _ _ _ _ => exact caches.extend (.emit _ _) rfl
  | branch opcode _ => exact caches.extend ((Extends.newOperand _).trans (.emit opcode _)) rfl
  | @resolve code pending targets =>
    intro field raw register cached
    unfold cachedRegister? at cached
    rw [resolve_loaded] at cached
    obtain ⟨position, number, held, found⟩ := caches field raw register cached
    rw [held]
    by_cases member : (position : Int) ∈ targets
    · refine ⟨position, code.instructions.size, rfl, ?_⟩
      rw [arena_resolve, if_pos member, found]
      rfl
    · refine ⟨position, number, rfl, ?_⟩
      rw [arena_resolve, if_neg member, found]
  | note _ _ _ => exact caches

theorem Steps.cachesRegisters {start stop : Code × List Handle} (steps : Steps start stop)
    (caches : start.1.CachesRegisters) : stop.1.CachesRegisters := by
  induction steps with
  | refl => exact caches
  | tail _ step ih => exact step.cachesRegisters ih

end Code

end DisplayFilter
