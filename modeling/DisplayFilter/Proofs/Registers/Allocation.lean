/-
**Which registers instructions write to.**

A register is made for the instruction that leaves its result in it, and only the plain reads of one
field share theirs. At any moment of code generation every register is written by an instruction or
waits for the one it was made for; when code generation is over none waits.

* `Code.Allocated`: what holds of the registers of code in the making.
* `Act.allots`: what an act does to registers.
* `Acts.allocated`: a run keeps registers allocated.
* `Code.AllocatesRegisters`, `compileTree_allocatesRegisters`: the registers of compiled programs.
-/

import DisplayFilter.Proofs.Compiler.WellFormed
import DisplayFilter.Proofs.Generation.TestActs
import DisplayFilter.Proofs.Optimizer.Flow

namespace DisplayFilter

open Code

/-! ### What an act does to registers -/

namespace Code

variable {code before after : Code} {index : Nat} {number : Int}

/-- The register with a number belongs to the plain reads of a field. -/
def Caches (code : Code) (field : Field) (raw : Bool) (number : Int) : Prop :=
  ∃ register, code.cachedRegister? field raw = some register ∧
    code.Has register (.register number)

/-- The instructions from an index on have these results: only the first one may have one, and then
it writes to a register. -/
structure Results (code : Code) (since : Nat) (result? : Option Int) : Prop where
  writes : ∀ index number, since ≤ index →
    (code.WritesTo index number ↔ index = since ∧ result? = some number)
  destined : ∀ (index : Nat) (instruction : Instruction) (slot : Nat), since ≤ index →
    code.instructions[index]? = some instruction → instruction.opcode.resultSlot? = some slot →
    ∃ number, code.WritesTo index number

/-- Only instructions without result were added. -/
theorem results_none (quiet : ∀ (index : Nat) (instruction : Instruction),
      before.instructions.size ≤ index → after.instructions[index]? = some instruction →
      instruction.opcode.resultSlot? = none) : after.Results before.instructions.size none := by
  refine ⟨fun index number late => iff_of_false ?_ (by simp), fun index instruction slot late found
    result => ?_⟩
  · rintro ⟨instruction, slot, handle, found, result, _⟩
    cases (quiet index instruction late found).symm.trans result
  · cases (quiet index instruction late found).symm.trans result

/-- No instruction was added. -/
theorem results_same (same : after.instructions = before.instructions) :
    after.Results before.instructions.size none := by
  refine results_none fun index instruction late found => ?_
  rw [same] at found
  have inside := (Array.getElem?_eq_some_iff.mp found).1
  omega

/-- One instruction without result was added. -/
theorem results_push {instruction : Instruction}
    (grown : after.instructions = before.instructions.push instruction)
    (noResult : instruction.opcode.resultSlot? = none) :
    after.Results before.instructions.size none := by
  refine results_none fun index other late found => ?_
  rw [grown] at found
  rcases getElem?_of_push found with old | ⟨_, rfl⟩
  · have inside := (Array.getElem?_eq_some_iff.mp old).1
    omega
  · exact noResult

/-- One instruction with a result was added, and perhaps others without. -/
theorem results_some {instruction : Instruction} {slot : Nat} {handle : Handle}
    (found : after.instructions[before.instructions.size]? = some instruction)
    (result : instruction.opcode.resultSlot? = some slot)
    (held : instruction.slots[slot]? = some handle) (has : after.Has handle (.register number))
    (others : ∀ (index : Nat) (instruction : Instruction), before.instructions.size < index →
      after.instructions[index]? = some instruction → instruction.opcode.resultSlot? = none) :
    after.Results before.instructions.size (some number) := by
  have here : ∀ other, after.WritesTo before.instructions.size other ↔ other = number :=
    fun other => writesTo_iff found result held has
  refine ⟨fun index other late => ?_, fun index later place late there also => ?_⟩
  · rcases Nat.lt_or_eq_of_le late with behind | rfl
    · refine iff_of_false ?_ (by omega)
      rintro ⟨later, place, second, there, also, _⟩
      cases (others index later behind there).symm.trans also
    · rw [here]
      simp [eq_comm]
  · rcases Nat.lt_or_eq_of_le late with behind | rfl
    · cases (others index later behind there).symm.trans also
    · exact ⟨number, (here number).mpr rfl⟩

end Code

/-- What an act does to registers: nothing, or it makes one that waits, or it writes to the one that
waits, or it is a plain read of a field. -/
inductive Allots (start stop : Stage) : Prop
  | nothing (results : stop.code.Results start.code.instructions.size none)
      (registers : stop.code.registers = start.code.registers)
      (reserved : stop.reserved = start.reserved) (loaded : stop.code.loaded = start.code.loaded)
  | reserve (results : stop.code.Results start.code.instructions.size none)
      (registers : stop.code.registers = start.code.registers + 1)
      (reserved : stop.reserved = (start.code.registers : Int) :: start.reserved)
      (loaded : stop.code.loaded = start.code.loaded)
  | fill (number : Int) (results : stop.code.Results start.code.instructions.size (some number))
      (registers : stop.code.registers = start.code.registers)
      (reserved : start.reserved = number :: stop.reserved)
      (loaded : stop.code.loaded = start.code.loaded)
  | load (field : Field) (raw : Bool)
      (results : stop.code.Results start.code.instructions.size (some start.code.registers))
      (reads : stop.code.ReadsPlainly start.code.instructions.size field raw)
      (registers : stop.code.registers = start.code.registers + 1)
      (reserved : stop.reserved = start.reserved)
      (has : stop.code.Has start.code.arena.size (.register start.code.registers))
      (loaded : stop.code.loaded = ((field, raw), (start.code.arena.size : Int)) :: start.code.loaded)
  | reload (field : Field) (raw : Bool) (number : Int)
      (caches : start.code.Caches field raw number)
      (results : stop.code.Results start.code.instructions.size (some number))
      (reads : stop.code.ReadsPlainly start.code.instructions.size field raw)
      (registers : stop.code.registers = start.code.registers)
      (reserved : stop.reserved = start.reserved) (loaded : stop.code.loaded = start.code.loaded)

namespace Code

variable {code : Code} {field : Field} {raw : Bool} {register : Handle} {number : Int}

theorem results_emit {opcode : Opcode} {operands : List Handle} {slot : Nat}
    (result : opcode.resultSlot? = some slot) (held : operands[slot]? = some register)
    (has : code.Has register (.register number)) :
    (code.emit opcode operands).Results code.instructions.size (some number) := by
  refine results_some Array.getElem?_push_size result
    (slots_of_operand held (resultSlot?_lt result)) has fun index instruction late found => ?_
  rcases getElem?_of_push found with old | ⟨same, _⟩
  · have inside := (Array.getElem?_eq_some_iff.mp old).1
    omega
  · omega

theorem withRead_readsPlainly :
    (code.withRead field raw register).emitJump.2.ReadsPlainly code.instructions.size field raw :=
  ⟨_, withRead_found, rfl, has_withRead⟩

theorem withRead_results (has : code.Has register (.register number)) :
    (code.withRead field raw register).emitJump.2.Results code.instructions.size (some number) := by
  have grown := code.extends_withRead field raw register
  refine results_some withRead_found rfl rfl (has.extend grown) fun index instruction late found => ?_
  rcases getElem?_of_push found with old | ⟨_, rfl⟩
  · rcases getElem?_of_push old with older | ⟨same, _⟩
    · have inside := (Array.getElem?_eq_some_iff.mp older).1
      have early : index < code.instructions.size := inside
      omega
    · have here : index = code.instructions.size := same
      omega
  · rfl

end Code

/-- **What an act does to registers.** -/
theorem Act.allots {start stop : Stage} (act : Act start stop)
    (caches : start.code.CachesRegisters) : Allots start stop := by
  cases act with
  | operand operand noTarget noRegister => exact .nothing (results_same rfl) rfl rfl rfl
  | register => exact .reserve (results_same rfl) rfl rfl rfl
  | emit opcode operands purpose plain count none given serves =>
    exact .nothing (results_push rfl none) rfl rfl rfl
  | push value call argument held => exact .nothing (results_push rfl rfl) rfl rfl rfl
  | @compute code pending reserved plan number opcode before register behind purpose plain count
      slot waits given serves =>
    exact .fill number (results_emit slot (by simp) waits) rfl rfl rfl
  | @load code pending reserved plan field raw first =>
    have has : (code.withRegister field raw).Has code.newRegister.1 (.register code.registers) :=
      has_newRegister code
    have grown := (code.withRegister field raw).extends_withRead field raw code.newRegister.1
    exact .load field raw (withRead_results has) withRead_readsPlainly rfl rfl (has.extend grown) rfl
  | @reload code pending reserved plan field raw register cached =>
    obtain ⟨position, number, same, found⟩ := caches field raw register cached
    have has : code.Has register (.register number) := ⟨position, same, found⟩
    exact .reload field raw number ⟨register, cached, has⟩ (withRead_results has)
      withRead_readsPlainly rfl rfl rfl
  | @branch code pending reserved plan opcode branches =>
    have noResult : opcode.resultSlot? = none := by cases opcode <;> first | rfl | cases branches
    exact .nothing (results_push rfl noResult) rfl rfl rfl
  | resolve resolved opens =>
    exact .nothing (results_same (resolve_instructions _)) (resolve_registers _) rfl
      (resolve_loaded _)
  | note interesting references rawReferences => exact .nothing (results_same rfl) rfl rfl rfl

/-! ### The invariant -/

/-- What holds of the registers of code in the making. -/
structure Code.Allocated (code : Code) (reserved : List Int) : Prop where
  /-- A register that waits is not written. -/
  waiting : ∀ number ∈ reserved, number < code.registers ∧ ∀ index, ¬ code.WritesTo index number
  distinct : reserved.Nodup
  /-- Every register is written or waits. -/
  used : ∀ number : Int, 0 ≤ number → number < code.registers →
    number ∈ reserved ∨ ∃ index, code.WritesTo index number
  /-- Only plain reads of one field share a register. -/
  shared : ∀ {first second : Nat} {number : Int}, code.WritesTo first number →
    code.WritesTo second number → first ≠ second →
    ∃ field raw, code.ReadsPlainly first field raw ∧ code.ReadsPlainly second field raw
  /-- The register of a field is written, by plain reads of the field only. -/
  owned : ∀ {field : Field} {raw : Bool} {number : Int}, code.Caches field raw number →
    (∃ index, code.WritesTo index number) ∧
      ∀ index, code.WritesTo index number → code.ReadsPlainly index field raw

theorem Code.allocated_empty : Code.empty.Allocated [] := by
  refine ⟨List.forall_mem_nil _, List.nodup_nil, fun number low high => ?_, fun writes => ?_,
    fun caches => ?_⟩
  · exact absurd high (Int.not_lt.mpr low)
  · obtain ⟨_, _, _, found, _⟩ := writes
    cases found
  · obtain ⟨_, cached, _⟩ := caches
    cases cached

section Registers

variable {code : Code} {pending : List Handle} (sound : code.Sound pending)
include sound

/-- Registers that are written have numbers below their count. -/
theorem Code.Sound.writesTo_bound {index : Nat} {number : Int}
    (writes : code.WritesTo index number) : 0 ≤ number ∧ number < code.registers := by
  obtain ⟨_, _, _, _, _, _, position, _, found⟩ := writes
  exact sound.numbered.bound found

/-- A register belongs to one field. -/
theorem Code.Sound.caches_unique {field other : Field} {raw otherRaw : Bool} {number : Int}
    (caches : code.Caches field raw number) (also : code.Caches other otherRaw number) :
    field = other ∧ raw = otherRaw := by
  obtain ⟨register, cached, position, rfl, found⟩ := caches
  obtain ⟨second, again, place, rfl, there⟩ := also
  cases sound.numbered.distinct found there
  exact sound.numbered.owned cached again

end Registers

section Preservation

variable {start stop : Stage} (sound : start.code.Sound start.targets)
  (kept : start.code.Keeps stop.code) (continues : start.code.Continues stop.code)

include sound kept

/-- Registers that belong to fields were theirs before, if none was given to a field since. -/
theorem Code.Caches.back {field : Field} {raw : Bool} {number : Int}
    (caches : stop.code.Caches field raw number)
    (same : stop.code.cachedRegister? field raw = start.code.cachedRegister? field raw) :
    start.code.Caches field raw number := by
  obtain ⟨register, cached, has⟩ := caches
  rw [same] at cached
  obtain ⟨position, other, equal, found⟩ := sound.numbered.caches field raw register cached
  exact ⟨register, cached, kept.has_back ⟨position, equal, found⟩ has⟩

/-- **Registers that belong to fields behind a first read** were theirs before, or it is the one that
was read into. -/
theorem Code.Caches.of_load {field owner : Field} {raw ownerRaw : Bool} {handle : Handle}
    {number other : Int} (caches : stop.code.Caches owner ownerRaw other)
    (has : stop.code.Has handle (.register number))
    (loaded : stop.code.loaded = ((field, raw), handle) :: start.code.loaded) :
    start.code.Caches owner ownerRaw other ∨ owner = field ∧ ownerRaw = raw ∧ other = number := by
  by_cases same : (owner, ownerRaw) = (field, raw)
  · cases same
    obtain ⟨register, cached, there⟩ := caches
    unfold cachedRegister? at cached
    rw [loaded, List.lookup_cons_self] at cached
    cases cached
    cases there.unique has
    exact .inr ⟨rfl, rfl, rfl⟩
  · refine .inl (caches.back sound kept ?_)
    unfold cachedRegister?
    rw [loaded, List.lookup_cons, beq_false_of_ne same]

include continues

/-- The writes of later code are the old ones and those of the new instructions. -/
theorem Code.Results.writesTo_iff {result? : Option Int}
    (results : stop.code.Results start.code.instructions.size result?) (index : Nat)
    (number : Int) :
    stop.code.WritesTo index number ↔ start.code.WritesTo index number ∨
      index = start.code.instructions.size ∧ result? = some number := by
  rcases Nat.lt_or_ge index start.code.instructions.size with early | late
  · have other : ¬ (index = start.code.instructions.size ∧ result? = some number) := by omega
    rw [or_iff_left other]
    exact ⟨fun writes => writes.back sound kept continues early, fun writes =>
      writes.keep kept continues⟩
  · rw [results.writes index number late, or_iff_right]
    rintro ⟨_, _, _, found, _⟩
    have inside := (Array.getElem?_eq_some_iff.mp found).1
    omega

/-- An act that writes nothing keeps registers shared and owned as they are. -/
theorem Code.Allocated.quiet (allocated : start.code.Allocated start.reserved)
    (writes : ∀ index number, stop.code.WritesTo index number ↔ start.code.WritesTo index number)
    (loaded : stop.code.loaded = start.code.loaded)
    (waiting : ∀ number ∈ stop.reserved, number < stop.code.registers ∧
      ∀ index, ¬ start.code.WritesTo index number)
    (distinct : stop.reserved.Nodup)
    (used : ∀ number : Int, 0 ≤ number → number < stop.code.registers →
      number ∈ stop.reserved ∨ ∃ index, start.code.WritesTo index number) :
    stop.code.Allocated stop.reserved := by
  refine ⟨fun number member => ⟨(waiting number member).1, fun index written => ?_⟩, distinct,
    fun number low high => ?_, fun {first second number} here there apart => ?_,
    fun {field raw number} caches => ?_⟩
  · exact (waiting number member).2 index ((writes index number).mp written)
  · exact (used number low high).imp_right fun ⟨index, written⟩ =>
      ⟨index, (writes index number).mpr written⟩
  · obtain ⟨field, raw, one, two⟩ := allocated.shared ((writes _ _).mp here) ((writes _ _).mp there)
      apart
    exact ⟨field, raw, one.keep kept continues, two.keep kept continues⟩
  · have before := caches.back sound kept (by unfold cachedRegister?; rw [loaded])
    obtain ⟨⟨index, written⟩, plain⟩ := allocated.owned before
    exact ⟨⟨index, (writes index number).mpr written⟩, fun index written =>
      (plain index ((writes index number).mp written)).keep kept continues⟩

/-- An act that writes to a register for the first time. -/
theorem Code.Allocated.first (allocated : start.code.Allocated start.reserved) {number : Int}
    (results : stop.code.Results start.code.instructions.size (some number))
    (untouched : ∀ index, ¬ start.code.WritesTo index number)
    (waiting : ∀ other ∈ stop.reserved, other < stop.code.registers ∧ other ≠ number ∧
      ∀ index, ¬ start.code.WritesTo index other)
    (distinct : stop.reserved.Nodup)
    (used : ∀ other : Int, 0 ≤ other → other < stop.code.registers →
      other ∈ stop.reserved ∨ other = number ∨ ∃ index, start.code.WritesTo index other)
    (owned : ∀ {field : Field} {raw : Bool} {other : Int}, stop.code.Caches field raw other →
      start.code.Caches field raw other ∨
        other = number ∧ stop.code.ReadsPlainly start.code.instructions.size field raw) :
    stop.code.Allocated stop.reserved := by
  have writes := results.writesTo_iff sound kept continues
  refine ⟨fun other member => ?_, distinct, fun other low high => ?_,
    fun {first second other} here there apart => ?_, fun {field raw other} caches => ?_⟩
  · obtain ⟨below, different, unwritten⟩ := waiting other member
    refine ⟨below, fun index written => ?_⟩
    rcases (writes index other).mp written with old | ⟨_, same⟩
    · exact unwritten index old
    · exact different (Option.some.inj same).symm
  · rcases used other low high with waits | rfl | ⟨index, written⟩
    · exact .inl waits
    · exact .inr ⟨_, (writes _ _).mpr (.inr ⟨rfl, rfl⟩)⟩
    · exact .inr ⟨index, (writes _ _).mpr (.inl written)⟩
  · rcases (writes first other).mp here with old | ⟨new, same⟩
    · rcases (writes second other).mp there with older | ⟨_, equal⟩
      · obtain ⟨field, raw, one, two⟩ := allocated.shared old older apart
        exact ⟨field, raw, one.keep kept continues, two.keep kept continues⟩
      · cases equal
        exact absurd old (untouched first)
    · cases same
      rcases (writes second number).mp there with older | ⟨newer, _⟩
      · exact absurd older (untouched second)
      · exact absurd (new.trans newer.symm) apart
  · rcases owned caches with before | ⟨rfl, reads⟩
    · obtain ⟨⟨index, written⟩, plain⟩ := allocated.owned before
      refine ⟨⟨index, (writes _ _).mpr (.inl written)⟩, fun later also => ?_⟩
      rcases (writes later other).mp also with old | ⟨_, same⟩
      · exact (plain later old).keep kept continues
      · cases same
        exact absurd written (untouched index)
    · refine ⟨⟨_, (writes _ _).mpr (.inr ⟨rfl, rfl⟩)⟩, fun later also => ?_⟩
      rcases (writes later other).mp also with old | ⟨rfl, _⟩
      · exact absurd old (untouched later)
      · exact reads

/-- Another plain read of a field. -/
theorem Code.Allocated.reload (allocated : start.code.Allocated start.reserved) {field : Field}
    {raw : Bool} {number : Int} (caches : start.code.Caches field raw number)
    (results : stop.code.Results start.code.instructions.size (some number))
    (reads : stop.code.ReadsPlainly start.code.instructions.size field raw)
    (registers : stop.code.registers = start.code.registers)
    (reserved : stop.reserved = start.reserved)
    (loaded : stop.code.loaded = start.code.loaded) : stop.code.Allocated stop.reserved := by
  have writes := results.writesTo_iff sound kept continues
  obtain ⟨⟨index, written⟩, plain⟩ := allocated.owned caches
  -- Old and new writers of a number that the new read writes to are reads of its field.
  have both : ∀ other writer, start.code.WritesTo writer other → other = number →
      stop.code.ReadsPlainly writer field raw := by
    rintro other writer old rfl
    exact (plain writer old).keep kept continues
  rw [reserved]
  refine ⟨fun other member => ?_, allocated.distinct, fun other low high => ?_,
    fun {first second other} here there apart => ?_, fun {owner ownerRaw other} cachesAlso => ?_⟩
  · have waits := allocated.waiting other member
    rw [registers]
    refine ⟨waits.1, fun writer again => ?_⟩
    rcases (writes writer other).mp again with old | ⟨_, same⟩
    · exact waits.2 writer old
    · cases same
      exact waits.2 index written
  · rw [registers] at high
    exact (allocated.used other low high).imp_right fun ⟨writer, old⟩ =>
      ⟨writer, (writes _ _).mpr (.inl old)⟩
  · rcases (writes first other).mp here with old | ⟨rfl, same⟩
    · rcases (writes second other).mp there with older | ⟨rfl, equal⟩
      · obtain ⟨owner, ownerRaw, one, two⟩ := allocated.shared old older apart
        exact ⟨owner, ownerRaw, one.keep kept continues, two.keep kept continues⟩
      · exact ⟨field, raw, both other first old (Option.some.inj equal).symm, reads⟩
    · rcases (writes second other).mp there with older | ⟨newer, _⟩
      · exact ⟨field, raw, reads, both other second older (Option.some.inj same).symm⟩
      · exact absurd newer.symm apart
  · have before := cachesAlso.back sound kept (by unfold cachedRegister?; rw [loaded])
    obtain ⟨⟨writer, old⟩, all⟩ := allocated.owned before
    refine ⟨⟨writer, (writes _ _).mpr (.inl old)⟩, fun later also => ?_⟩
    rcases (writes later other).mp also with older | ⟨rfl, same⟩
    · exact (all later older).keep kept continues
    · cases same
      obtain ⟨rfl, rfl⟩ := sound.caches_unique before caches
      exact reads

/-- **An act keeps registers allocated.** -/
theorem Allots.allocated (allots : Allots start stop)
    (allocated : start.code.Allocated start.reserved) : stop.code.Allocated stop.reserved := by
  -- The number of a new register is neither written nor waiting.
  have unwritten : ∀ index, ¬ start.code.WritesTo index start.code.registers := fun index written =>
    Int.lt_irrefl _ (sound.writesTo_bound written).2
  have absent : (start.code.registers : Int) ∉ start.reserved := fun member =>
    Int.lt_irrefl _ (allocated.waiting _ member).1
  have old_or_new (number : Int) (high : number < start.code.registers + 1) :
      number < start.code.registers ∨ number = start.code.registers := by
    omega
  cases allots with
  | nothing results registers reserved loaded =>
    have writes := results.writesTo_iff sound kept continues
    refine allocated.quiet sound kept continues (by simpa using writes) loaded ?_ ?_ ?_
    · rw [reserved, registers]
      exact allocated.waiting
    · rw [reserved]
      exact allocated.distinct
    · rw [reserved, registers]
      exact allocated.used
  | reserve results registers reserved loaded =>
    have writes := results.writesTo_iff sound kept continues
    refine allocated.quiet sound kept continues (by simpa using writes) loaded ?_ ?_ ?_
    · rw [reserved, registers, List.forall_mem_cons]
      refine ⟨⟨by omega, unwritten⟩, fun number member => ?_⟩
      have waits := allocated.waiting number member
      exact ⟨by omega, waits.2⟩
    · rw [reserved]
      exact List.nodup_cons.mpr ⟨absent, allocated.distinct⟩
    · intro number low high
      rw [reserved]
      rcases old_or_new number (by omega) with old | rfl
      · exact (allocated.used number low old).imp_left (List.mem_cons_of_mem _)
      · exact .inl List.mem_cons_self
  | fill number results registers reserved loaded =>
    have distinct := allocated.distinct
    have waiting := allocated.waiting
    rw [reserved, List.nodup_cons] at distinct
    rw [reserved, List.forall_mem_cons] at waiting
    refine allocated.first sound kept continues results waiting.1.2 (fun other member => ?_)
      distinct.2 (fun other low high => ?_) fun caches => .inl ?_
    · have waits := waiting.2 other member
      rw [registers]
      exact ⟨waits.1, fun same => distinct.1 (same ▸ member), waits.2⟩
    · rw [registers] at high
      have old := allocated.used other low high
      rw [reserved, List.mem_cons] at old
      tauto
    · exact caches.back sound kept (by unfold cachedRegister?; rw [loaded])
  | load field raw results reads registers reserved has loaded =>
    refine allocated.first sound kept continues results unwritten (fun other member => ?_) ?_
      (fun other low high => ?_) fun {owner ownerRaw other} caches => ?_
    · rw [reserved] at member
      have waits := allocated.waiting other member
      exact ⟨by omega, fun same => absent (same ▸ member), waits.2⟩
    · rw [reserved]
      exact allocated.distinct
    · rw [reserved]
      rcases old_or_new other (by omega) with old | rfl
      · exact (allocated.used other low old).imp_right .inr
      · exact .inr (.inl rfl)
    · rcases caches.of_load sound kept has loaded with before | ⟨rfl, rfl, rfl⟩
      · exact .inl before
      · exact .inr ⟨rfl, reads⟩
  | reload field raw number caches results reads registers reserved loaded =>
    exact allocated.reload sound kept continues caches results reads registers reserved loaded

end Preservation

/-- **A run keeps registers allocated.** -/
theorem Acts.allocated {start stop : Stage} (acts : Acts start stop)
    (sound : start.code.Sound start.targets) (allocated : start.code.Allocated start.reserved) :
    stop.code.Allocated stop.reserved := by
  induction acts with
  | refl => exact allocated
  | tail run act ih =>
    have here := (Acts.steps run).sound sound
    exact (act.allots here.numbered.caches).allocated here (act.steps.keeps here)
      act.steps.continues ih

/-! ### Every result has a register -/

/-- Every instruction with a result slot writes to a register. -/
def Code.Destined (code : Code) : Prop :=
  ∀ (index : Nat) (instruction : Instruction) (slot : Nat),
    code.instructions[index]? = some instruction → instruction.opcode.resultSlot? = some slot →
    ∃ number, code.WritesTo index number

theorem Allots.results {start stop : Stage} (allots : Allots start stop) :
    ∃ result?, stop.code.Results start.code.instructions.size result? := by
  cases allots <;> exact ⟨_, ‹_›⟩

theorem Acts.destined {start stop : Stage} (acts : Acts start stop)
    (sound : start.code.Sound start.targets) (destined : start.code.Destined) :
    stop.code.Destined := by
  induction acts with
  | refl => exact destined
  | @tail middle stop run act ih =>
    have here := (Acts.steps run).sound sound
    obtain ⟨result?, results⟩ := (act.allots here.numbered.caches).results
    intro index instruction slot found result
    rcases Nat.lt_or_ge index middle.code.instructions.size with early | late
    · obtain ⟨number, writes⟩ :=
        ih index instruction slot (act.steps.continues.back found early) result
      exact ⟨number, writes.keep (act.steps.keeps here) act.steps.continues⟩
    · exact results.destined index instruction slot late found result

/-! ### Compiled programs -/

namespace Code

/-- How the registers of a program are allocated. -/
structure AllocatesRegisters (code : Code) : Prop where
  /-- Every instruction that has a result leaves it in a register. -/
  destined : code.Destined
  /-- Two instructions share a register exactly if both are plain reads of one field. -/
  shared : ∀ first second : Nat, first ≠ second →
    ((∃ number, code.WritesTo first number ∧ code.WritesTo second number) ↔
      ∃ field raw, code.ReadsPlainly first field raw ∧ code.ReadsPlainly second field raw)
  /-- The register of any other instruction is written by no second one. -/
  single : ∀ (index other : Nat) (instruction : Instruction) (number : Int),
    code.instructions[index]? = some instruction → instruction.opcode ≠ .readTree →
    code.WritesTo index number → code.WritesTo other number → other = index
  /-- The registers that are written are those below the count. -/
  exact : ∀ number : Int, (∃ index, code.WritesTo index number) ↔
    0 ≤ number ∧ number < code.registers
  /-- Each register is one operand of the arena. -/
  held : ∀ number : Int, 0 ≤ number → number < code.registers →
    ∃! position : Nat, code.arena[position]? = some (.register number)

variable {code : Code} {last : Nat} {result : Handle}

/-- Plain reads of one field write to one register. -/
theorem Finished.reads_share (finished : code.Finished last result) {first second : Nat}
    {field : Field} {raw : Bool} (here : code.ReadsPlainly first field raw)
    (there : code.ReadsPlainly second field raw) :
    ∃ number, code.WritesTo first number ∧ code.WritesTo second number := by
  have writes : ∀ {index : Nat}, code.ReadsPlainly index field raw →
      ∃ (register : Nat) (number : Int), code.cachedRegister? field raw = some (register : Int) ∧
        code.arena[register]? = some (.register number) ∧ code.WritesTo index number := by
    rintro index ⟨instruction, found, opcode, has⟩
    obtain ⟨_, _, position, register, number, rfl, operand, cached, held⟩ :=
      finished.read_found found opcode
    cases (has.unique ⟨position, rfl, operand⟩ :)
    exact ⟨register, number, cached, held, _, 1, _, found, rfl, rfl, register, rfl, held⟩
  obtain ⟨register, number, cached, held, first⟩ := writes here
  obtain ⟨again, other, also, there, second⟩ := writes there
  cases cached.symm.trans also
  cases (held.symm.trans there :)
  exact ⟨number, first, second⟩

/-- Finished code in which no register waits allocates its registers. -/
theorem Finished.allocatesRegisters (finished : code.Finished last result)
    (allocated : code.Allocated []) (destined : code.Destined) : code.AllocatesRegisters := by
  have exact : ∀ number : Int, (∃ index, code.WritesTo index number) ↔
      0 ≤ number ∧ number < code.registers := by
    refine fun number => ⟨?_, fun ⟨low, high⟩ => ?_⟩
    · rintro ⟨_, _, _, _, _, _, _, position, _, found⟩
      exact finished.numbered.bound found
    · exact (allocated.used number low high).resolve_left List.not_mem_nil
  refine ⟨destined, fun first second apart => ⟨?_, ?_⟩, fun index other instruction number found
    different here there => ?_, exact, fun number low high => ?_⟩
  · rintro ⟨number, here, there⟩
    exact allocated.shared here there apart
  · rintro ⟨field, raw, here, there⟩
    exact finished.reads_share here there
  · by_contra apart
    obtain ⟨_, _, _, again, also, opcode, _⟩ := allocated.shared there here apart
    cases found.symm.trans also
    exact different opcode
  · obtain ⟨_, _, _, _, _, _, _, position, _, found⟩ := (exact number).mpr ⟨low, high⟩
    exact ⟨position, found, fun other there => finished.numbered.distinct there found⟩

/-! ### Optimized programs -/

namespace Threaded

variable {current : Code} {upTo : Nat}

/-- **Optimizing keeps the allocation of registers.** -/
theorem allocatesRegisters (threaded : code.Threaded upTo current) (threadable : code.Threadable)
    (allocates : code.AllocatesRegisters) : current.AllocatesRegisters := by
  have register : ∀ (position : Nat) (number : Int), current.arena[position]? =
      some (.register number) ↔ code.arena[position]? = some (.register number) := by
    refine fun position number => ⟨fun found => ?_, fun found =>
      (threaded.keeps threadable).operand found rfl⟩
    obtain ⟨place, same, there⟩ := threaded.has_back ⟨position, rfl, found⟩ rfl
    rwa [Int.ofNat.inj same]
  refine ⟨fun index instruction slot found result => ?_, fun first second apart => ?_,
    fun index other instruction number found different here there => ?_, fun number => ?_,
    fun number low high => ?_⟩
  · have acts : instruction.opcode ≠ .noOp := by
      intro idle
      rw [idle] at result
      cases result
    obtain ⟨number, writes⟩ :=
      allocates.destined index instruction slot (threaded.original found acts) result
    exact ⟨number, (threaded.writesTo_iff threadable).mpr writes⟩
  · simp only [threaded.writesTo_iff threadable, threaded.readsPlainly_iff threadable]
    exact allocates.shared first second apart
  · rw [threaded.writesTo_iff threadable] at here there
    have acts : instruction.opcode ≠ .noOp := by
      intro idle
      obtain ⟨original, slot, handle, before, result, _⟩ := (threaded.writesTo_iff threadable).mpr here
      cases found.symm.trans before
      rw [idle] at result
      cases result
    exact allocates.single index other instruction number (threaded.original found acts) different
      here there
  · simp only [threaded.writesTo_iff threadable, threaded.registers]
    exact allocates.exact number
  · rw [threaded.registers] at high
    simp only [register]
    exact allocates.held number low high

end Threaded

end Code

/-! ### Main result -/

/-- The code generated for a root allocates its registers. -/
theorem generated_allocatesRegisters {registry : Registry} {returnValues : Bool} {root : Node}
    {code : Code} (made : generated registry returnValues root = .ok code) :
    code.AllocatesRegisters := by
  obtain ⟨body, result, rfl, held, acts⟩ := generated_acts made
  have sound := acts.steps.sound Code.sound_empty
  have emitted := @Code.Extends.emit body .halt [result]
  have allots : Allots ⟨body, [], [], root.testPlan returnValues []⟩
      ⟨body.emit .halt [result], [], [], root.plan returnValues⟩ :=
    .nothing (Code.results_push rfl rfl) rfl rfl rfl
  have allocated := allots.allocated sound emitted.keeps emitted.continues
    (acts.allocated Code.sound_empty Code.allocated_empty)
  have destined : body.Destined := acts.destined Code.sound_empty (by rintro _ _ _ ⟨⟩)
  refine (acts.steps.finished held).allocatesRegisters allocated fun index instruction slot found
    result => ?_
  rcases getElem?_of_push found with old | ⟨_, rfl⟩
  · obtain ⟨number, writes⟩ := destined index instruction slot old result
    exact ⟨number, writes.keep emitted.keeps emitted.continues⟩
  · cases result

/-- **Registers of compiled programs.** Whatever tree is compiled and whatever is asked for, two
instructions leave their results in one register exactly if both are plain reads of one field, raw
or not; every other register is written by one instruction; and the registers that are written are
those below the count, each of them one operand of the arena. -/
theorem compileTree_allocatesRegisters (config : CompileConfig) (root : Node) (code : Code)
    (events : List CompileEvent) (compiled : compileTree config root = .ok (code, events)) :
    code.AllocatesRegisters := by
  obtain ⟨_, original, made, rfl⟩ := compileTree_ok_iff.mp ⟨events, compiled⟩
  have allocates := generated_allocatesRegisters made
  unfold optimizedCode
  cases config.optimize with
  | false => exact allocates
  | true =>
    obtain ⟨_, last, result, finished⟩ := generated_ok made
    exact finished.threadable.optimize.allocatesRegisters finished.threadable allocates

/-- A field compared with itself. -/
def repeatedReads : Node :=
  let field : Node := .field ⟨some ⟨0, .empty, .empty, .empty⟩, none, false, false⟩
  .test .anyEq .baseline field field

/-- Two plain reads of a field share the one register of the program. -/
theorem repeatedReads_allocatesRegisters :
    ∃ code events, compileTree ⟨.identity, true, false, false⟩ repeatedReads =
        .ok (code, events) ∧ code.registers = 1 ∧ code.AllocatesRegisters :=
  ⟨_, _, rfl, rfl,
    compileTree_allocatesRegisters ⟨.identity, true, false, false⟩ repeatedReads _ _ rfl⟩

end DisplayFilter
