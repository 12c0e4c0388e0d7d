/-
**The shape of generated code.**

At any moment of code generation each instruction has one of three shapes: a plain instruction over
operands that are no jump targets, a read of a field into the register that belongs to the field, or
a branch with a jump target. Registers are numbered without gaps or repetitions, and no two fields
share one.

* `Code.Fits`: the shapes of an instruction.
* `Code.Sound`: what holds of code while it is generated.
* `Code.Steps.sound`: a run keeps code sound.
-/

import DisplayFilter.Proofs.Generation.Cells

namespace DisplayFilter.Code

variable {code before after : Code} {pending : List Handle}

/-! ### Operands up to the numbers of jump targets -/

/-- Later code has the operands of earlier code, up to the numbers of jump targets, and the
registers of the fields that were read. -/
structure Keeps (before after : Code) : Prop where
  operand : ∀ {position : Nat} {operand : Operand}, before.arena[position]? = some operand →
    operand.isTarget = false → after.arena[position]? = some operand
  target : ∀ {position : Nat} {number : Int}, before.arena[position]? = some (.target number) →
    ∃ later, after.arena[position]? = some (.target later)
  cached : ∀ {field : Field} {raw : Bool} {register : Handle},
    before.cachedRegister? field raw = some register →
      after.cachedRegister? field raw = some register

theorem Extends.keeps (grown : before.Extends after) : before.Keeps after :=
  ⟨fun found _ => grown.operand found, fun found => ⟨_, grown.operand found⟩, grown.cached⟩

/-- A handle of a jump target. -/
def HoldsTarget (code : Code) (handle : Handle) : Prop :=
  ∃ (position : Nat) (number : Int), handle = position ∧
    code.arena[position]? = some (.target number)

theorem Keeps.holdsValue (kept : before.Keeps after) {handle : Handle}
    (value : before.HoldsValue handle) : after.HoldsValue handle := by
  obtain ⟨position, operand, same, found, plain⟩ := value
  exact ⟨position, operand, same, kept.operand found plain, plain⟩

theorem Keeps.holdsTarget (kept : before.Keeps after) {handle : Handle}
    (target : before.HoldsTarget handle) : after.HoldsTarget handle := by
  obtain ⟨position, number, same, found⟩ := target
  obtain ⟨later, settled⟩ := kept.target found
  exact ⟨position, later, same, settled⟩

/-- Resolving jump targets keeps everything else. -/
theorem keeps_resolve {targets : List Handle}
    (cells : ∀ target ∈ targets, code.HoldsTarget target) : code.Keeps (code.resolve targets) := by
  refine ⟨fun {position operand} found plain => ?_, fun {position number} found => ?_,
    fun {field raw register} found => ?_⟩
  · have outside : (position : Int) ∉ targets := by
      intro member
      obtain ⟨same, number, equal, cell⟩ := cells _ member
      rw [← Int.ofNat.inj equal, found] at cell
      cases cell
      cases plain
    rw [arena_resolve, if_neg outside, found]
  · by_cases member : (position : Int) ∈ targets
    · refine ⟨code.instructions.size, ?_⟩
      rw [arena_resolve, if_pos member, found]
      rfl
    · refine ⟨number, ?_⟩
      rw [arena_resolve, if_neg member, found]
  · unfold cachedRegister?
    rw [resolve_loaded]
    exact found

/-! ### Instructions -/

/-- The shapes of the instruction at an index. -/
inductive Fits (code : Code) (index : Nat) : Instruction → Prop
  | plain (opcode : Opcode) (operands : List Handle) (free : opcode.isPlain = true)
      (count : operands.length = opcode.operandCount)
      (values : ∀ handle ∈ operands, code.HoldsValue handle) :
      Fits code index (.of index opcode operands)
  | read (field : Field) (raw : Bool) (position : Nat) (register : Handle)
      (operand : code.arena[position]? = some (.field field raw))
      (cached : code.cachedRegister? field raw = some register) :
      Fits code index (.of index .readTree [(position : Int), register])
  | branch (opcode : Opcode) (target : Handle) (branches : opcode.isBranch = true)
      (cell : code.HoldsTarget target) : Fits code index (.of index opcode [target])

theorem Fits.keep {index : Nat} {instruction : Instruction} (fits : before.Fits index instruction)
    (kept : before.Keeps after) : after.Fits index instruction := by
  cases fits with
  | plain opcode operands free count values =>
    exact .plain opcode operands free count fun handle member =>
      kept.holdsValue (values handle member)
  | read field raw position register operand cached =>
    exact .read field raw position register (kept.operand operand rfl) (kept.cached cached)
  | branch opcode target branches cell =>
    exact .branch opcode target branches (kept.holdsTarget cell)

/-- Every instruction has one of the shapes. -/
def Shaped (code : Code) : Prop :=
  ∀ (index : Nat) (instruction : Instruction), code.instructions[index]? = some instruction →
    code.Fits index instruction

theorem Shaped.keep (shaped : before.Shaped) (kept : before.Keeps after)
    (same : after.instructions = before.instructions) : after.Shaped := by
  intro index instruction found
  rw [same] at found
  exact (shaped index instruction found).keep kept

theorem Shaped.emit (shaped : code.Shaped) {opcode : Opcode} {operands : List Handle}
    (fits : code.Fits code.instructions.size (.of code.instructions.size opcode operands)) :
    (code.emit opcode operands).Shaped := by
  intro index instruction found
  rcases getElem?_of_push found with old | ⟨rfl, rfl⟩
  · exact (shaped index instruction old).keep (Extends.emit opcode operands).keeps
  · exact fits.keep (Extends.emit opcode operands).keeps

/-! ### Registers -/

/-- Registers are numbered below their count and without repetition, and no two fields share one. -/
structure Numbered (code : Code) : Prop where
  bound : ∀ {position : Nat} {number : Int}, code.arena[position]? = some (.register number) →
    0 ≤ number ∧ number < code.registers
  distinct : ∀ {first second : Nat} {number : Int},
    code.arena[first]? = some (.register number) → code.arena[second]? = some (.register number) →
    first = second
  owned : ∀ {field other : Field} {raw otherRaw : Bool} {register : Handle},
    code.cachedRegister? field raw = some register →
    code.cachedRegister? other otherRaw = some register → field = other ∧ raw = otherRaw
  caches : code.CachesRegisters

/-- Other operands than registers do not matter to the numbering. -/
theorem Numbered.congr (numbered : before.Numbered)
    (same : ∀ (position : Nat) (number : Int), after.arena[position]? = some (.register number) ↔
      before.arena[position]? = some (.register number))
    (count : after.registers = before.registers) (loads : after.loaded = before.loaded) :
    after.Numbered := by
  have cached : ∀ field raw, after.cachedRegister? field raw = before.cachedRegister? field raw := by
    intro field raw
    unfold cachedRegister?
    rw [loads]
  refine ⟨fun {position number} found => ?_, fun {first second number} found again => ?_,
    fun {field other raw otherRaw register} found again => ?_, fun field raw register found => ?_⟩
  · rw [count]
    exact numbered.bound ((same position number).mp found)
  · exact numbered.distinct ((same first number).mp found) ((same second number).mp again)
  · rw [cached] at found again
    exact numbered.owned found again
  · rw [cached] at found
    obtain ⟨position, number, held, register⟩ := numbered.caches field raw register found
    exact ⟨position, number, held, (same position number).mpr register⟩

theorem Numbered.newOperand (numbered : code.Numbered) {operand : Operand}
    (noRegister : operand.isRegister = false) : (code.newOperand operand).2.Numbered := by
  refine numbered.congr (fun position number => ⟨fun found => ?_, fun found => ?_⟩) rfl rfl
  · rcases getElem?_of_push found with old | ⟨_, same⟩
    · exact old
    · rw [← same] at noRegister
      cases noRegister
  · exact getElem?_push_of_some found operand

theorem Numbered.newRegister (numbered : code.Numbered) : code.newRegister.2.Numbered := by
  refine ⟨fun {position number} found => ?_, fun {first second number} found again => ?_,
    numbered.owned, numbered.caches.extend .newRegister rfl⟩
  · rw [newRegister_registers]
    rcases getElem?_of_push found with old | ⟨_, same⟩
    · have bound := numbered.bound old
      omega
    · cases same
      omega
  · rcases getElem?_of_push found with old | ⟨here, same⟩ <;>
      rcases getElem?_of_push again with older | ⟨there, equal⟩
    · exact numbered.distinct old older
    · cases equal
      exact absurd (numbered.bound old).2 (Int.lt_irrefl _)
    · cases same
      exact absurd (numbered.bound older).2 (Int.lt_irrefl _)
    · rw [here, there]

/-- The register made for a field is not that of another one. -/
theorem Numbered.load (numbered : code.Numbered) (field : Field) (raw : Bool) :
    (code.newRegister.2.cacheRegister field raw code.newRegister.1).Numbered := by
  have outside : ∀ other otherRaw, code.cachedRegister? other otherRaw ≠ some code.newRegister.1 := by
    intro other otherRaw found
    obtain ⟨position, number, held, register⟩ := numbered.caches _ _ _ found
    have inside := (Array.getElem?_eq_some_iff.mp register).1
    have same : code.arena.size = position := Int.ofNat.inj held
    omega
  refine ⟨numbered.newRegister.bound, numbered.newRegister.distinct,
    fun {first second raw₁ raw₂ register} found again => ?_, ?_⟩
  · rw [cacheRegister_cachedRegister?, newRegister_cachedRegister?] at found again
    split at found <;> split at again
    · rename_i here there
      cases here
      cases there
      exact ⟨rfl, rfl⟩
    · cases found
      exact absurd again (outside _ _)
    · cases again
      exact absurd found (outside _ _)
    · exact numbered.owned found again
  · intro other otherRaw register found
    rw [cacheRegister_cachedRegister?, newRegister_cachedRegister?] at found
    split at found
    · cases found
      exact ⟨code.arena.size, code.registers, rfl, Array.getElem?_push_size⟩
    · exact numbered.newRegister.caches other otherRaw register found

theorem Numbered.resolve (numbered : code.Numbered) {targets : List Handle}
    (cells : ∀ target ∈ targets, code.HoldsTarget target) : (code.resolve targets).Numbered := by
  refine numbered.congr (fun position number => ⟨fun found => ?_, fun found => ?_⟩)
    (resolve_registers targets) (resolve_loaded targets)
  · rw [arena_resolve] at found
    split at found
    · rename_i member
      obtain ⟨same, target, equal, cell⟩ := cells _ member
      rw [Int.ofNat.inj equal, cell] at found
      cases found
    · exact found
  · exact (keeps_resolve cells).operand found rfl

/-! ### Runs -/

/-- What holds of code while it is generated. -/
structure Sound (code : Code) (pending : List Handle) : Prop where
  shaped : code.Shaped
  numbered : code.Numbered
  targets : ∀ target ∈ pending, code.HoldsTarget target

theorem sound_empty : empty.Sound [] := by
  refine ⟨fun index instruction found => ?_, ⟨fun found => ?_, fun found => ?_, fun found => ?_,
    cachesRegisters_empty⟩, List.forall_mem_nil _⟩
  · cases found
  · cases found
  · cases found
  · cases found

/-- **A step keeps code sound.** -/
theorem Step.sound {start stop : Code × List Handle} (step : Step start stop)
    (sound : start.1.Sound start.2) : stop.1.Sound stop.2 := by
  obtain ⟨shaped, numbered, targets⟩ := sound
  cases step with
  | @operand code pending operand noTarget noRegister =>
    have kept := (@Extends.newOperand code operand).keeps
    exact ⟨shaped.keep kept rfl, numbered.newOperand noRegister, fun target member =>
      kept.holdsTarget (targets target member)⟩
  | @register code pending =>
    have kept := (@Extends.newRegister code).keeps
    exact ⟨shaped.keep kept rfl, numbered.newRegister, fun target member =>
      kept.holdsTarget (targets target member)⟩
  | @load code pending field raw first =>
    have grown := ((@Step.load code [] field raw first).extends (.refl code) (List.forall_mem_nil _)).1
    exact ⟨shaped.keep grown.keeps rfl, numbered.load field raw, fun target member =>
      grown.keeps.holdsTarget (targets target member)⟩
  | emit opcode operands plain count values =>
    exact ⟨shaped.emit (.plain opcode operands plain count values),
      numbered.congr (fun _ _ => .rfl) rfl rfl, targets⟩
  | read field raw position register operand cached =>
    exact ⟨shaped.emit (.read field raw position register operand cached),
      numbered.congr (fun _ _ => .rfl) rfl rfl, targets⟩
  | @branch code pending opcode branches =>
    have kept := (@Extends.newOperand code (.target unresolved)).keeps
    have cell : code.newTarget.2.HoldsTarget code.newTarget.1 :=
      ⟨code.arena.size, unresolved, rfl, Array.getElem?_push_size⟩
    refine ⟨(shaped.keep kept rfl).emit (.branch opcode _ branches cell),
      (@Numbered.newOperand code numbered (.target unresolved) rfl).congr (fun _ _ => .rfl) rfl
        rfl, fun target member => ?_⟩
    rcases List.mem_append.mp member with old | new
    · exact kept.holdsTarget (targets target old)
    · rw [List.mem_singleton.mp new]
      exact cell
  | @resolve code pending resolved =>
    have cells : ∀ target ∈ resolved, code.HoldsTarget target := fun target member =>
      targets target (List.mem_append_right _ member)
    exact ⟨shaped.keep (keeps_resolve cells) (resolve_instructions resolved),
      numbered.resolve cells, fun target member =>
      (keeps_resolve cells).holdsTarget (targets target (List.mem_append_left _ member))⟩
  | @note code pending interesting references rawReferences =>
    have kept : code.Keeps { code with interesting, references, rawReferences } :=
      ⟨fun found _ => found, fun found => ⟨_, found⟩, id⟩
    exact ⟨shaped.keep kept rfl, numbered.congr (fun _ _ => .rfl) rfl rfl, targets⟩

/-- **A run keeps code sound.** -/
theorem Steps.sound {start stop : Code × List Handle} (steps : Steps start stop)
    (sound : start.1.Sound start.2) : stop.1.Sound stop.2 := by
  induction steps with
  | refl => exact sound
  | tail _ step ih => exact step.sound ih

end DisplayFilter.Code
