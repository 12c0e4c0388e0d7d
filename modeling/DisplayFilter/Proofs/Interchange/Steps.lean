/-
**Two generations side by side.**

Where code is generated for two trees that differ in the fields they name, the two codes stay alike:
the instructions are the same, and so are the operands, except for those that name a field whose
value-string table is applied. These hold what was written in either tree. What the fields noted as
interesting have to do with each other is left open.

`Compile.Agrees` says of two steps of code generation that, started with alike code, they break off
for the same reason or end with the same result and alike code.

* `Agree`: outcomes that agree.
* `Code.tableHandles`: the operands that name fields whose tables are applied.
* `Code.Alike`: alike code.
* `Compile.Agrees.bind`: one step after another.
* `Compile.valueString_agrees`: the one step that may name different fields.
-/

import DisplayFilter.Proofs.Interchange.Trees
import DisplayFilter.Proofs.Reads.Recording

namespace DisplayFilter

/-- Two outcomes that agree: both fail with the same fault, or both succeed with related results. -/
inductive Agree {ε α β : Type} (related : α → β → Prop) : Except ε α → Except ε β → Prop
  | ok {result : α} {other : β} (done : related result other) :
    Agree related (.ok result) (.ok other)
  | error (fault : ε) : Agree related (.error fault) (.error fault)

theorem Agree.of_ok {ε α β : Type} {related : α → β → Prop} {first : Except ε α}
    {second : Except ε β} {result : α} (agree : Agree related first second)
    (succeeds : first = .ok result) : ∃ other, second = .ok other ∧ related result other := by
  cases agree with
  | ok held =>
    cases succeeds
    exact ⟨_, rfl, held⟩
  | error fault => cases succeeds

/-- What agrees still does after it is changed. -/
theorem Agree.map {ε α β γ δ : Type} {related : α → β → Prop} {changed : γ → δ → Prop}
    {first : Except ε α} {second : Except ε β} {change : α → γ} {change' : β → δ}
    (agree : Agree related first second)
    (done : ∀ result other, related result other → changed (change result) (change' other)) :
    Agree changed (first.map change) (second.map change') := by
  cases agree with
  | ok held => exact .ok (done _ _ held)
  | error fault => exact .error fault

/-! ### Alike code -/

namespace Code

/-- The operands that name the fields whose value-string tables are applied, in order. -/
def tableHandles (code : Code) : List Handle :=
  (code.instructions.toList.filter fun instruction => instruction.opcode = .valueString).map
    Instruction.first

/-- Two codes that differ only in the fields whose value-string tables are applied. Those are the
fields `written` in the one code and the fields `written'` in the other. -/
structure Alike (noted : List Field → List Field → Prop) (written written' : List Field)
    (code code' : Code) : Prop where
  instructions : code'.instructions = code.instructions
  registers : code'.registers = code.registers
  loaded : code'.loaded = code.loaded
  references : code'.references = code.references
  rawReferences : code'.rawReferences = code.rawReferences
  interesting : noted code.interesting code'.interesting
  size : code'.arena.size = code.arena.size
  operand : ∀ handle ∉ code.tableHandles, code'.operand handle = code.operand handle
  tables : code.tableHandles.map code.operand = written.map fun field => .field field false
  tables' : code.tableHandles.map code'.operand = written'.map fun field => .field field false

variable {noted : List Field → List Field → Prop} {written written' : List Field}
  {code code' : Code}

theorem operandAt_natCast (arena : Array Operand) (position : Nat) :
    operandAt arena position = arena[position]?.getD .none := by
  unfold operandAt
  rw [if_neg (Int.not_lt.mpr (Int.natCast_nonneg position)), Int.toNat_natCast]

theorem operandAt_negative (arena : Array Operand) {handle : Int} (negative : handle < 0) :
    operandAt arena handle = .none :=
  if_pos negative

theorem operand_newOperand (new : Operand) (handle : Int) :
    (code.newOperand new).2.operand handle =
      if handle = code.arena.size then new else code.operand handle := by
  unfold operand
  by_cases negative : handle < 0
  · rw [operandAt_negative _ negative, operandAt_negative _ negative, if_neg (by omega)]
  · obtain ⟨position, rfl⟩ := Int.eq_ofNat_of_zero_le (Int.not_lt.mp negative)
    rw [operandAt_natCast, operandAt_natCast, newOperand_arena, Array.getElem?_push]
    simp only [Int.natCast_inj]
    split <;> rfl

/-- There is no operand behind the arena. -/
theorem operand_size : code.operand code.arena.size = .none := by
  rw [operand, operandAt_natCast, Array.getElem?_eq_none (Nat.le_refl _)]
  rfl

theorem tableHandles_emit (opcode : Opcode) (operands : List Handle) :
    (code.emit opcode operands).tableHandles =
      code.tableHandles ++
        if opcode = .valueString then [operands[0]?.getD noOperand] else [] := by
  unfold tableHandles
  rw [emit_instructions, Array.toList_push, List.filter_append, List.map_append]
  congr 1
  by_cases tables : opcode = .valueString
  · rw [if_pos tables, List.filter_cons_of_pos (by exact decide_eq_true tables)]
    rfl
  · have other : ¬ decide (opcode = .valueString) = true := fun held =>
      tables (of_decide_eq_true held)
    rw [if_neg tables, List.filter_cons_of_neg (by exact other)]
    rfl

theorem operand_setNumber {handle : Int} (target : (code.operand handle).isTarget = true)
    (number other : Int) : (code.setNumber handle number).operand other =
      if other = handle then { code.operand handle with number } else code.operand other := by
  obtain ⟨position, held, rfl, found⟩ := holdsTarget_of_isTarget target
  unfold operand
  by_cases negative : other < 0
  · have differs : other ≠ position := by omega
    rw [operandAt_negative _ negative, operandAt_negative _ negative, if_neg differs]
  · obtain ⟨place, rfl⟩ := Int.eq_ofNat_of_zero_le (Int.not_lt.mp negative)
    rw [operandAt_natCast, operandAt_natCast, operandAt_natCast, arena_setNumber]
    by_cases here : place = position
    · rw [here, if_pos rfl, if_pos rfl, found]
      rfl
    · rw [if_neg (by omega), if_neg (by omega)]

namespace Alike

variable (alike : code.Alike noted written written' code')

include alike

/-- An operand that names a field whose table is applied. -/
theorem held {handle : Handle} (member : handle ∈ code.tableHandles) :
    (∃ field, code.operand handle = .field field false) ∧
      ∃ field, code'.operand handle = .field field false := by
  have here : code.operand handle ∈ code.tableHandles.map code.operand :=
    List.mem_map_of_mem member
  have there : code'.operand handle ∈ code.tableHandles.map code'.operand :=
    List.mem_map_of_mem member
  rw [alike.tables] at here
  rw [alike.tables'] at there
  obtain ⟨field, _, same⟩ := List.mem_map.mp here
  obtain ⟨field', _, same'⟩ := List.mem_map.mp there
  exact ⟨⟨field, same.symm⟩, field', same'.symm⟩

/-- Operands are the same, or both name fields. -/
theorem operand_cases (handle : Handle) : code'.operand handle = code.operand handle ∨
    (∃ field, code.operand handle = .field field false) ∧
      ∃ field, code'.operand handle = .field field false := by
  by_cases member : handle ∈ code.tableHandles
  · exact .inr (alike.held member)
  · exact .inl (alike.operand handle member)

theorem number_eq (handle : Handle) :
    (code'.operand handle).number = (code.operand handle).number := by
  rcases alike.operand_cases handle with same | ⟨⟨field, here⟩, field', there⟩
  · rw [same]
  · rw [here, there]
    rfl

/-- One operand that no table is applied to may be put in the same place of both arenas. -/
theorem replace {arena arena' : Array Operand} {place : Handle} {operand : Operand}
    (outside : place ∉ code.tableHandles) (size : arena'.size = arena.size)
    (here : ∀ handle, operandAt arena handle = if handle = place then operand else
      code.operand handle)
    (there : ∀ handle, operandAt arena' handle = if handle = place then operand else
      code'.operand handle) :
    Alike noted written written' { code with arena } { code' with arena := arena' } := by
  have other {handle : Handle} (member : handle ∈ code.tableHandles) : handle ≠ place := by
    rintro rfl
    exact outside member
  refine ⟨alike.instructions, alike.registers, alike.loaded, alike.references, alike.rawReferences,
    alike.interesting, size, fun handle fresh => ?_, ?_, ?_⟩
  · have kept := alike.operand handle fresh
    show operandAt arena' handle = operandAt arena handle
    rw [here, there, kept]
  · rw [← alike.tables]
    refine List.map_congr_left fun handle member => ?_
    exact (here handle).trans (if_neg (other member))
  · rw [← alike.tables']
    refine List.map_congr_left fun handle member => ?_
    exact (there handle).trans (if_neg (other member))

theorem size_notMem : (code.arena.size : Handle) ∉ code.tableHandles := by
  intro member
  obtain ⟨⟨field, here⟩, _⟩ := alike.held member
  rw [operand_size] at here
  cases here

theorem newOperand (new : Operand) :
    (code'.newOperand new).1 = (code.newOperand new).1 ∧
      Alike noted written written' (code.newOperand new).2 (code'.newOperand new).2 := by
  have same : (code'.arena.size : Handle) = code.arena.size := congrArg _ alike.size
  refine ⟨same, alike.replace alike.size_notMem ?_ (operand_newOperand new) fun handle => ?_⟩
  · rw [Array.size_push, Array.size_push, alike.size]
  · rw [← same]
    exact operand_newOperand new handle

theorem newRegister : code'.newRegister.1 = code.newRegister.1 ∧
    Alike noted written written' code.newRegister.2 code'.newRegister.2 := by
  have made := alike.newOperand (.register code.registers)
  unfold Code.newRegister
  rw [alike.registers]
  exact ⟨made.1, made.2.instructions, congrArg (· + 1) alike.registers, made.2.loaded,
    made.2.references, made.2.rawReferences, made.2.interesting, made.2.size, made.2.operand,
    made.2.tables, made.2.tables'⟩

theorem setNumber {handle : Handle} (target : (code.operand handle).isTarget = true)
    (number : Int) : Alike noted written written' (code.setNumber handle number)
      (code'.setNumber handle number) := by
  have outside : handle ∉ code.tableHandles := by
    intro member
    obtain ⟨⟨field, here⟩, _⟩ := alike.held member
    rw [here] at target
    cases target
  have same := alike.operand handle outside
  have frame (code : Code) : code.setNumber handle number =
      { code with arena := (code.setNumber handle number).arena } := by
    unfold Code.setNumber
    split <;> rfl
  rw [frame code, frame code']
  refine alike.replace outside ?_ (operand_setNumber target number) ?_
  · unfold Code.setNumber
    split
    · exact alike.size
    · rw [Array.size_modify, Array.size_modify, alike.size]
  · rw [← same]
    exact operand_setNumber (same ▸ target) number

/-- An instruction that applies no table. -/
theorem emit {opcode : Opcode} (operands : List Handle) (plain : opcode ≠ .valueString) :
    Alike noted written written' (code.emit opcode operands) (code'.emit opcode operands) := by
  have handles : (code.emit opcode operands).tableHandles = code.tableHandles := by
    rw [tableHandles_emit, if_neg plain, List.append_nil]
  refine ⟨?_, alike.registers, alike.loaded, alike.references, alike.rawReferences,
    alike.interesting, alike.size, ?_, ?_, ?_⟩
  · rw [emit_instructions, emit_instructions, alike.instructions]
  · rw [handles]
    exact alike.operand
  · rw [handles]
    exact alike.tables
  · rw [handles]
    exact alike.tables'

theorem emitJump : code'.emitJump.1 = code.emitJump.1 ∧
    Alike noted written written' code.emitJump.2 code'.emitJump.2 := by
  obtain ⟨same, made⟩ := alike.newOperand (.target unresolved)
  refine ⟨same, ?_⟩
  show Alike noted written written' _ ((code'.newOperand (.target unresolved)).2.emit .ifFalseGoto
    [(code'.newOperand (.target unresolved)).1])
  rw [same]
  exact made.emit _ nofun

/-- **An instruction that applies the tables of two fields.** -/
theorem applyTable (field field' : Field) (source register : Handle) :
    Alike noted (written ++ [field]) (written' ++ [field'])
      ((code.newOperand (.field field false)).2.emit .valueString
        [code.arena.size, source, register])
      ((code'.newOperand (.field field' false)).2.emit .valueString
        [code.arena.size, source, register]) := by
  have handles : ((code.newOperand (.field field false)).2.emit .valueString
      [(code.arena.size : Handle), source, register]).tableHandles =
        code.tableHandles ++ [(code.arena.size : Handle)] :=
    tableHandles_emit _ _
  have same : (code'.arena.size : Handle) = code.arena.size := congrArg _ alike.size
  have old {handle : Handle} (member : handle ∈ code.tableHandles) :
      handle ≠ code.arena.size := by
    rintro rfl
    exact alike.size_notMem member
  refine ⟨?_, alike.registers, alike.loaded, alike.references, alike.rawReferences,
    alike.interesting, ?_, ?_, ?_, ?_⟩
  · rw [emit_instructions, emit_instructions]
    exact congrArg (fun instructions : Array Instruction =>
      instructions.push (.of instructions.size .valueString [code.arena.size, source, register]))
      alike.instructions
  · exact (Array.size_push ..).trans ((congrArg (· + 1) alike.size).trans (Array.size_push ..).symm)
  · intro handle fresh
    rw [handles, List.mem_append, List.mem_singleton, not_or] at fresh
    show (code'.newOperand _).2.operand handle = (code.newOperand _).2.operand handle
    rw [operand_newOperand, operand_newOperand, same, if_neg fresh.2, if_neg fresh.2]
    exact alike.operand handle fresh.1
  · rw [handles, List.map_append, List.map_append, ← alike.tables]
    refine congrArg₂ _ (List.map_congr_left fun handle member => ?_) (congrArg ([·]) ?_)
    · exact (operand_newOperand _ handle).trans (if_neg (old member))
    · exact (operand_newOperand _ _).trans (if_pos rfl)
  · rw [handles, List.map_append, List.map_append, ← alike.tables']
    refine congrArg₂ _ (List.map_congr_left fun handle member => ?_) (congrArg ([·]) ?_)
    · exact (operand_newOperand _ handle).trans (if_neg (same ▸ old member))
    · exact (operand_newOperand _ _).trans (if_pos same.symm)

theorem fixup (handles : List Handle) :
    (code'.fixup handles).2 = (code.fixup handles).2 ∧
      Alike noted written written' (code.fixup handles).1 (code'.fixup handles).1 := by
  induction handles generalizing code code' with
  | nil => exact ⟨rfl, alike⟩
  | cons handle handles ih =>
    have number := alike.number_eq handle
    have kinds : (code'.operand handle).isTarget = (code.operand handle).isTarget ∧
        (code'.operand handle).kindName = (code.operand handle).kindName := by
      rcases alike.operand_cases handle with same | ⟨⟨field, here⟩, field', there⟩
      · rw [same]
        exact ⟨rfl, rfl⟩
      · rw [here, there]
        exact ⟨rfl, rfl⟩
    unfold Code.fixup
    simp only [kinds.1, kinds.2, number]
    split
    · exact ⟨rfl, alike⟩
    rename_i target
    rw [Bool.not_eq_true, Bool.not_eq_false'] at target
    split
    · exact ⟨rfl, alike⟩
    · rw [alike.instructions]
      exact ih (alike.setNumber target _)

theorem cacheRegister (field : Field) (raw : Bool) (register : Handle) :
    Alike noted written written' (code.cacheRegister field raw register)
      (code'.cacheRegister field raw register) :=
  ⟨alike.instructions, alike.registers, congrArg (((field, raw), register) :: ·) alike.loaded,
    alike.references, alike.rawReferences, alike.interesting, alike.size, alike.operand,
    alike.tables, alike.tables'⟩

theorem addReference (field : Field) (raw : Bool) :
    Alike noted written written' (code.addReference field raw) (code'.addReference field raw) := by
  unfold Code.addReference
  split
  · exact ⟨alike.instructions, alike.registers, alike.loaded, alike.references,
      congrArg (addOnce · field) alike.rawReferences, alike.interesting, alike.size, alike.operand,
      alike.tables, alike.tables'⟩
  · exact ⟨alike.instructions, alike.registers, alike.loaded,
      congrArg (addOnce · field) alike.references, alike.rawReferences, alike.interesting,
      alike.size, alike.operand, alike.tables, alike.tables'⟩

end Alike

end Code

/-! ### What two registries have to do with each other -/

/-- Two registries under which fields may stand in for one another: which fields those are, and what
the lists of interesting fields have to do with each other. -/
structure Pairing (registry registry' : Registry) where
  same : Field → Field → Prop
  noted : List Field → List Field → Prop
  named : KeepsNames same
  start : noted [] []
  /-- Fields that stand in for one another have one field that stands for both. -/
  canonical : ∀ {field field' : Field}, same field field' →
    registry'.canonical field' = registry.canonical field
  /-- Noting such fields keeps the lists together. -/
  noting : ∀ {field field' : Field} {fields fields' : List Field}, same field field' →
    noted fields fields' →
    noted ((registry.siblings (registry.canonical field)).foldl addOnce fields)
      ((registry'.siblings (registry.canonical field)).foldl addOnce fields')

variable {registry registry' : Registry}

theorem Code.Alike.markInteresting (pairing : Pairing registry registry')
    {written written' : List Field} {code code' : Code}
    (alike : code.Alike pairing.noted written written' code') {field field' : Field}
    (same : pairing.same field field') :
    Code.Alike pairing.noted written written'
      (code.markInteresting registry (registry.canonical field))
      (code'.markInteresting registry' (registry.canonical field)) :=
  ⟨alike.instructions, alike.registers, alike.loaded, alike.references, alike.rawReferences,
    pairing.noting same alike.interesting, alike.size, alike.operand, alike.tables, alike.tables'⟩

/-! ### Steps that agree -/

namespace Compile

open Gen

variable {α β : Type} {noted : List Field → List Field → Prop}
  {written written' more more' : List Field} {step step' : Gen α} {next next' : α → Gen β}

/-- Two steps of code generation that, started with alike code, break off for the same reason or end
with the same result and alike code. On the way they apply the tables of the given fields. -/
def Agrees (noted : List Field → List Field → Prop) (written written' : List Field)
    (step step' : Gen α) : Prop :=
  ∀ ⦃before before' : List Field⦄ ⦃code code' : Code⦄, code.Alike noted before before' code' →
    Agree (fun ended ended' => ended'.1 = ended.1 ∧
        ended.2.Alike noted (before ++ written) (before' ++ written') ended'.2)
      (step code) (step' code')

namespace Agrees

/-- **One step after another.** -/
theorem bind (first : Agrees noted written written' step step')
    (rest : ∀ result, Agrees noted more more' (next result) (next' result)) :
    Agrees noted (written ++ more) (written' ++ more') (step >>= next) (step' >>= next') := by
  intro before before' code code' alike
  have ended := first alike
  show Agree _ ((step code).bind fun reached => next reached.1 reached.2)
    ((step' code').bind fun reached => next' reached.1 reached.2)
  generalize step code = outcome, step' code' = outcome' at ended
  cases ended with
  | error violation => exact .error violation
  | @ok reached reached' done =>
    have later := rest reached.1 done.2
    rw [List.append_assoc, List.append_assoc] at later
    show Agree _ (next reached.1 reached.2) (next' reached'.1 reached'.2)
    rw [done.1]
    exact later

/-- A step that applies no table may come first. -/
theorem behind (idle : Agrees noted [] [] step step')
    (rest : ∀ result, Agrees noted written written' (next result) (next' result)) :
    Agrees noted written written' (step >>= next) (step' >>= next') :=
  idle.bind rest

/-- A step that applies no table may follow. -/
theorem andThen (first : Agrees noted written written' step step')
    (idle : ∀ result, Agrees noted [] [] (next result) (next' result)) :
    Agrees noted written written' (step >>= next) (step' >>= next') := by
  have both := first.bind idle
  rwa [List.append_nil, List.append_nil] at both

end Agrees

/-- A step that changes alike code alike. -/
theorem agrees_change {change change' : Code → α × Code}
    (kept : ∀ {before before' : List Field} {code code' : Code},
      code.Alike noted before before' code' → (change' code').1 = (change code).1 ∧
        (change code).2.Alike noted before before' (change' code').2) :
    Agrees noted [] [] (modifyGet change : Gen α) (modifyGet change') := by
  intro before before' code code' alike
  rw [List.append_nil, List.append_nil]
  exact .ok (kept alike)

theorem agrees_pure (value : α) : Agrees noted [] [] (pure value : Gen α) (pure value) :=
  agrees_change fun alike => ⟨rfl, alike⟩

theorem agrees_fail (violation : Violation) :
    Agrees noted written written' (Gen.fail violation : Gen α) (Gen.fail violation) :=
  fun _ _ _ _ _ => .error violation

theorem agrees_newOperand (operand : Operand) :
    Agrees noted [] [] (Gen.newOperand operand) (Gen.newOperand operand) :=
  agrees_change fun alike => alike.newOperand operand

theorem agrees_newRegister : Agrees noted [] [] Gen.newRegister Gen.newRegister :=
  agrees_change fun alike => alike.newRegister

theorem agrees_newTarget : Agrees noted [] [] Gen.newTarget Gen.newTarget :=
  agrees_change fun alike => alike.newOperand _

theorem agrees_emit {opcode : Opcode} (operands : List Handle) (plain : opcode ≠ .valueString) :
    Agrees noted [] [] (Gen.emit opcode operands) (Gen.emit opcode operands) :=
  agrees_change fun alike => ⟨rfl, alike.emit operands plain⟩

theorem agrees_emitJump : Agrees noted [] [] Gen.emitJump Gen.emitJump :=
  agrees_change fun alike => alike.emitJump

theorem agrees_fixup (handles : List Handle) :
    Agrees noted [] [] (Gen.fixup handles) (Gen.fixup handles) := by
  intro before before' code code' alike
  obtain ⟨same, kept⟩ := alike.fixup handles
  rw [List.append_nil, List.append_nil]
  unfold Gen.fixup
  cases done : code.fixup handles with
  | mk after stopped =>
    cases done' : code'.fixup handles with
    | mk after' stopped' =>
      rw [done, done'] at same kept
      obtain rfl : stopped' = stopped := same
      cases stopped' with
      | none => exact .ok ⟨rfl, kept⟩
      | some violation => exact .error violation

/-- An answer that is found without the code. -/
theorem agrees_lift {answer : Except Violation α}
    (found : ∀ value, answer = .ok value →
      Agrees noted written written' (next value) (next' value)) :
    Agrees noted written written' ((liftM answer : Gen α) >>= next) (liftM answer >>= next') := by
  intro before before' code code' alike
  cases answer with
  | ok value => exact found value rfl alike
  | error violation => exact .error violation

theorem agrees_plainRegister (field : Field) (raw : Bool) :
    Agrees noted [] [] (plainRegister field raw) (plainRegister field raw) := by
  intro before before' code code' alike
  have cached : code'.cachedRegister? field raw = code.cachedRegister? field raw := by
    unfold Code.cachedRegister?
    rw [alike.loaded]
  have run (code : Code) : plainRegister field raw code =
      .ok ((code.cachedRegister? field raw).elim
        (code.newRegister.1, code.newRegister.2.cacheRegister field raw code.newRegister.1)
        fun register => (register, code)) := by
    unfold plainRegister
    simp only [bind, StateT.bind, get, getThe, MonadStateOf.get, StateT.get, pure, Except.pure,
      Except.bind]
    cases code.cachedRegister? field raw <;> rfl
  rw [run, run, cached, List.append_nil, List.append_nil]
  cases code.cachedRegister? field raw with
  | some register => exact .ok ⟨rfl, alike⟩
  | none =>
    obtain ⟨same, made⟩ := alike.newRegister
    rw [same]
    exact .ok ⟨rfl, made.cacheRegister field raw _⟩

/-- **The table of one field is applied in the one code and that of another in the other.** -/
theorem valueString_agrees (field field' : Field) (source : Handle) :
    Agrees noted [field] [field'] (valueString field source) (valueString field' source) := by
  unfold valueString
  refine agrees_newRegister.behind fun register => ?_
  intro before before' code code' alike
  have same : (code'.arena.size : Handle) = code.arena.size := congrArg _ alike.size
  have applied := alike.applyTable field field' source register
  obtain ⟨jump, emitted⟩ := applied.emitJump
  have run (field : Field) (code : Code) : (do
      let operand ← Gen.newOperand (.field field false)
      Gen.emit .valueString [operand, source, register]
      return (register, ← Gen.emitJump) : Gen (Handle × Handle)) code =
        let applied := (code.newOperand (.field field false)).2.emit .valueString
          [code.arena.size, source, register]
        .ok ((register, applied.emitJump.1), applied.emitJump.2) := rfl
  rw [run, run, same]
  exact .ok ⟨congrArg (Prod.mk register) jump, emitted⟩

end Compile

end DisplayFilter
