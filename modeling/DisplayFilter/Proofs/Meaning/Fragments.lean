/-
**Fragments of code and what they do.**

Code for a value that may be absent goes on behind itself if the value is there. Otherwise it goes
to where its jumps lead, with the flag down. Either way no register loses its value, and the stack
and the set are as before.

* `Packet.Prepares`: code for something that may be absent.
* `Packet.Computes`: code that computes a value into an operand.
* `Packet.Pushes`: code that pushes arguments.
* `Packet.Prepares.map`, `Packet.Computes.bind`, `Packet.Computes.both`, `Packet.Pushes.call`:
  fragments made from others.
-/

import DisplayFilter.Compile.Entity
import DisplayFilter.Proofs.Meaning.Ready

namespace DisplayFilter

namespace Packet

open Code
open Relation (ReflTransGen)

variable {V : Type} {packet : Packet V} {before code prep after final : Code}
  {value : Compile.Value} {value? : Option V}

/-- The flag behind the code for something that may be absent: down if it is absent, up if there were
jumps to take and they were not taken. -/
def flagBehind (present : Bool) (jumps : List Handle) (flag : Bool) : Bool :=
  present && (flag || !jumps.isEmpty)

theorem flagBehind_append (present : Bool) (left right : List Handle) (flag : Bool) :
    flagBehind present right (flagBehind true left flag) = flagBehind present (left ++ right) flag := by
  cases left <;> simp [flagBehind]

theorem flagBehind_of_ne_nil (present : Bool) {jumps : List Handle} (jumping : jumps ≠ [])
    (flag : Bool) : flagBehind present jumps flag = present := by
  simp [flagBehind, jumping]

theorem flagBehind_nil (flag : Bool) : flagBehind true [] flag = flag := by
  simp [flagBehind]

/-- The code between two moments of its generation prepares something, present or not, for the
instruction behind it; the jumps are taken when it is absent. -/
def Prepares (packet : Packet V) (code : Code) (present : Bool) (jumps : List Handle)
    (held : Code → Store V → Prop) (after : Code) : Prop :=
  ∀ (final : Code) (target : Nat), after.PartOf final →
    (∀ jump ∈ jumps, final.operand jump = .target target) →
    ∀ (flag : Bool) (store : Store V), packet.Ready code store →
    ∃ store' : Store V, packet.Ready after store' ∧ store.Keeps store' ∧ held final store' ∧
      packet.Goes final (code.instructions.size, flag, store)
        (if present then after.instructions.size else target, flagBehind present jumps flag, store')

/-- The operand of a value holds it, or is empty if the value is absent. -/
def Holds (packet : Packet V) (handle : Handle) (value? : Option V) (final : Code)
    (store : Store V) : Prop :=
  packet.value? store (final.operand handle) = value?

theorem Holds.of_operand {handle : Handle} {store : Store V} {operand : Operand}
    (same : final.operand handle = operand) (value : packet.value? store operand = value?) :
    packet.Holds handle value? final store := by
  unfold Holds
  rw [same]
  exact value

/-- The code between two moments of its generation computes a value, present or not, into the
operand of the result. -/
def Computes (packet : Packet V) (code : Code) (value? : Option V) (result : Compile.Value)
    (after : Code) : Prop :=
  packet.Prepares code value?.isSome result.2 (packet.Holds result.1 value?) after

/-! ### Parts of the code for a value -/

/-- The jump behind an instruction that loads a register is taken if there was nothing to load. -/
theorem goes_guard {result? : Option V} {store : Store V} {target : Nat}
    (part : code.emitJump.2.PartOf final)
    (aims : final.operand code.emitJump.1 = .target target) :
    packet.Goes final (code.instructions.size, result?.isSome, store)
      (if result?.isSome then code.emitJump.2.instructions.size else target, result?.isSome,
        store) := by
  cases result? with
  | none => exact goes_jump part rfl aims
  | some result =>
    have size : code.emitJump.2.instructions.size = code.instructions.size + 1 := Array.size_push _
    rw [Option.isSome_some, if_pos rfl, size]
    exact goes_next part rfl rfl

theorem extends_emitJump : code.Extends code.emitJump.2 :=
  (Extends.newOperand _).trans (.emit _ _)

/-- Notes about the fields that are read do not matter. -/
theorem Computes.note (computes : packet.Computes before value? value code)
    (instructions : after.instructions = code.instructions) (arena : after.arena = code.arena)
    (registers : after.registers = code.registers) (loaded : after.loaded = code.loaded) :
    packet.Computes before value? value after := by
  intro final target part aims flag store ready
  have earlier : code.PartOf final := by
    refine ⟨fun found => part.instruction ?_, fun found settled => part.arena ?_ settled⟩
    · rwa [instructions]
    · rwa [arena]
  obtain ⟨store', ready', rest⟩ := computes final target earlier aims flag store ready
  refine ⟨store', ⟨fun number free => ?_, fun field raw number loads => ?_⟩, ?_⟩
  · rw [registers] at free
    exact ready'.fresh number free
  · obtain ⟨position, cached, held⟩ := loads
    unfold cachedRegister? at cached
    rw [loaded] at cached
    rw [arena] at held
    exact ready'.loaded field raw number ⟨position, cached, held⟩
  · rw [instructions]
    exact rest

/-- Code that is prepared without instructions does not matter. -/
theorem Computes.earlier (computes : packet.Computes code value? value after)
    (sound : before.Sound []) (steps : Steps (before, []) (code, []))
    (size : code.instructions.size = before.instructions.size) :
    packet.Computes before value? value after := by
  intro final target part aims flag store ready
  rw [← size]
  exact computes final target part aims flag store (ready.extend sound steps)

/-- An operand that holds its value itself. -/
theorem computes_operand (sound : code.Sound []) (operand : Operand)
    (noTarget : operand.isTarget = false) (noRegister : operand.isRegister = false) {found : V}
    (holds : ∀ store : Store V, packet.value? store operand = some found) :
    packet.Computes code (some found) ((code.arena.size : Int), []) (code.newOperand operand).2 := by
  intro final target part aims flag store ready
  refine ⟨store, ready.extend sound (ReflTransGen.refl.tail (.operand operand noTarget noRegister)),
    .refl store, ?_, ?_⟩
  · exact .of_operand (part.operand_eq Array.getElem?_push_size noTarget) (holds store)
  · show packet.Goes final _ (_, flagBehind true [] flag, _)
    rw [flagBehind_nil]
    exact .refl _ _

/-- **A register is loaded behind which a jump stands.** -/
theorem computes_load {position : Nat} {number : Int} {opcode : Opcode} {operands : List Handle}
    (size : prep.instructions.size = code.instructions.size)
    (held : prep.arena[position]? = some (.register number))
    (runs : ∀ (final : Code) (flag : Bool) (store : Store V), prep.PartOf final →
      packet.run opcode (final.operand (operands[0]?.getD noOperand))
        (final.operand (operands[1]?.getD noOperand)) (final.operand (operands[2]?.getD noOperand))
        flag store = some (store.load number value?))
    (free : ∀ store, packet.Ready code store →
      store.registers number = none ∨ store.registers number = value?)
    (ready : ∀ store, packet.Ready code store →
      packet.Ready (prep.emit opcode operands).emitJump.2 (store.set number value?)) :
    packet.Computes code value? ((position : Int), [(prep.emit opcode operands).emitJump.1])
      (prep.emit opcode operands).emitJump.2 := by
  intro final target part aims flag store start
  have emitted : (prep.emit opcode operands).PartOf final := part.of_extends extends_emitJump
  have prepared : prep.PartOf final := emitted.of_extends (.emit _ _)
  have step := goes_emit emitted (runs final flag store prepared)
  have guard := @goes_guard V packet _ final value? (store.set number value?) target part
    (aims _ List.mem_cons_self)
  rw [size] at step
  rw [emit_instructions, Array.size_push, size] at guard
  refine ⟨store.set number value?, ready store start,
    (Store.Keeps.refl store).set (free store start), ?_, ?_⟩
  · exact .of_operand (prepared.operand_eq held rfl) (Store.set_registers_self _ _ _)
  · rw [flagBehind_of_ne_nil _ (List.cons_ne_nil _ _)]
    exact step.trans guard

/-- The value of a register that is not taken yet. -/
theorem value?_newRegister {store : Store V} (ready : packet.Ready code store)
    (part : code.newRegister.2.PartOf final) :
    packet.value? store (final.operand code.newRegister.1) = none := by
  have held : code.newRegister.2.arena[code.arena.size]? = some (.register code.registers) :=
    Array.getElem?_push_size
  rw [newRegister_fst, part.operand_eq held rfl]
  exact ready.fresh _ (Int.le_refl _)

/-- A new register keeps its value as code goes on. -/
theorem operand_newRegister (steps : Steps (code.newRegister.2, []) (prep, []))
    (part : prep.PartOf final) :
    final.operand code.newRegister.1 = .register code.registers := by
  have held : code.newRegister.2.arena[code.arena.size]? = some (.register code.registers) :=
    Array.getElem?_push_size
  exact (part.of_steps steps).operand_eq held rfl

/-- A new register can be set, as it belongs to no field. -/
theorem Ready.setNew {store : Store V} (ready : packet.Ready prep store) (sound : code.Sound [])
    (steps : Steps (code.newRegister.2, []) (prep, [])) (value? : Option V) :
    packet.Ready prep (store.set code.registers value?) := by
  refine ready.set ?_ (steps.not_loads sound) value?
  have grown : code.newRegister.2.registers ≤ prep.registers := steps.registers_le
  rw [newRegister_registers] at grown
  omega

/-- The store is ready behind code that sets a new register. -/
theorem Ready.newRegister {store : Store V} (ready : packet.Ready code store)
    (sound : code.Sound []) (steps : Steps (code.newRegister.2, []) (prep, []))
    (value? : Option V) : packet.Ready prep (store.set code.registers value?) :=
  (ready.extend sound ((ReflTransGen.refl.tail .register).trans steps)).setNew sound steps value?

/-- A new register is loaded, and a jump stands behind it. -/
theorem computes_newRegister {opcode : Opcode} {operands : List Handle} (sound : code.Sound [])
    (steps : Steps (code.newRegister.2, []) (prep, []))
    (size : prep.instructions.size = code.instructions.size)
    (runs : ∀ (final : Code) (flag : Bool) (store : Store V), prep.PartOf final →
      packet.run opcode (final.operand (operands[0]?.getD noOperand))
        (final.operand (operands[1]?.getD noOperand)) (final.operand (operands[2]?.getD noOperand))
        flag store = some (store.load code.registers value?))
    (emits : Step (prep, []) (prep.emit opcode operands, [])) :
    packet.Computes code value? (code.newRegister.1, [(prep.emit opcode operands).emitJump.1])
      (prep.emit opcode operands).emitJump.2 := by
  have held : code.newRegister.2.arena[code.arena.size]? = some (.register code.registers) :=
    Array.getElem?_push_size
  refine computes_load size (steps.extends.1.operand held) runs
    (fun store ready => .inl (ready.fresh _ (Int.le_refl _))) fun store ready => ?_
  have all : Steps (code, []) (prep.emit opcode operands, []) :=
    (ReflTransGen.refl.tail .register).trans (steps.tail emits)
  exact (ready.newRegister sound (steps.tail emits) value?).extend (Steps.sound all sound)
    (ReflTransGen.refl.tail (.branch .ifFalseGoto rfl))

/-- The values of two operands, if both are there. -/
def HoldsBoth (packet : Packet V) (left right : Handle) (values? : Option (V × V)) (final : Code)
    (store : Store V) : Prop :=
  ∀ values, values? = some values → packet.Holds left (some values.1) final store ∧
    packet.Holds right (some values.2) final store

/-- **Two values are computed one after the other.** If one of them is absent, the jumps of that one
are taken. -/
theorem Computes.both {middle : Code} {left? right? : Option V} {left right : Compile.Value}
    (first : packet.Computes before left? left middle)
    (second : packet.Computes middle right? right code) (sound : middle.Sound [])
    (steps : Steps (middle, []) (code, right.2)) {values? : Option (V × V)}
    (pair : (left?.bind fun value => right?.map fun other => (value, other)) = values?) :
    packet.Prepares before values?.isSome (left.2 ++ right.2)
      (packet.HoldsBoth left.1 right.1 values?) code := by
  intro final target part aims flag store ready
  obtain ⟨store₁, ready₁, keeps₁, held₁, goes₁⟩ :=
    first final target (part.of_steps steps)
      (fun jump member => aims jump (List.mem_append_left _ member)) flag store ready
  cases left? with
  | none =>
    subst pair
    refine ⟨store₁, ready₁.extend sound steps, keeps₁, fun values given => ?_, goes₁⟩
    cases given
  | some value =>
    obtain ⟨store₂, ready₂, keeps₂, held₂, goes₂⟩ :=
      second final target part (fun jump member => aims jump (List.mem_append_right _ member))
        (flagBehind true left.2 flag) store₁ ready₁
    rw [Option.bind_some] at pair
    have present : values?.isSome = right?.isSome := by rw [← pair, Option.isSome_map]
    refine ⟨store₂, ready₂, keeps₁.trans keeps₂, fun values given => ?_, goes₁.trans ?_⟩
    · rw [given] at pair
      obtain ⟨other, rfl, rfl⟩ := Option.map_eq_some_iff.mp pair
      exact ⟨value?_of_grows keeps₂.grows held₁, held₂⟩
    · rw [present, ← flagBehind_append]
      exact goes₂

/-- **A value is made from what was prepared, if that is there.** -/
theorem Prepares.map {α : Type} {found? : Option α} {jumps : List Handle}
    {held : Code → Store V → Prop} {opcode : Opcode} {operands : List Handle} {change : α → V}
    (prepares : packet.Prepares before found?.isSome jumps held code) (sound : code.Sound [])
    (steps : Steps (code.newRegister.2, []) (prep, []))
    (size : prep.instructions.size = code.instructions.size)
    (runs : ∀ (final : Code) (flag : Bool) (store : Store V) (found : α), prep.PartOf final →
      found? = some found → held final store →
      packet.run opcode (final.operand (operands[0]?.getD noOperand))
        (final.operand (operands[1]?.getD noOperand)) (final.operand (operands[2]?.getD noOperand))
        flag store = some (flag, store.set code.registers (some (change found))))
    (emits : Step (prep, []) (prep.emit opcode operands, [])) :
    packet.Computes before (found?.map change) (code.newRegister.1, jumps)
      (prep.emit opcode operands) := by
  intro final target part aims flag store start
  have prepared : prep.PartOf final := part.of_extends (.emit _ _)
  have made : code.newRegister.2.PartOf final := prepared.of_steps steps
  have register := operand_newRegister steps prepared
  obtain ⟨store₁, ready, keeps, known, goes⟩ :=
    prepares final target (made.of_extends .newRegister) aims flag store start
  have emitted : Steps (code.newRegister.2, []) (prep.emit opcode operands, []) := steps.tail emits
  cases found? with
  | none =>
    exact ⟨store₁, ready.extend sound ((ReflTransGen.refl.tail .register).trans emitted), keeps,
      value?_newRegister ready made, goes⟩
  | some found =>
    have step := goes_emit part (runs final (flagBehind true jumps flag) store₁ found prepared
      rfl known)
    rw [size] at step
    refine ⟨store₁.set code.registers (some (change found)), ready.newRegister sound emitted _,
      keeps.trans ((Store.Keeps.refl store₁).set (.inl ?_)), ?_, goes.trans ?_⟩
    · exact ready.fresh _ (Int.le_refl _)
    · exact .of_operand register (Store.set_registers_self _ _ _)
    · rw [Option.map_some, Option.isSome_some, if_pos rfl, emit_instructions, Array.size_push, size]
      exact step

/-- **A value is looked up for another one, if that is there.** -/
theorem Computes.bind {opcode : Opcode} {operands : List Handle} {find : V → Option V}
    (computes : packet.Computes before value? value code) (sound : code.Sound [])
    (steps : Steps (code.newRegister.2, []) (prep, []))
    (size : prep.instructions.size = code.instructions.size)
    (runs : ∀ (final : Code) (flag : Bool) (store : Store V) (found : V), prep.PartOf final →
      packet.value? store (final.operand value.1) = some found →
      packet.run opcode (final.operand (operands[0]?.getD noOperand))
        (final.operand (operands[1]?.getD noOperand)) (final.operand (operands[2]?.getD noOperand))
        flag store = some (store.load code.registers (find found)))
    (emits : Step (prep, []) (prep.emit opcode operands, [])) :
    packet.Computes before (value?.bind find)
      (code.newRegister.1, value.2 ++ [(prep.emit opcode operands).emitJump.1])
      (prep.emit opcode operands).emitJump.2 := by
  intro final target part aims flag store start
  have emitted : (prep.emit opcode operands).PartOf final := part.of_extends extends_emitJump
  have prepared : prep.PartOf final := emitted.of_extends (.emit _ _)
  have made : code.newRegister.2.PartOf final := prepared.of_steps steps
  have register := operand_newRegister steps prepared
  have moves : Steps (prep.emit opcode operands, []) ((prep.emit opcode operands).emitJump.2,
      [(prep.emit opcode operands).emitJump.1]) := ReflTransGen.refl.tail (.branch .ifFalseGoto rfl)
  obtain ⟨store₁, ready, keeps, held, goes⟩ :=
    computes final target (made.of_extends .newRegister)
      (fun jump member => aims jump (List.mem_append_left _ member)) flag store start
  cases value? with
  | none =>
    have all := ((ReflTransGen.refl.tail .register).trans (steps.tail emits)).trans moves
    exact ⟨store₁, ready.extend sound all, keeps, value?_newRegister ready made, goes⟩
  | some found =>
    have step := goes_emit emitted (runs final (flagBehind true value.2 flag) store₁ found prepared
      held)
    have guard := @goes_guard V packet _ final (find found)
      (store₁.set code.registers (find found)) target part
      (aims _ (List.mem_append_right _ List.mem_cons_self))
    rw [size] at step
    rw [emit_instructions, Array.size_push, size] at guard
    have loaded := ready.newRegister sound (steps.tail emits) (find found)
    refine ⟨store₁.set code.registers (find found), loaded.extend ?_ moves,
      keeps.trans ((Store.Keeps.refl store₁).set (.inl ?_)), ?_, goes.trans ?_⟩
    · exact (Steps.sound (ReflTransGen.refl.tail .register |>.trans (steps.tail emits)) sound).clear
    · exact ready.fresh _ (Int.le_refl _)
    · exact .of_operand register (Store.set_registers_self _ _ _)
    · rw [flagBehind_of_ne_nil _ (List.append_ne_nil_of_right_ne_nil _ (List.cons_ne_nil _ _))]
      exact step.trans guard

/-- **Behind its resolved jumps, a value is in its operand or absent.** -/
theorem Computes.resolved (computes : packet.Computes before value? value code)
    (sound : before.Sound []) (steps : Steps (before, []) (code, value.2))
    (part : (code.resolve value.2).PartOf final) (flag : Bool) {store : Store V}
    (ready : packet.Ready before store) :
    ∃ store' : Store V, packet.Ready (code.resolve value.2) store' ∧ store.Keeps store' ∧
      packet.value? store' (final.operand value.1) = value? ∧
      packet.Goes final (before.instructions.size, flag, store)
        ((code.resolve value.2).instructions.size, flagBehind value?.isSome value.2 flag, store') := by
  have waiting := steps.pending_unresolved.2
  obtain ⟨store', ready', keeps, held, goes⟩ :=
    computes final code.instructions.size (part.of_resolve waiting)
      (fun _ member => part.target_of_resolve waiting member) flag store ready
  rw [ite_self] at goes
  rw [resolve_instructions]
  exact ⟨store', ready'.extend (steps.sound sound) (ReflTransGen.refl.tail (@Step.resolve _ [] _)),
    keeps, held, goes⟩

/-! ### Calls -/

/-- The code between two moments of its generation pushes values, present or not. -/
def Pushes (packet : Packet V) (code : Code) (pushed : List (Option V)) (after : Code) : Prop :=
  ∀ (final : Code), after.PartOf final →
    ∀ (flag : Bool) (store : Store V), packet.Ready code store →
    ∃ (flag' : Bool) (store' : Store V), packet.Ready after store' ∧ store.Grows store' ∧
      store'.members = store.members ∧ store'.stack = pushed.reverse ++ store.stack ∧
      packet.Goes final (code.instructions.size, flag, store)
        (after.instructions.size, flag', store')

/-- **A function is called with the values that were pushed**, which are popped behind it. -/
theorem Pushes.call {called popped : Code} {function : String} {place count : Nat}
    {passed : List (Option V)} (pushes : packet.Pushes code.newRegister.2 passed after)
    (sound : code.Sound []) (steps : Steps (code.newRegister.2, []) (after, []))
    (named : code.arena[place]? = some (.function function)) (counts : passed.length = count)
    (calls : called = (after.newOperand (.count count)).2.emit .callFunction
      [(place : Int), code.newRegister.1, (after.arena.size : Int)])
    (pops : popped = (called.newOperand (.count count)).2.emit .stackPop [(called.arena.size : Int)])
    (moves : Steps (after, []) (popped, [])) :
    packet.Computes code (packet.call function passed) (code.newRegister.1, [popped.emitJump.1])
      popped.emitJump.2 := by
  intro final target part aims flag store ready
  have poppedPart : popped.PartOf final := part.of_extends extends_emitJump
  have calledPart : called.PartOf final := by
    rw [pops] at poppedPart
    exact (poppedPart.of_extends (.emit _ _)).of_extends (.newOperand _)
  have countedPart : (after.newOperand (.count count)).2.PartOf final := by
    rw [calls] at calledPart
    exact calledPart.of_extends (.emit _ _)
  have afterPart : after.PartOf final := countedPart.of_extends (.newOperand _)
  have first : final.operand place = .function function :=
    afterPart.operand_eq (steps.extends.1.operand (getElem?_push_of_some named _)) rfl
  have register := operand_newRegister steps afterPart
  have third : final.operand after.arena.size = .count count :=
    countedPart.operand_eq Array.getElem?_push_size rfl
  obtain ⟨flag₁, store₁, ready₁, grows, members, stack, goes⟩ :=
    pushes final afterPart flag store (ready.extend sound (ReflTransGen.refl.tail .register))
  have call : packet.Goes final (code.instructions.size, flag, store)
      (called.instructions.size, store₁.load code.registers (packet.call function passed)) := by
    rw [calls] at calledPart ⊢
    refine goes.emit rfl calledPart ?_
    show packet.run .callFunction (final.operand place) (final.operand code.newRegister.1)
      (final.operand after.arena.size) flag₁ store₁ = _
    rw [first, register, third, ← counts]
    exact run_callFunction function stack
  have pop : packet.Goes final (code.instructions.size, flag, store)
      (popped.instructions.size, (packet.call function passed).isSome,
        { store₁.set code.registers (packet.call function passed) with stack := store.stack }) := by
    rw [pops] at poppedPart ⊢
    refine call.emit rfl poppedPart ?_
    have operand : final.operand called.arena.size = .count count :=
      (poppedPart.of_extends (.emit _ _)).operand_eq Array.getElem?_push_size rfl
    show packet.run .stackPop (final.operand called.arena.size) _ _ _ _ = _
    rw [operand, ← counts]
    exact run_stackPop stack
  refine ⟨{ store₁.set code.registers (packet.call function passed) with stack := store.stack },
    ?_, ?_, ?_, pop.trans ?_⟩
  · have made := Steps.sound ((ReflTransGen.refl.tail .register).trans steps) sound
    have left : packet.Ready after { store₁.set code.registers (packet.call function passed) with
        stack := store.stack } := (ready₁.setNew sound steps _).congr rfl
    exact left.extend made (moves.tail (.branch .ifFalseGoto rfl))
  · exact ⟨grows.set (.inl (ready.fresh _ (Int.le_refl _))), rfl, members⟩
  · exact .of_operand register (Store.set_registers_self _ _ _)
  · rw [flagBehind_of_ne_nil _ (List.cons_ne_nil _ _)]
    exact goes_guard part (aims _ List.mem_cons_self)

end Packet

end DisplayFilter
