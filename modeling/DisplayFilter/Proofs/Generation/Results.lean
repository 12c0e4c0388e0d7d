/-
**What the code for a value emits and returns.**

The code for a value branches only to skip what cannot be done without the value, and the operand it
returns stands for the value: it is the literal itself or the register of the last result. The
registers of fields that were read before matter here: a plain read returns the register of its field,
whatever that is.

* `Code.HoldsResult`: the operands that can be returned.
* `Code.AddsSkips`: later code in which every branch that was added skips something.
* `Compile.entity_leaves`: the code for a value returns the operand of the value and adds such branches.
-/

import DisplayFilter.Proofs.Generation.Delivery
import DisplayFilter.Proofs.Generation.Trace

namespace DisplayFilter

/-- Whether an operand is one that holds a value: a register, a constant or a pattern. -/
def Operand.isResult (operand : Operand) : Bool :=
  match operand.content with
  | .register | .constant _ | .pattern _ => true
  | _ => false

namespace Code

variable {code before middle after : Code} {handle : Handle}

/-! ### Results -/

/-- A handle of a register, a constant or a pattern. -/
def HoldsResult (code : Code) (handle : Handle) : Prop :=
  ∃ (position : Nat) (operand : Operand), handle = position ∧
    code.arena[position]? = some operand ∧ operand.isResult = true

theorem LastResult.holdsResult {start stop : Nat} (last : code.LastResult start stop handle) :
    code.HoldsResult handle := by
  obtain ⟨number, _, ⟨position, same, found⟩, _⟩ := last
  exact ⟨position, _, same, found, rfl⟩

/-- What stands for a value is a register, a constant or a pattern. -/
theorem ValueOf.holdsResult {node : Node} {start stop : Nat}
    (value : code.ValueOf node start stop handle) : code.HoldsResult handle := by
  unfold ValueOf at value
  split at value
  · obtain ⟨position, same, found⟩ := value
    exact ⟨position, _, same, found, rfl⟩
  · obtain ⟨position, same, found⟩ := value
    exact ⟨position, _, same, found, rfl⟩
  · exact value.holdsResult

/-! ### Branches -/

/-- Later code has more instructions, and every branch among these is taken when a value is absent. -/
def AddsSkips (before after : Code) : Prop :=
  ∃ added, after.instructions.toList = before.instructions.toList ++ added ∧
    ∀ instruction ∈ added, instruction.opcode.isBranch = true → instruction.opcode = .ifFalseGoto

namespace AddsSkips

theorem of_same (same : after.instructions = before.instructions) : before.AddsSkips after := by
  refine ⟨[], ?_, List.forall_mem_nil _⟩
  rw [same, List.append_nil]

theorem refl (code : Code) : code.AddsSkips code :=
  of_same rfl

theorem size_le (adds : before.AddsSkips after) :
    before.instructions.size ≤ after.instructions.size := by
  obtain ⟨added, grown, -⟩ := adds
  rw [← Array.length_toList, ← Array.length_toList, grown, List.length_append]
  exact Nat.le_add_right _ _

theorem trans (first : before.AddsSkips middle) (second : middle.AddsSkips after) :
    before.AddsSkips after := by
  obtain ⟨added, grown, skip⟩ := first
  obtain ⟨more, further, also⟩ := second
  refine ⟨added ++ more, ?_, List.forall_mem_append.mpr ⟨skip, also⟩⟩
  rw [further, grown, List.append_assoc]

theorem emit {opcode : Opcode} (adds : before.AddsSkips code) (operands : List Handle)
    (skips : opcode.isBranch = true → opcode = .ifFalseGoto) :
    before.AddsSkips (code.emit opcode operands) := by
  refine adds.trans ⟨[.of code.instructions.size opcode operands], ?_, ?_⟩
  · rw [emit_instructions, Array.toList_push]
  · exact List.forall_mem_singleton.mpr skips

/-- A plain instruction is no branch at all. -/
theorem emit_plain {opcode : Opcode} (adds : before.AddsSkips code) (operands : List Handle)
    (plain : opcode.isPlain = true) : before.AddsSkips (code.emit opcode operands) := by
  refine adds.emit operands fun branches => ?_
  cases (Opcode.isBranch_of_isPlain plain).symm.trans branches

theorem emitJump (adds : before.AddsSkips code) : before.AddsSkips code.emitJump.2 :=
  adds.trans ((refl code).emit [code.newTarget.1] fun _ => rfl)

end AddsSkips

end Code

namespace Compile

open Gen Code

variable {registry : Registry} {code : Code}

/-- A step that returns the register of its last result and adds no branches but skips. -/
def Computes (step : Gen Value) (code : Code) : Prop :=
  Yields step code (fun value after =>
    after.LastResult code.instructions.size after.instructions.size value.1 ∧ code.AddsSkips after)
    fun _ => True

/-- The code for a value returns the operand of the value and adds no branches but skips. -/
def Leaves (registry : Registry) (node : Node) (code : Code) : Prop :=
  Yields (entity registry node) code (fun value after =>
    after.ValueOf node code.instructions.size after.instructions.size value.1 ∧
      code.AddsSkips after)
    fun _ => True

/-! ### Reads -/

/-- A value-string table may be applied to a value that was read. -/
theorem withValueString_leaves (wanted : Bool) (field : Field) {before : Code} {read : Value}
    (last : code.LastResult before.instructions.size code.instructions.size read.1)
    (adds : before.AddsSkips code) :
    Yields (withValueString wanted field read) code
      (fun value after => after.LastResult before.instructions.size after.instructions.size value.1 ∧
        before.AddsSkips after) fun _ => True := by
  unfold withValueString valueString
  split
  · simp only [yields_newRegister, yields_newOperand, yields_emit, yields_emitJump, yields_pure,
      bind_assoc, pure_bind]
    have register := (has_newRegister code).extend (.newOperand (.field field false))
    exact ⟨(lastResult_emit register adds.size_le rfl rfl).emitJump,
      AddsSkips.emitJump (AddsSkips.emit_plain adds _ rfl)⟩
  · exact ⟨last, adds⟩

/-- The register for a plain read is one, and nothing is emitted for it. -/
theorem plainRegister_leaves (field : Field) (raw : Bool) (caches : code.CachesRegisters) :
    Yields (plainRegister field raw) code
      (fun register after => (∃ number, after.Has register (.register number)) ∧
        after.instructions = code.instructions) fun _ => True := by
  refine (plainRegister_runs field raw).imp (fun register after run => ?_) fun _ => False.elim
  obtain ⟨steps, cached, same⟩ := run
  obtain ⟨position, number, handle, found⟩ := steps.cachesRegisters caches field raw register cached
  exact ⟨⟨number, position, handle, found⟩, same⟩

/-- What follows the read of a field: the jump for its absence, a note of the fields that are read,
and the value-string table if it is wanted. -/
theorem afterRead_leaves (wanted : Bool) (written : Field) {before noted : Code} {register : Handle}
    (last : code.LastResult before.instructions.size code.instructions.size register)
    (adds : before.AddsSkips code)
    (note : ∀ pending, Step (code.emitJump.2, pending) (noted, pending))
    (same : noted.instructions = code.emitJump.2.instructions) :
    Yields (withValueString wanted written (register, [code.emitJump.1])) noted
      (fun value after => after.LastResult before.instructions.size after.instructions.size value.1 ∧
        before.AddsSkips after) fun _ => True := by
  have grown : code.emitJump.2.Extends noted := (Steps.extends (.single (note []))).1
  exact withValueString_leaves _ _ (last.emitJump.same grown same)
    (adds.emitJump.trans (.of_same same))

theorem readField_leaves (read : FieldRead) (caches : code.CachesRegisters) :
    Computes (readField registry read) code := by
  unfold Computes readField
  split
  · trivial
  · rename_i written _
    dsimp only
    split
    · refine (plainRegister_leaves _ _ caches).bind (fun _ => id) fun register middle run => ?_
      obtain ⟨⟨number, has⟩, same⟩ := run
      simp only [yields_newOperand, yields_emit, yields_pure_bind, yields_emitJump, yields_modify]
      have adds : code.AddsSkips middle := .of_same same
      have operand := has.extend (.newOperand (.field (registry.canonical written) read.raw))
      exact afterRead_leaves _ _ (lastResult_emit operand adds.size_le rfl rfl)
        (AddsSkips.emit adds _ nofun) (fun _ => .note _ _ _) rfl
    · simp only [yields_newRegister, yields_newOperand, yields_emit, yields_pure_bind,
        yields_emitJump, yields_modify]
      have operand := ((has_newRegister code).extend (.newOperand (.field (registry.canonical written)
        read.raw))).extend (.newOperand (.range (windows read.range?)))
      exact afterRead_leaves _ _ (lastResult_emit operand (Nat.le_refl _) rfl rfl)
        ((AddsSkips.of_same rfl).emit_plain _ rfl) (fun _ => .note _ _ _) rfl

theorem readReference_leaves (read : FieldRead) : Computes (readReference registry read) code := by
  unfold Computes readReference
  have noted (code : Code) (field : Field) :
      ((code.addReference field read.raw).markInteresting registry field).instructions =
        code.instructions := by
    cases read.raw <;> rfl
  split
  · trivial
  · rename_i written _
    simp only [yields_newRegister, yields_newOperand]
    have operand := (has_newRegister code).extend (.newOperand (.field (registry.canonical written)
      read.raw))
    split
    · simp only [yields_emit, yields_emitJump, yields_modify]
      exact afterRead_leaves _ _ (lastResult_emit operand (Nat.le_refl _) rfl rfl)
        ((AddsSkips.of_same rfl).emit_plain _ rfl) (note_reference _ _) (noted _ _)
    · simp only [yields_newOperand, yields_emit, yields_emitJump, yields_modify]
      have still := operand.extend (.newOperand (.range (windows read.range?)))
      exact afterRead_leaves _ _ (lastResult_emit still (Nat.le_refl _) rfl rfl)
        ((AddsSkips.of_same rfl).emit_plain _ rfl) (note_reference _ _) (noted _ _)

/-- A table applied to what a read gave. -/
theorem withTable_leaves (read : FieldRead) {reading : Gen Value} (left : Computes reading code) :
    Computes (do withTable read (← reading)) code := by
  refine Yields.bind left (fun _ => id) fun value after left => ?_
  unfold withTable
  split
  · exact left
  · exact withValueString_leaves _ _ left.1 left.2

/-! ### Values -/

theorem slice_leaves {inner : Node} (range? : Option ByteRange) (left : Leaves registry inner code) :
    Leaves registry (.slice inner range?) code := by
  unfold Leaves entity
  dsimp only
  split
  · trivial
  · refine Yields.bind left (fun _ => id) fun value after left => ?_
    simp only [yields_newRegister, yields_newOperand, yields_emit, yields_pure]
    have register := (has_newRegister after).extend (.newOperand (.range (windows range?)))
    exact ⟨lastResult_emit register left.2.size_le rfl rfl, AddsSkips.emit_plain left.2 _ rfl⟩

theorem length_leaves {argument : Node} {definition : FunctionDef}
    (named : definition.name = "len") (left : Leaves registry argument code) :
    Leaves registry (.call (some definition) [argument]) code := by
  unfold Leaves entity
  simp only [named, if_true]
  refine Yields.bind left (fun _ => id) fun value after left => ?_
  simp only [yields_newRegister, yields_emit, yields_pure]
  exact ⟨lastResult_emit (has_newRegister after) left.2.size_le rfl rfl,
    AddsSkips.emit_plain left.2 _ rfl⟩

theorem vals_leaves {definition : FunctionDef} (args : List Node)
    (named : definition.name = "vals") (caches : code.CachesRegisters) :
    Leaves registry (.call (some definition) args) code := by
  unfold Leaves entity
  simp only [named, if_neg (show ¬ "vals" = "len" by decide), if_true]
  split
  · exact withTable_leaves _ (readField_leaves _ caches)
  · exact withTable_leaves _ (readReference_leaves _)
  · trivial
  · trivial

/-- A call returns a register that was made before its arguments were pushed. -/
theorem call_leaves {definition : FunctionDef} (args : List Node)
    (notLen : definition.name ≠ "len") (notVals : definition.name ≠ "vals")
    (left : ∀ code : Code, code.CachesRegisters →
      Yields (arguments registry args) code (fun _ after => code.AddsSkips after) fun _ => True)
    (caches : code.CachesRegisters) : Leaves registry (.call (some definition) args) code := by
  unfold Leaves entity
  simp only [notLen, notVals, if_false, yields_newOperand, yields_newRegister]
  have start : (code.newOperand (.function definition.name)).2.newRegister.2.CachesRegisters :=
    caches.extend ((Extends.newOperand _).trans .newRegister) rfl
  refine ((arguments_runs args _ start).and (left _ start)).bind (fun _ _ => trivial)
    fun _ after run => ?_
  obtain ⟨⟨-, steps, -⟩, adds⟩ := run
  simp only [yields_newOperand, yields_emit, yields_emitJump, yields_pure]
  have register := ((has_newRegister _).extend steps.extends.1).extend
    (.newOperand (.count args.length))
  have called (operands : List Handle) : code.AddsSkips
      ((after.newOperand (.count args.length)).2.emit .callFunction operands) :=
    AddsSkips.emit_plain adds operands rfl
  exact ⟨(((lastResult_emit register adds.size_le rfl rfl).newOperand _).emit _ rfl).emitJump,
    AddsSkips.emitJump (AddsSkips.emit_plain (called _) _ rfl)⟩

/-- Opcodes of arithmetic have a slot for the result and cannot fail. -/
theorem arithmeticOpcode?_result {operator : Operator} {opcode : Opcode}
    (chosen : operator.arithmeticOpcode? = some opcode) :
    opcode.resultSlot? = some (if operator = .negate then 1 else 2) ∧
      opcode.guardDistance? = none ∧ opcode.duty = .other := by
  cases operator <;> cases chosen <;> exact ⟨rfl, rfl, rfl⟩

theorem arithmetic_leaves (operator : Operator) {left right : Node}
    (first : Leaves registry left code)
    (second : ∀ code : Code, code.CachesRegisters → Leaves registry right code)
    (caches : code.CachesRegisters) : Leaves registry (.arithmetic operator left right) code := by
  unfold Leaves entity
  split
  · trivial
  · rename_i opcode chosen
    have plain := (arithmeticOpcode?_plain chosen).1
    have slot := (arithmeticOpcode?_result chosen).1
    refine ((entity_runs left code caches).and first).bind (fun _ _ => trivial)
      fun value after run => ?_
    obtain ⟨⟨-, steps, -⟩, -, adds⟩ := run
    dsimp only
    split
    · rename_i negates
      rw [if_pos negates] at slot
      split
      · trivial
      · simp only [yields_newRegister, yields_emit, yields_pure]
        exact ⟨lastResult_emit (has_newRegister after) adds.size_le slot rfl,
          AddsSkips.emit_plain adds _ plain⟩
    · rename_i binary
      rw [if_neg binary] at slot
      refine Yields.bind (second after (steps.cachesRegisters caches)) (fun _ => id)
        fun other last left => ?_
      have both := adds.trans left.2
      simp only [yields_newRegister, yields_emit, yields_pure]
      exact ⟨lastResult_emit (has_newRegister last) both.size_le slot rfl,
        AddsSkips.emit_plain both _ plain⟩

/-- An argument is pushed behind its resolved jumps. -/
theorem argument_leaves {argument : Node} {rest : List Node}
    (first : Leaves registry argument code)
    (others : ∀ code : Code, code.CachesRegisters →
      Yields (arguments registry rest) code (fun _ after => code.AddsSkips after) fun _ => True)
    (caches : code.CachesRegisters) :
    Yields (arguments registry (argument :: rest)) code (fun _ after => code.AddsSkips after)
      fun _ => True := by
  unfold arguments
  refine ((entity_runs argument code caches).and first).bind (fun _ _ => trivial)
    fun value after run => ?_
  obtain ⟨⟨-, steps, -⟩, -, adds⟩ := run
  simp only [steps.yields_fixup, yields_emit]
  have pushed : code.AddsSkips ((after.resolve value.2).emit .stackPush [value.1]) :=
    (adds.trans (.of_same (resolve_instructions _))).emit_plain _ rfl
  have next := (steps.resolved.cachesRegisters caches).extend (.emit .stackPush [value.1]) rfl
  exact (others _ next).imp (fun _ _ more => pushed.trans more) fun _ => id

mutual

/-- **The code for a value returns the operand of the value, and adds no branches but skips.** -/
theorem entity_leaves (node : Node) (code : Code) (caches : code.CachesRegisters) :
    Leaves registry node code := by
  match node with
  | .missing => trivial
  | .field read =>
    unfold Leaves entity
    exact readField_leaves read caches
  | .reference read =>
    unfold Leaves entity
    exact readReference_leaves read
  | .value constant =>
    unfold Leaves entity
    exact ⟨has_newOperand code (.constant constant), .of_same rfl⟩
  | .pattern none => trivial
  | .pattern (some pattern) =>
    unfold Leaves entity
    exact ⟨has_newOperand code (.pattern pattern), .of_same rfl⟩
  | .slice inner range? => exact slice_leaves range? (entity_leaves inner code caches)
  | .call none args => trivial
  | .call (some definition) args =>
    by_cases len : definition.name = "len"
    · match args with
      | [] =>
        unfold Leaves
        rw [entity_length len (by simp)]
        trivial
      | [argument] => exact length_leaves len (entity_leaves argument code caches)
      | _ :: _ :: _ =>
        unfold Leaves
        rw [entity_length len (by simp)]
        trivial
    by_cases vals : definition.name = "vals"
    · exact vals_leaves args vals caches
    · exact call_leaves args len vals (arguments_leaves args) caches
  | .arithmetic operator left right =>
    exact arithmetic_leaves operator (entity_leaves left code caches) (entity_leaves right) caches
  | .test operator quantifier left right => trivial
  | .set elements => trivial

/-- The arguments of a call are pushed without branches but skips. -/
theorem arguments_leaves (args : List Node) (code : Code) (caches : code.CachesRegisters) :
    Yields (arguments registry args) code (fun _ after => code.AddsSkips after) fun _ => True := by
  match args with
  | [] => exact .refl code
  | argument :: rest =>
    exact argument_leaves (entity_leaves argument code caches) (arguments_leaves rest) caches

end

end Compile

end DisplayFilter
