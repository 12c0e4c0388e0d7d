/-
**Code generation as a run of steps.**

The code for a value is generated by a run of `Code.Step`s that leaves exactly the jumps of the
value pending, and the code for a truth value by a run that leaves none. Whether there is such a run
depends on the tree alone: `Node.isEntity` and `Node.isPredicate` say of which trees code is made.

* `Compile.entity_runs`: the code for a value.
* `Compile.predicate_runs`: the code for a truth value.

Both also say that the rules about jump targets are never broken: where code generation breaks off,
the tree is at fault.
-/

import DisplayFilter.Compile.Predicate
import DisplayFilter.Proofs.Generation.Cells
import DisplayFilter.Proofs.Operators

namespace DisplayFilter

/-- Whether a violation says that the generated code itself is at fault. -/
def Violation.isInternal : Violation → Bool
  | .pendingJumpKind .. | .resolvedTwice _ | .malformedProgram _ => true
  | _ => false

namespace Node

mutual

/-- Whether code can be made for the value of a node. -/
def isEntity : Node → Bool
  | .field read => read.field?.isSome
  | .reference read => read.field?.isSome
  | .value _ => true
  | .pattern pattern? => pattern?.isSome
  | .slice inner range? => !(windows range?).isEmpty && inner.isEntity
  | .call none _ => false
  | .call (some definition) arguments =>
    if definition.name = "len" then arguments.length == 1 && areEntities arguments
    else if definition.name = "vals" then
      match arguments with
      | [.field read] => read.field?.isSome
      | [.reference read] => read.field?.isSome
      | _ => false
    else areEntities arguments
  | .arithmetic operator left right =>
    operator.arithmeticOpcode?.isSome && left.isEntity &&
      (if operator = .negate then !right.isPresent else right.isEntity)
  | _ => false

/-- Whether code can be made for the value of each node. -/
def areEntities : List Node → Bool
  | [] => true
  | node :: nodes => node.isEntity && areEntities nodes

end

/-- Whether code can be made for each member of a set. -/
def areMembers : List Element → Bool
  | [] => true
  | .single low :: elements => low.isEntity && areMembers elements
  | .between low high :: elements => low.isEntity && high.isEntity && areMembers elements

/-- Whether code can be made for the truth value of a node. -/
def isPredicate : Node → Bool
  | .test operator quantifier left right =>
    match operator with
    | .not => left.isPredicate
    | .and | .or => left.isPredicate && right.isPredicate
    | _ =>
      (Compile.selectOpcode operator quantifier).toOption.isSome && left.isEntity &&
        match right with
        | .set elements => operator.isMembership && areMembers elements
        | _ => operator.isRelation && right.isEntity
  | .field read => read.field?.isSome
  | .arithmetic operator left right => isEntity (.arithmetic operator left right)
  | .call definition? arguments => isEntity (.call definition? arguments)
  | .slice inner range? => isEntity (.slice inner range?)
  | _ => false

end Node

namespace Compile

open Gen Code
open Relation (ReflTransGen)

variable {registry : Registry} {code : Code}

/-- A step that leaves a value and the jumps to take without it, if what it is given is accepted. -/
def RunsValue (accepted : Bool) (step : Gen Value) (code : Code) : Prop :=
  Yields step code
    (fun value after => accepted = true ∧ Steps (code, []) (after, value.2) ∧
      after.HoldsValue value.1)
    (fun violation => accepted = false ∧ violation.isInternal = false)

/-- A step that leaves no jumps, if what it is given is accepted. -/
def RunsTest {α : Type} (accepted : Bool) (step : Gen α) (code : Code) (result : α → Code → Prop) :
    Prop :=
  Yields step code
    (fun value after => accepted = true ∧ Steps (code, []) (after, []) ∧ result value after)
    (fun violation => accepted = false ∧ violation.isInternal = false)

/-! ### Reads -/

/-- The value-string table is applied by a run that adds one jump. -/
theorem valueString_runs (field : Field) {source : Handle} (value : code.HoldsValue source) :
    Yields (valueString field source) code
      (fun result after => Steps (code, []) (after, [result.2]) ∧ after.HoldsValue result.1)
      (fun _ => False) := by
  unfold valueString
  simp only [yields_newRegister, yields_newOperand, yields_emit, yields_emitJump, yields_pure]
  have register : (code.newRegister.2.newOperand (.field field false)).2.HoldsValue
      code.arena.size := HoldsValue.newRegister_self.newOperand _
  refine ⟨?_, register.newOperand _⟩
  refine (((ReflTransGen.refl.tail .register).tail (.operand (.field field false) rfl rfl)).tail
    (.emit_three rfl rfl (.newOperand_self rfl) (value.newRegister.newOperand _) register)).tail
    (.branch .ifFalseGoto rfl)

/-- A value-string table may be applied to a value that was read. -/
theorem withValueString_runs (wanted : Bool) (field : Field) {before : Code} {read : Value}
    (steps : Steps (before, []) (code, read.2)) (value : code.HoldsValue read.1) :
    Yields (withValueString wanted field read) code
      (fun result after => Steps (before, []) (after, result.2) ∧ after.HoldsValue result.1)
      (fun _ => False) := by
  unfold withValueString
  split
  · refine (valueString_runs field value).bind (fun _ => id) fun result after run => ?_
    exact ⟨steps.append run.1, run.2⟩
  · exact ⟨steps, value⟩

/-- The register for the plain read of a field is known afterwards. -/
theorem plainRegister_runs (field : Field) (raw : Bool) :
    Yields (plainRegister field raw) code
      (fun register after => Steps (code, []) (after, []) ∧
        after.cachedRegister? field raw = some register ∧ after.instructions = code.instructions)
      (fun _ => False) := by
  unfold plainRegister
  rw [yields_get]
  split
  · rename_i register found
    exact ⟨.refl, found, rfl⟩
  · rename_i absent
    refine ⟨ReflTransGen.refl.tail (.load field raw absent), ?_, rfl⟩
    rw [cacheRegister_cachedRegister?, if_pos rfl]

/-- What follows the read of a field: the jump for its absence, a note of the fields that are
read, and the value-string table if it is wanted. -/
theorem afterRead_runs (wanted : Bool) (written : Field) {before noted : Code} {register : Handle}
    (steps : Steps (before, []) (code, [])) (value : code.HoldsValue register)
    (note : Step (code.emitJump.2, [code.emitJump.1]) (noted, [code.emitJump.1])) :
    Yields (withValueString wanted written (register, [code.emitJump.1])) noted
      (fun result after => Steps (before, []) (after, result.2) ∧ after.HoldsValue result.1)
      (fun _ => False) := by
  have jump : Steps (code, []) (noted, [code.emitJump.1]) :=
    (ReflTransGen.refl.tail (.branch .ifFalseGoto rfl)).tail note
  exact withValueString_runs wanted written (steps.append jump) (jump.extends.1.holdsValue value)

/-- **Reading a field is a run.** -/
theorem readField_runs (read : FieldRead) (caches : code.CachesRegisters) :
    RunsValue read.field?.isSome (readField registry read) code := by
  unfold RunsValue readField
  split
  · rename_i absent
    simp [absent, Violation.isInternal]
  · rename_i written given
    simp only [given, Option.isSome_some, true_and]
    split
    · refine (plainRegister_runs _ _).bind (fun _ => False.elim) fun register middle run => ?_
      simp only [yields_newOperand, yields_emit, yields_pure_bind, yields_emitJump, yields_modify]
      refine (afterRead_runs _ _ ?_ ?_ (.note _ _ _)).imp (fun _ _ => id) fun _ => False.elim
      · exact (run.1.tail (.operand (.field _ _) rfl rfl)).tail
          (.read _ _ _ register Array.getElem?_push_size run.2.1)
      · exact ((run.1.cachesRegisters caches).holdsValue run.2.1).newOperand _
    · simp only [yields_newRegister, yields_newOperand, yields_emit, yields_pure_bind,
        yields_emitJump, yields_modify]
      have register : (code.newRegister.2.newOperand (.field (registry.canonical written)
          read.raw)).2.HoldsValue code.arena.size := HoldsValue.newRegister_self.newOperand _
      refine (afterRead_runs _ _ ?_ ?_ (.note _ _ _)).imp (fun _ _ => id) fun _ => False.elim
      · refine (((ReflTransGen.refl.tail .register).tail (.operand (.field _ _) rfl rfl)).tail
          (.operand (.range _) rfl rfl)).tail (.emit_three rfl rfl
            ((HoldsValue.newOperand_self rfl).newOperand _) (register.newOperand _)
            (.newOperand_self rfl))
      · exact register.newOperand _

/-- A reference is noted in the list for its kind. -/
theorem note_reference (field : Field) (raw : Bool) (pending : List Handle) :
    Step (code, pending) ((code.addReference field raw).markInteresting registry field, pending) := by
  cases raw <;> exact .note _ _ _

/-- **Reading a field of an earlier packet is a run.** -/
theorem readReference_runs (read : FieldRead) :
    RunsValue read.field?.isSome (readReference registry read) code := by
  unfold RunsValue readReference
  split
  · rename_i absent
    simp [absent, Violation.isInternal]
  · rename_i written given
    have register : (code.newRegister.2.newOperand (.field (registry.canonical written)
        read.raw)).2.HoldsValue code.arena.size := HoldsValue.newRegister_self.newOperand _
    have start : Steps (code, []) ((code.newRegister.2.newOperand (.field
        (registry.canonical written) read.raw)).2, []) :=
      (ReflTransGen.refl.tail .register).tail (.operand (.field _ _) rfl rfl)
    simp only [given, Option.isSome_some, true_and, yields_newRegister, yields_newOperand]
    split
    · simp only [yields_emit, yields_emitJump, yields_modify]
      exact (afterRead_runs _ _ (start.tail (.emit_two rfl rfl (.newOperand_self rfl) register))
        register (note_reference _ _ _)).imp (fun _ _ => id) fun _ => False.elim
    · simp only [yields_newOperand, yields_emit, yields_emitJump, yields_modify]
      exact (afterRead_runs _ _ ((start.tail (.operand (.range _) rfl rfl)).tail
        (.emit_three rfl rfl ((HoldsValue.newOperand_self rfl).newOperand _)
          (register.newOperand _) (.newOperand_self rfl))) (register.newOperand _)
        (note_reference _ _ _)).imp (fun _ _ => id) fun _ => False.elim

/-- A table applied to what a read gave adds to the run of the read. -/
theorem withTable_runs {read : FieldRead} {reading : Gen Value}
    (runs : RunsValue read.field?.isSome reading code) :
    RunsValue read.field?.isSome (do withTable read (← reading)) code := by
  refine runs.bind (fun _ => id) fun value after run => ?_
  unfold withTable
  split
  · exact run
  · exact (withValueString_runs _ _ run.2.1 run.2.2).imp
      (fun _ _ more => ⟨run.1, more⟩) fun _ => False.elim

/-! ### Values -/

theorem slice_runs {inner : Node} (range? : Option ByteRange)
    (runs : RunsValue inner.isEntity (entity registry inner) code) :
    RunsValue (Node.isEntity (.slice inner range?)) (entity registry (.slice inner range?)) code := by
  unfold RunsValue entity Node.isEntity
  by_cases empty : (windows range?).isEmpty = true
  · simp [empty, Violation.isInternal]
  · simp only [empty, Bool.false_eq_true, if_false, Bool.not_false, Bool.true_and]
    refine runs.bind (fun _ => id) fun value after run => ?_
    simp only [yields_newRegister, yields_newOperand, yields_emit, yields_pure]
    have register : (after.newRegister.2.newOperand (.range (windows range?))).2.HoldsValue
        after.arena.size := HoldsValue.newRegister_self.newOperand _
    refine ⟨run.1, ?_, register⟩
    refine ((run.2.1.tail .register).tail (.operand (.range _) rfl rfl)).tail
      (.emit_three rfl rfl (run.2.2.newRegister.newOperand _) register (.newOperand_self rfl))

/-- The length of a value. -/
theorem length_runs {argument : Node} {definition : FunctionDef} (named : definition.name = "len")
    (runs : RunsValue argument.isEntity (entity registry argument) code) :
    RunsValue (Node.isEntity (.call (some definition) [argument]))
      (entity registry (.call (some definition) [argument])) code := by
  unfold RunsValue entity Node.isEntity
  simp only [named, if_true, List.length_singleton, beq_self_eq_true, Bool.true_and,
    Node.areEntities, Bool.and_true]
  refine runs.bind (fun _ => id) fun value after run => ?_
  simp only [yields_newRegister, yields_emit, yields_pure]
  refine ⟨run.1, ?_, HoldsValue.newRegister_self⟩
  exact (run.2.1.tail .register).tail (.emit_two rfl rfl run.2.2.newRegister .newRegister_self)

/-- Another number of arguments than one is refused by `len`. -/
theorem entity_length {args : List Node} {definition : FunctionDef}
    (named : definition.name = "len") (count : args.length ≠ 1) :
    entity registry (.call (some definition) args) = Gen.fail (.oneArgument "len" args.length) := by
  unfold entity
  simp only [named, if_true]
  split
  · exact absurd rfl count
  · rfl

theorem length_refused {args : List Node} {definition : FunctionDef}
    (named : definition.name = "len") (count : args.length ≠ 1) :
    RunsValue (Node.isEntity (.call (some definition) args))
      (entity registry (.call (some definition) args)) code := by
  rw [entity_length named count]
  unfold RunsValue Node.isEntity
  simp only [named, if_true, beq_eq_false_iff_ne.mpr count, Bool.false_and]
  exact ⟨trivial, rfl⟩

/-- The value-string table of a field. -/
theorem vals_runs {definition : FunctionDef} (args : List Node) (named : definition.name = "vals")
    (caches : code.CachesRegisters) :
    RunsValue (Node.isEntity (.call (some definition) args))
      (entity registry (.call (some definition) args)) code := by
  unfold entity Node.isEntity
  simp only [named, if_neg (show ¬ "vals" = "len" by decide), if_true]
  split
  · exact withTable_runs (readField_runs _ caches)
  · exact withTable_runs (readReference_runs _)
  · rename_i noField noReference
    split
    · exact absurd rfl (noField _)
    · exact absurd rfl (noReference _)
    · exact ⟨rfl, rfl⟩
    · exact ⟨rfl, rfl⟩

/-- A call through the argument stack. -/
theorem call_runs {definition : FunctionDef} (args : List Node) (notLen : definition.name ≠ "len")
    (notVals : definition.name ≠ "vals")
    (runs : ∀ code : Code, code.CachesRegisters →
      RunsTest (Node.areEntities args) (arguments registry args) code fun _ _ => True)
    (caches : code.CachesRegisters) :
    RunsValue (Node.isEntity (.call (some definition) args))
      (entity registry (.call (some definition) args)) code := by
  unfold RunsValue entity Node.isEntity
  simp only [notLen, notVals, if_false, yields_newOperand, yields_newRegister]
  have start : Steps (code, []) ((code.newOperand (.function definition.name)).2.newRegister.2, []) :=
    (ReflTransGen.refl.tail (.operand (.function _) rfl rfl)).tail .register
  refine (runs _ (start.cachesRegisters caches)).bind (fun _ => id) fun _ after run => ?_
  simp only [yields_newOperand, yields_emit, yields_emitJump, yields_pure]
  have function : after.HoldsValue code.arena.size :=
    run.2.1.extends.1.holdsValue (HoldsValue.newOperand_self rfl).newRegister
  have register : after.HoldsValue (code.newOperand (.function definition.name)).2.newRegister.1 :=
    run.2.1.extends.1.holdsValue HoldsValue.newRegister_self
  refine ⟨run.1, ?_, ((register.newOperand _).newOperand _).newOperand _⟩
  exact (((((start.trans run.2.1).tail (.operand (.count _) rfl rfl)).tail
    (.emit_three rfl rfl (function.newOperand _) (register.newOperand _)
      (.newOperand_self rfl))).tail (.operand (.count _) rfl rfl)).tail
    (.emit_one rfl rfl (.newOperand_self rfl))).tail (.branch .ifFalseGoto rfl)

/-- Opcodes of arithmetic are plain and have a slot for the result. -/
theorem arithmeticOpcode?_plain {operator : Operator} {opcode : Opcode}
    (chosen : operator.arithmeticOpcode? = some opcode) :
    opcode.isPlain = true ∧ opcode.operandCount = if operator = .negate then 2 else 3 := by
  cases operator <;> cases chosen <;> exact ⟨rfl, rfl⟩

theorem arithmetic_runs (operator : Operator) {left right : Node}
    (leftRuns : RunsValue left.isEntity (entity registry left) code)
    (rightRuns : ∀ code : Code, code.CachesRegisters →
      RunsValue right.isEntity (entity registry right) code)
    (caches : code.CachesRegisters) :
    RunsValue (Node.isEntity (.arithmetic operator left right))
      (entity registry (.arithmetic operator left right)) code := by
  unfold RunsValue entity Node.isEntity
  split
  · rename_i none
    simp [none, Violation.isInternal]
  · rename_i opcode chosen
    obtain ⟨plain, count⟩ := arithmeticOpcode?_plain chosen
    refine leftRuns.bind (fun _ stopped => ⟨by simp [stopped.1], stopped.2⟩) fun value after run => ?_
    simp only [chosen, Option.isSome_some, run.1, Bool.true_and]
    split
    · rename_i negates
      rw [if_pos negates] at count
      split
      · rename_i present
        simp [present, Violation.isInternal]
      · rename_i absent
        simp only [absent, yields_newRegister, yields_emit, yields_pure]
        refine ⟨rfl, ?_, HoldsValue.newRegister_self⟩
        exact (run.2.1.tail .register).tail
          (.emit_two plain count run.2.2.newRegister .newRegister_self)
    · rename_i binary
      rw [if_neg binary] at count
      refine (rightRuns after (run.2.1.cachesRegisters caches)).bind (fun _ => id)
        fun other last more => ?_
      simp only [yields_newRegister, yields_emit, yields_pure]
      refine ⟨more.1, ?_, HoldsValue.newRegister_self⟩
      exact ((run.2.1.append more.2.1).tail .register).tail (.emit_three plain count
        (more.2.1.extends.1.holdsValue run.2.2).newRegister more.2.2.newRegister .newRegister_self)

/-- An argument is pushed behind its resolved jumps. -/
theorem argument_runs {argument : Node} {rest : List Node}
    (runs : RunsValue argument.isEntity (entity registry argument) code)
    (restRuns : ∀ code : Code, code.CachesRegisters →
      RunsTest (Node.areEntities rest) (arguments registry rest) code fun _ _ => True)
    (caches : code.CachesRegisters) :
    RunsTest (Node.areEntities (argument :: rest)) (arguments registry (argument :: rest)) code
      fun _ _ => True := by
  unfold RunsTest arguments Node.areEntities
  refine runs.bind (fun _ stopped => ⟨by simp [stopped.1], stopped.2⟩) fun value after run => ?_
  simp only [run.1, Bool.true_and, run.2.1.yields_fixup, yields_emit]
  have pushed : Steps (code, []) ((after.resolve value.2).emit .stackPush [value.1], []) := by
    exact run.2.1.resolved.tail (.emit_one rfl rfl (run.2.2.resolve value.2))
  refine (restRuns _ (pushed.cachesRegisters caches)).imp (fun _ _ more => ?_) fun _ => id
  exact ⟨more.1, pushed.trans more.2.1, trivial⟩

mutual

/-- **The code for a value is a run that leaves the value's jumps pending.** -/
theorem entity_runs (node : Node) (code : Code) (caches : code.CachesRegisters) :
    RunsValue node.isEntity (entity registry node) code := by
  match node with
  | .missing => exact ⟨rfl, rfl⟩
  | .field read =>
    unfold entity Node.isEntity
    exact readField_runs read caches
  | .reference read =>
    unfold entity Node.isEntity
    exact readReference_runs read
  | .value constant =>
    unfold entity
    exact ⟨rfl, ReflTransGen.refl.tail (.operand (.constant _) rfl rfl), .newOperand_self rfl⟩
  | .pattern none => exact ⟨rfl, rfl⟩
  | .pattern (some pattern) =>
    unfold entity
    exact ⟨rfl, ReflTransGen.refl.tail (.operand (.pattern _) rfl rfl), .newOperand_self rfl⟩
  | .slice inner range? => exact slice_runs range? (entity_runs inner code caches)
  | .call none args => exact ⟨rfl, rfl⟩
  | .call (some definition) args =>
    by_cases len : definition.name = "len"
    · match args with
      | [] => exact length_refused len (by simp)
      | [argument] => exact length_runs len (entity_runs argument code caches)
      | _ :: _ :: _ => exact length_refused len (by simp)
    by_cases vals : definition.name = "vals"
    · exact vals_runs args vals caches
    · exact call_runs args len vals (arguments_runs args) caches
  | .arithmetic operator left right =>
    exact arithmetic_runs operator (entity_runs left code caches) (entity_runs right) caches
  | .test operator quantifier left right => exact ⟨rfl, rfl⟩
  | .set elements => exact ⟨rfl, rfl⟩

/-- The arguments of a call are pushed by a run that leaves no jumps. -/
theorem arguments_runs (args : List Node) (code : Code) (caches : code.CachesRegisters) :
    RunsTest (Node.areEntities args) (arguments registry args) code fun _ _ => True := by
  match args with
  | [] => exact ⟨rfl, .refl, trivial⟩
  | argument :: rest =>
    exact argument_runs (entity_runs argument code caches) (arguments_runs rest) caches

end

/-! ### Tests -/

/-- The opcode of a relation is plain and compares two operands. -/
theorem selectOpcode_relation {operator : Operator} {quantifier : Quantifier} {opcode : Opcode}
    (relates : operator.isRelation = true) (chosen : selectOpcode operator quantifier = .ok opcode) :
    opcode.isPlain = true ∧ opcode.operandCount = 2 := by
  cases operator <;> cases relates <;> cases quantifier <;> cases chosen <;> exact ⟨rfl, rfl⟩

/-- The opcode of a membership test is plain and has one operand. -/
theorem selectOpcode_membership {operator : Operator} {quantifier : Quantifier} {opcode : Opcode}
    (tests : operator.isMembership = true)
    (chosen : selectOpcode operator quantifier = .ok opcode) :
    opcode.isPlain = true ∧ opcode.operandCount = 1 := by
  cases operator <;> cases tests <;> cases quantifier <;> cases chosen <;> exact ⟨rfl, rfl⟩

theorem selectOpcode_error {operator : Operator} {quantifier : Quantifier} {violation : Violation}
    (missed : selectOpcode operator quantifier = .error violation) :
    violation.isInternal = false := by
  unfold selectOpcode at missed
  split at missed
  · cases missed
    rfl
  · split at missed
    · cases missed
      rfl
    · cases missed

theorem relation_runs {operator : Operator} (quantifier : Quantifier) (left right : Node)
    (relates : operator.isRelation = true) (caches : code.CachesRegisters) :
    RunsTest ((selectOpcode operator quantifier).toOption.isSome && left.isEntity && right.isEntity)
      (relation registry operator quantifier left right) code fun _ _ => True := by
  unfold RunsTest relation
  refine (entity_runs left code caches).bind (fun _ stopped => ⟨by simp [stopped.1], stopped.2⟩)
    fun value after run => ?_
  refine (entity_runs right after (run.2.1.cachesRegisters caches)).bind
    (fun _ stopped => ⟨by simp [stopped.1], stopped.2⟩) fun other last more => ?_
  refine yields_lift (fun opcode chosen => ?_) fun violation missed =>
    ⟨by simp [missed, Except.toOption], selectOpcode_error missed⟩
  obtain ⟨plain, count⟩ := selectOpcode_relation relates chosen
  have compared : Steps (code, []) (last.emit opcode [value.1, other.1], value.2 ++ other.2) := by
    exact (run.2.1.append more.2.1).tail
      (.emit_two plain count (more.2.1.extends.1.holdsValue run.2.2) more.2.2)
  rw [yields_emit, compared.yields_fixup_last]
  exact ⟨by simp [chosen, Except.toOption, run.1, more.1], compared.resolved, trivial⟩

/-- The members of a set are added by a run, each behind its resolved jumps. -/
theorem setElements_runs (elements : List Element) (code : Code) (caches : code.CachesRegisters) :
    RunsTest (Node.areMembers elements) (setElements registry elements) code fun _ _ => True := by
  match elements with
  | [] => exact ⟨rfl, .refl, trivial⟩
  | .single low :: rest =>
    unfold RunsTest setElements Node.areMembers
    refine (entity_runs low code caches).bind (fun _ stopped => ⟨by simp [stopped.1], stopped.2⟩)
      fun value after run => ?_
    have added : Steps (code, []) (after.emit .setAdd [value.1], value.2) := by
      exact run.2.1.tail (.emit_one rfl rfl run.2.2)
    simp only [run.1, Bool.true_and, yields_emit, added.yields_fixup]
    refine (setElements_runs rest _ (added.resolved.cachesRegisters caches)).imp
      (fun _ _ more => ?_) fun _ => id
    exact ⟨more.1, added.resolved.trans more.2.1, trivial⟩
  | .between low high :: rest =>
    unfold RunsTest setElements Node.areMembers
    refine (entity_runs low code caches).bind (fun _ stopped => ⟨by simp [stopped.1], stopped.2⟩)
      fun value after run => ?_
    refine (entity_runs high after (run.2.1.cachesRegisters caches)).bind
      (fun _ stopped => ⟨by simp [stopped.1], stopped.2⟩) fun other last more => ?_
    have added : Steps (code, [])
        (last.emit .setAddRange [value.1, other.1], value.2 ++ other.2) := by
      exact (run.2.1.append more.2.1).tail
        (.emit_two rfl rfl (more.2.1.extends.1.holdsValue run.2.2) more.2.2)
    simp only [run.1, more.1, Bool.true_and, yields_emit, added.yields_fixup]
    refine (setElements_runs rest _ (added.resolved.cachesRegisters caches)).imp
      (fun _ _ others => ?_) fun _ => id
    exact ⟨others.1, added.resolved.trans others.2.1, trivial⟩

theorem membership_runs {operator : Operator} (quantifier : Quantifier) (left : Node)
    (elements : List Element) (tests : operator.isMembership = true)
    (caches : code.CachesRegisters) :
    RunsTest ((selectOpcode operator quantifier).toOption.isSome && left.isEntity &&
        Node.areMembers elements)
      (membership registry operator quantifier left (.set elements)) code fun _ _ => True := by
  unfold RunsTest membership
  refine yields_lift (fun opcode chosen => ?_) fun violation missed =>
    ⟨by simp [missed, Except.toOption], selectOpcode_error missed⟩
  obtain ⟨plain, count⟩ := selectOpcode_membership tests chosen
  refine (entity_runs left code caches).bind (fun _ stopped => ⟨by simp [stopped.1], stopped.2⟩)
    fun value after run => ?_
  refine (setElements_runs elements after (run.2.1.cachesRegisters caches)).bind
    (fun _ stopped => ⟨by simp [stopped.1], stopped.2⟩) fun _ last more => ?_
  have tested : Steps (code, []) ((last.emit opcode [value.1]).emit .setClear [], value.2) := by
    have both := run.2.1.append more.2.1
    rw [List.append_nil] at both
    exact (both.tail (.emit_one plain count (more.2.1.extends.1.holdsValue run.2.2))).tail
      (.emit .setClear [] rfl rfl (List.forall_mem_nil _))
  rw [yields_emit, yields_emit, tested.yields_fixup_last]
  exact ⟨by simp [chosen, Except.toOption, run.1, more.1], tested.resolved, trivial⟩

theorem existence_runs (read : FieldRead) :
    RunsTest read.field?.isSome (existence registry read) code fun _ _ => True := by
  unfold RunsTest existence
  split
  · rename_i absent
    simp [absent, Violation.isInternal]
  · rename_i written given
    have start : Steps (code, []) ((code.newOperand (.field (registry.canonical written)
        false)).2, []) := ReflTransGen.refl.tail (.operand (.field _ _) rfl rfl)
    simp only [given, Option.isSome_some, true_and, yields_newOperand]
    split
    · simp only [yields_emit, yields_modify_last]
      exact ⟨(start.tail (.emit_one rfl rfl (.newOperand_self rfl))).tail (.note _ _ _), trivial⟩
    · simp only [yields_newOperand, yields_emit, yields_modify_last]
      exact ⟨((start.tail (.operand (.range _) rfl rfl)).tail (.emit_two rfl rfl
        ((HoldsValue.newOperand_self rfl).newOperand _) (.newOperand_self rfl))).tail
        (.note _ _ _), trivial⟩

/-- An operand that is returned, or none. -/
def IsResult (result : Handle) (code : Code) : Prop :=
  result = noOperand ∨ code.HoldsValue result

theorem notZero_runs (node : Node) (caches : code.CachesRegisters) :
    RunsTest node.isEntity (notZero registry node) code IsResult := by
  unfold RunsTest notZero
  refine (entity_runs node code caches).bind (fun _ => id) fun value after run => ?_
  have tested : Steps (code, []) (after.emit .notAllZero [value.1], value.2) := by
    exact run.2.1.tail (.emit_one rfl rfl run.2.2)
  simp only [yields_emit, tested.yields_fixup, yields_pure]
  exact ⟨run.1, tested.resolved, .inr ((run.2.2.emit _ _).resolve value.2)⟩

theorem notEmpty_runs (node : Node) (caches : code.CachesRegisters) :
    RunsTest node.isEntity (notEmpty registry node) code IsResult := by
  unfold RunsTest notEmpty
  refine (entity_runs node code caches).bind (fun _ => id) fun value after run => ?_
  have tested : Steps (code, []) ((after.newRegister.2.emit .length [value.1,
      after.newRegister.1]).emit .notAllZero [after.newRegister.1], value.2) := by
    exact ((run.2.1.tail .register).tail
      (.emit_two rfl rfl run.2.2.newRegister .newRegister_self)).tail
      (.emit_one rfl rfl HoldsValue.newRegister_self)
  simp only [yields_newRegister, yields_emit, tested.yields_fixup, yields_pure]
  exact ⟨run.1, tested.resolved,
    .inr (((run.2.2.newRegister.emit _ _).emit _ _).resolve value.2)⟩

/-! ### Predicates -/

section Kinds

variable (returnValues : Bool) {operator : Operator} (quantifier : Quantifier) (left right : Node)

theorem predicate_relation (relates : operator.isRelation = true) :
    predicate registry returnValues (.test operator quantifier left right) =
      (do relation registry operator quantifier left right; return noOperand) := by
  cases operator <;> cases relates <;> rfl

theorem predicate_membership (tests : operator.isMembership = true) :
    predicate registry returnValues (.test operator quantifier left right) =
      (do membership registry operator quantifier left right; return noOperand) := by
  cases operator <;> cases tests <;> rfl

theorem predicate_notATest (logical : operator.isLogical = false)
    (relates : operator.isRelation = false) (tests : operator.isMembership = false) :
    predicate registry returnValues (.test operator quantifier left right) =
      Gen.fail (.notATest operator) := by
  obtain computes | rfl | ⟨code, rfl⟩ := Operator.eq_of_testsNothing logical relates tests
  · cases operator <;> cases computes <;> rfl
  · rfl
  · rfl

theorem isPredicate_relation (relates : operator.isRelation = true) :
    Node.isPredicate (.test operator quantifier left right) =
      ((selectOpcode operator quantifier).toOption.isSome && left.isEntity && right.isEntity) := by
  cases operator <;> cases relates <;> cases right <;>
    simp [Node.isPredicate, Operator.isMembership, Operator.isRelation, Node.isEntity]

theorem isPredicate_membership (tests : operator.isMembership = true) (elements : List Element) :
    Node.isPredicate (.test operator quantifier left (.set elements)) =
      ((selectOpcode operator quantifier).toOption.isSome && left.isEntity &&
        Node.areMembers elements) := by
  cases operator <;> cases tests <;> simp [Node.isPredicate, Operator.isMembership]

theorem isPredicate_notASet (tests : operator.isMembership = true)
    (noSet : ∀ elements, right ≠ .set elements) :
    Node.isPredicate (.test operator quantifier left right) = false := by
  cases operator <;> cases tests <;> cases right <;>
    simp_all [Node.isPredicate, Operator.isRelation]

theorem isPredicate_notATest (logical : operator.isLogical = false)
    (relates : operator.isRelation = false) (tests : operator.isMembership = false) :
    Node.isPredicate (.test operator quantifier left right) = false := by
  obtain computes | rfl | ⟨code, rfl⟩ := Operator.eq_of_testsNothing logical relates tests
  · cases operator <;> cases computes <;> rfl
  · rfl
  · rfl

end Kinds

/-- A test that only leaves its answer in the flag returns no operand. -/
theorem RunsTest.unit {accepted : Bool} {step : Gen Unit}
    (runs : RunsTest accepted step code fun _ _ => True) :
    RunsTest accepted (do step; return noOperand) code IsResult := by
  refine runs.bind (fun _ => id) fun _ after run => ?_
  exact ⟨run.1, run.2.1, .inl rfl⟩

/-- Two truth values of which the second one may be skipped. -/
theorem shortCircuit_runs {left right : Node} (branch : Opcode) (branches : branch.isBranch = true)
    (leftRuns : RunsTest left.isPredicate (predicate registry false left) code IsResult)
    (rightRuns : ∀ code : Code, code.CachesRegisters →
      RunsTest right.isPredicate (predicate registry false right) code IsResult)
    (caches : code.CachesRegisters) :
    RunsTest (left.isPredicate && right.isPredicate) (do
      let _ ← predicate registry false left
      let target ← Gen.newTarget
      Gen.emit branch [target]
      let _ ← predicate registry false right
      Gen.fixup [target]
      return noOperand) code IsResult := by
  unfold RunsTest
  refine leftRuns.bind (fun _ stopped => ⟨by simp [stopped.1], stopped.2⟩) fun _ after run => ?_
  simp only [yields_newTarget, yields_emit, run.1, Bool.true_and]
  have branched : Steps (code, [])
      (after.newTarget.2.emit branch [after.newTarget.1], [after.newTarget.1]) :=
    run.2.1.tail (.branch branch branches)
  refine (rightRuns _ (branched.cachesRegisters caches)).bind (fun _ => id) fun _ last more => ?_
  have both : Steps (code, []) (last, [after.newTarget.1]) := branched.append more.2.1
  rw [both.yields_fixup]
  exact ⟨more.1, both.resolved, .inl rfl⟩

/-- A relation or a membership test, or an operator that is refused. -/
theorem comparison_runs {operator : Operator} (quantifier : Quantifier) (left right : Node)
    (returnValues : Bool) (caches : code.CachesRegisters) (logical : operator.isLogical = false) :
    RunsTest (Node.isPredicate (.test operator quantifier left right))
      (predicate registry returnValues (.test operator quantifier left right)) code IsResult := by
  obtain relates | tests | ⟨relates, tests⟩ := operator.comparison_cases
  · rw [predicate_relation _ _ _ _ relates, isPredicate_relation _ _ _ relates]
    exact (relation_runs quantifier left right relates caches).unit
  · rw [predicate_membership _ _ _ _ tests]
    by_cases set : ∃ elements, right = .set elements
    · obtain ⟨elements, rfl⟩ := set
      rw [isPredicate_membership _ _ tests]
      exact (membership_runs quantifier left elements tests caches).unit
    · rw [isPredicate_notASet _ _ _ tests fun elements same => set ⟨elements, same⟩]
      unfold membership
      split
      · exact absurd ⟨_, rfl⟩ set
      · exact ⟨rfl, rfl⟩
  · rw [predicate_notATest _ _ _ _ logical relates tests,
      isPredicate_notATest _ _ _ logical relates tests]
    exact ⟨rfl, rfl⟩

/-- A field is loaded or tested for presence. -/
theorem field_runs (read : FieldRead) (returnValues : Bool) (caches : code.CachesRegisters) :
    RunsTest (Node.isPredicate (.field read)) (predicate registry returnValues (.field read)) code
      IsResult := by
  unfold predicate Node.isPredicate
  cases returnValues with
  | false => exact (existence_runs read).unit
  | true =>
    refine (readField_runs read caches).bind (fun _ => id) fun value after run => ?_
    simp only [run.2.1.yields_fixup, yields_pure]
    exact ⟨run.1, run.2.1.resolved, .inr (run.2.2.resolve value.2)⟩

/-- **The code for a truth value is a run that leaves no jumps.** -/
theorem predicate_runs (node : Node) (returnValues : Bool) (code : Code)
    (caches : code.CachesRegisters) :
    RunsTest node.isPredicate (predicate registry returnValues node) code IsResult := by
  match node with
  | .missing => exact ⟨rfl, rfl⟩
  | .test operator quantifier left right =>
    by_cases logical : operator.isLogical = true
    · obtain rfl | rfl | rfl := Operator.eq_of_isLogical logical
      · unfold predicate Node.isPredicate
        refine (predicate_runs left false code caches).bind (fun _ => id) fun _ after run => ?_
        simp only [yields_emit, yields_pure]
        exact ⟨run.1, run.2.1.tail (.emit .not [] rfl rfl (List.forall_mem_nil _)), .inl rfl⟩
      · unfold predicate Node.isPredicate
        exact shortCircuit_runs .ifFalseGoto rfl (predicate_runs left false code caches)
          (predicate_runs right false) caches
      · unfold predicate Node.isPredicate
        exact shortCircuit_runs .ifTrueGoto rfl (predicate_runs left false code caches)
          (predicate_runs right false) caches
    · rw [Bool.not_eq_true] at logical
      exact comparison_runs quantifier left right returnValues caches logical
  | .field read => exact field_runs read returnValues caches
  | .arithmetic operator left right => exact notZero_runs (.arithmetic operator left right) caches
  | .call definition? args => exact notZero_runs (.call definition? args) caches
  | .slice inner range? => exact notEmpty_runs (.slice inner range?) caches
  | .reference read => exact ⟨rfl, rfl⟩
  | .value constant => exact ⟨rfl, rfl⟩
  | .pattern pattern? => exact ⟨rfl, rfl⟩
  | .set elements => exact ⟨rfl, rfl⟩

end Compile

end DisplayFilter
