/-
**The acts behind the code of values.**

Where code generation does not break off, it carries out acts that follow the plan of the tree. The
value of a node may be read behind its code, and all its jumps are pending from the level at which
its code starts.

* `Compile.WorksValue`, `Compile.WorksTest`: steps of code generation as runs of acts.
* `Compile.readField_works`, `Compile.readReference_works`: the code of reads.
* `Compile.entity_works`, `Compile.arguments_works`: the code of values and of arguments.
-/

import DisplayFilter.Compiler
import DisplayFilter.Proofs.Generation.Act
import DisplayFilter.Proofs.Generation.Finished
import DisplayFilter.Proofs.Generation.Results

namespace DisplayFilter

namespace Compile

open Gen Code

variable {registry : Registry} {code : Code} (plan : List Purpose)

/-- Fields that were read have registers, and branches go forward. -/
structure Workable (code : Code) : Prop where
  caches : code.CachesRegisters
  forward : code.ForwardFrom 0

theorem Workable.steps {before after : Code} {pending : List Handle} (workable : Workable before)
    (steps : Steps (before, []) (after, pending)) : Workable after :=
  ⟨steps.cachesRegisters workable.caches, steps.forward workable.forward⟩

/-- A step that leaves a value and the jumps to take without it, according to a plan. -/
def WorksValue (plan added : List Purpose) (step : Gen Value) (code : Code) : Prop :=
  Yields step code
    (fun value after => Works plan code added value.2 [] after ∧ after.Gives value.1)
    (fun _ => True)

/-- A step that leaves no jumps, according to a plan. -/
def WorksTest {α : Type} (plan added : List Purpose) (step : Gen α) (code : Code) : Prop :=
  Yields step code (fun _ after => Works plan code added [] [] after) (fun _ => True)

/-! ### Results -/

section Results

variable {opcode : Opcode} {register : Handle} {number : Int} (forward : code.ForwardFrom 0)
  (first behind : List Handle) (slot : opcode.resultSlot? = some first.length)
  (waits : code.Has register (.register number))

include forward slot waits

/-- The result of an instruction that cannot fail. -/
theorem gives_emit (sure : opcode.guardDistance? = none) :
    (code.emit opcode (first ++ register :: behind)).Gives register :=
  (alive_emit forward slot (by simp) waits sure).gives waits

/-- The result of an instruction that can fail, behind its branch. -/
theorem gives_emitJump (fails : opcode.guardDistance? = some 1) :
    (code.emit opcode (first ++ register :: behind)).emitJump.2.Gives register :=
  (alive_emitJump forward slot (by simp) waits fails).gives
    (waits.extend ((Extends.emit _ _).trans (.emitJump _)))

end Results

/-! ### Reads -/

/-- The plan of a value-string table, if it is applied. -/
def tablePlan (wanted : Bool) : List Purpose :=
  if wanted then [.plain, .plain] else []

theorem valueString_works (field : Field) {source : Handle} (workable : Workable code)
    (gives : code.Gives source) :
    Yields (valueString field source) code
      (fun result after => Works plan code [.plain, .plain] [result.2] [] after ∧
        after.Gives result.1)
      (fun _ => True) := by
  unfold valueString
  simp only [yields_newRegister, yields_newOperand, yields_emit, yields_emitJump, yields_pure]
  have made := ((Works.refl plan code).register).operand (.field field false) rfl rfl
  have waits := (has_newRegister code).extend (.newOperand (.field field false))
  have operand := (has_newOperand code.newRegister.2 (.field field false)).gives rfl rfl
  refine ⟨(made.compute .valueString [_, source] _ [] .plain rfl rfl rfl waits ?_ rfl).branch
    .ifFalseGoto rfl rfl,
    gives_emitJump (workable.steps made.steps).forward [_, source] [] rfl waits rfl⟩
  simp only [List.append_nil, List.forall_mem_cons]
  exact ⟨operand, gives.extend made.steps.extends.1 workable.forward, List.forall_mem_nil _⟩

/-- A value-string table may be applied to a value that was read. -/
theorem withValueString_works {plan added : List Purpose} (wanted : Bool) (field : Field)
    (read : Value) {before : Code}
    (workable : Workable code) (works : Works plan before added read.2 [] code)
    (returns : (Level.ground.run plan).run added = Level.ground.run plan)
    (gives : code.Gives read.1) :
    Yields (withValueString wanted field read) code
      (fun result after => Works plan before (added ++ tablePlan wanted) result.2 [] after ∧
        after.Gives result.1)
      (fun _ => True) := by
  unfold withValueString tablePlan
  split
  · refine (valueString_works (plan ++ added) field workable gives).bind (fun _ => id) fun result after run => ?_
    exact ⟨works.append run.1 returns, run.2⟩
  · rw [List.append_nil]
    exact ⟨works, gives⟩

/-- The register for the plain read of a field is that of an earlier read or a new one. -/
theorem plainRegister_works (field : Field) (raw : Bool) :
    Yields (plainRegister field raw) code
      (fun register after => (code.cachedRegister? field raw = some register ∧ after = code) ∨
        (code.cachedRegister? field raw = none ∧ register = code.newRegister.1 ∧
          after = code.withRegister field raw))
      (fun _ => True) := by
  unfold plainRegister
  rw [yields_get]
  split
  · rename_i register found
    exact .inl ⟨found, rfl⟩
  · rename_i absent
    exact .inr ⟨absent, rfl, rfl⟩

/-- A plain read may be used behind its branch. -/
theorem gives_withRead {field : Field} {raw : Bool} {register : Handle} (workable : Workable code)
    (cached : code.cachedRegister? field raw = some register) :
    (code.withRead field raw register).emitJump.2.Gives register := by
  obtain ⟨position, number, same, found⟩ := workable.caches field raw register cached
  have forward : (code.newOperand (.field field raw)).2.ForwardFrom 0 :=
    (Step.operand (.field field raw) rfl rfl : Step (code, []) _).forward workable.forward
  have waits : code.Has register (.register number) := ⟨position, same, found⟩
  exact gives_emitJump forward [_] [] rfl (waits.extend (.newOperand _)) rfl

/-- What follows the read of a field: a note of the fields that are read, and the value-string table
if it is wanted. -/
theorem afterRead_works {plan : List Purpose} (read : FieldRead) (written : Field)
    {guarded noted : Code} {register jump : Handle} (workable : Workable code)
    (works : Works plan code [.plain, .plain] [jump] [] guarded) (gives : guarded.Gives register)
    (same : ∃ interesting references rawReferences,
      noted = { guarded with interesting, references, rawReferences }) :
    Yields (withValueString read.valueString written (register, [jump])) noted
      (fun value after => Works plan code (Node.readPlan read) value.2 [] after ∧
        after.Gives value.1)
      (fun _ => True) := by
  obtain ⟨interesting, references, rawReferences, rfl⟩ := same
  have made := works.note interesting references rawReferences
  have still : ({ guarded with interesting, references, rawReferences } : Code).Gives register :=
    gives.extend ⟨id, id, Nat.le_refl _, id⟩ (workable.steps works.steps).forward
  have whole : [.plain, .plain] ++ tablePlan read.valueString = Node.readPlan read := by
    unfold tablePlan Node.readPlan
    cases read.valueString <;> rfl
  have table := withValueString_works read.valueString written (register, [jump])
    (workable.steps made.steps) made rfl still
  rwa [whole] at table

/-- **Reading a field follows its plan.** -/
theorem readField_works (read : FieldRead) (workable : Workable code) :
    WorksValue plan (Node.readPlan read) (readField registry read) code := by
  unfold WorksValue readField
  split
  · trivial
  · rename_i written given
    dsimp only
    split
    · refine (plainRegister_works _ _).bind (fun _ => id) fun register middle run => ?_
      simp only [yields_newOperand, yields_emit, yields_pure_bind, yields_emitJump, yields_modify]
      rcases run with ⟨cached, rfl⟩ | ⟨absent, rfl, rfl⟩
      · exact afterRead_works read written workable (works_reload plan _ _ _ cached)
          (gives_withRead workable cached) ⟨_, _, _, rfl⟩
      · have ready := workable.steps (Relation.ReflTransGen.single (.load _ _ absent))
        exact afterRead_works read written workable (works_load plan _ _ _ absent)
          (gives_withRead ready (code.withRegister_cachedRegister? _ _)) ⟨_, _, _, rfl⟩
    · simp only [yields_newRegister, yields_newOperand, yields_emit, yields_pure_bind,
        yields_emitJump, yields_modify]
      have made := (((Works.refl plan code).register).operand (.field (registry.canonical written)
        read.raw) rfl rfl).operand (.range (windows read.range?)) rfl rfl
      have waits := ((has_newRegister code).extend (.newOperand (.field (registry.canonical written)
        read.raw))).extend (.newOperand (.range (windows read.range?)))
      have field := ((has_newOperand code.newRegister.2 (.field (registry.canonical written)
        read.raw)).extend (.newOperand (.range (windows read.range?)))).gives rfl rfl
      have bytes := (has_newOperand (code.newRegister.2.newOperand (.field
        (registry.canonical written) read.raw)).2 (.range (windows read.range?))).gives rfl rfl
      refine afterRead_works read written workable
        ((made.compute .readTreeRange [_] _ [_] .plain rfl rfl rfl waits ?_ rfl).branch .ifFalseGoto
          rfl rfl) (gives_emitJump (workable.steps made.steps).forward [_] [_] rfl waits rfl)
        ⟨_, _, _, rfl⟩
      exact List.forall_mem_cons.mpr ⟨field, List.forall_mem_singleton.mpr bytes⟩

/-- Noting a reference changes only the lists of fields. -/
theorem addReference_eq (code : Code) (field : Field) (raw : Bool) :
    ∃ interesting references rawReferences,
      (code.addReference field raw).markInteresting registry field =
        { code with interesting, references, rawReferences } := by
  cases raw <;> exact ⟨_, _, _, rfl⟩

/-- **Reading a field of an earlier packet follows its plan.** -/
theorem readReference_works (read : FieldRead) (workable : Workable code) :
    WorksValue plan (Node.readPlan read) (readReference registry read) code := by
  unfold WorksValue readReference
  split
  · trivial
  · rename_i written given
    dsimp only
    simp only [yields_newRegister, yields_newOperand]
    have made := ((Works.refl plan code).register).operand (.field (registry.canonical written)
      read.raw) rfl rfl
    have waits := (has_newRegister code).extend (.newOperand (.field (registry.canonical written)
      read.raw))
    have field := has_newOperand code.newRegister.2 (.field (registry.canonical written) read.raw)
    split
    · simp only [yields_emit, yields_emitJump, yields_modify]
      exact afterRead_works read written workable
        ((made.compute .readReference [_] _ [] .plain rfl rfl rfl waits
          (List.forall_mem_singleton.mpr (field.gives rfl rfl)) rfl).branch .ifFalseGoto rfl rfl)
        (gives_emitJump (workable.steps made.steps).forward [_] [] rfl waits rfl)
        (addReference_eq _ _ _)
    · simp only [yields_newOperand, yields_emit, yields_emitJump, yields_modify]
      have ranged := made.operand (.range (windows read.range?)) rfl rfl
      have still := waits.extend (.newOperand (.range (windows read.range?)))
      have bytes := has_newOperand (code.newRegister.2.newOperand (.field
        (registry.canonical written) read.raw)).2 (.range (windows read.range?))
      refine afterRead_works read written workable
        ((ranged.compute .readReferenceRange [_] _ [_] .plain rfl rfl rfl still ?_ rfl).branch
          .ifFalseGoto rfl rfl)
        (gives_emitJump (workable.steps ranged.steps).forward [_] [_] rfl still rfl)
        (addReference_eq _ _ _)
      exact List.forall_mem_cons.mpr ⟨(field.extend (.newOperand _)).gives rfl rfl,
        List.forall_mem_singleton.mpr (bytes.gives rfl rfl)⟩

/-- A table applied to what a read gave: with the read, it is there once. -/
theorem withTable_works {read : FieldRead} {reading : Gen Value} (workable : Workable code)
    (present : read.field?.isSome = true)
    (works : WorksValue plan (Node.readPlan read) reading code) :
    WorksValue plan (List.replicate 4 .plain) (do withTable read (← reading)) code := by
  refine works.bind (fun _ => id) fun value after run => ?_
  unfold withTable
  split
  · rename_i absent
    rw [absent] at present
    cases present
  · rename_i written found
    have whole : Node.readPlan read ++ tablePlan (!read.valueString) = List.replicate 4 .plain := by
      unfold tablePlan Node.readPlan
      cases read.valueString <;> rfl
    have returns : (Level.ground.run plan).run (Node.readPlan read) = Level.ground.run plan := by
      unfold Node.readPlan
      cases read.valueString <;> rfl
    have table := withValueString_works (!read.valueString) written value (workable.steps run.1.steps)
      run.1 returns run.2
    rwa [whole] at table

/-! ### Values -/

theorem slice_works {inner : Node} {address : Address} (range? : Option ByteRange)
    (workable : Workable code)
    (works : WorksValue plan (Node.valuePlan (0 :: address) inner) (entity registry inner) code) :
    WorksValue plan (Node.valuePlan address (.slice inner range?))
      (entity registry (.slice inner range?)) code := by
  unfold WorksValue entity Node.valuePlan
  by_cases empty : (windows range?).isEmpty = true
  · simp only [empty, if_true]
    trivial
  · simp only [empty, Bool.false_eq_true, if_false]
    refine works.bind (fun _ => id) fun value after run => ?_
    simp only [yields_newRegister, yields_newOperand, yields_emit, yields_pure]
    have ready := workable.steps run.1.steps
    have made := run.1.register.operand (.range (windows range?)) rfl rfl
    have waits := (has_newRegister after).extend (.newOperand (.range (windows range?)))
    have bytes := has_newOperand after.newRegister.2 (.range (windows range?))
    have source := run.2.extend (Extends.newRegister.trans (.newOperand (.range (windows range?))))
      ready.forward
    refine ⟨made.compute .slice [value.1] _ [_] .plain rfl rfl rfl waits ?_ rfl,
      gives_emit (workable.steps made.steps).forward [value.1] [_] rfl waits rfl⟩
    exact List.forall_mem_cons.mpr ⟨source, List.forall_mem_singleton.mpr (bytes.gives rfl rfl)⟩

/-- The length of a value. -/
theorem length_works {argument : Node} {definition : FunctionDef} {address : Address}
    (named : definition.name = "len") (workable : Workable code)
    (works : WorksValue plan (Node.valuePlan (0 :: address) argument) (entity registry argument)
      code) :
    WorksValue plan (Node.valuePlan address (.call (some definition) [argument]))
      (entity registry (.call (some definition) [argument])) code := by
  unfold WorksValue entity Node.valuePlan
  simp only [named, if_true]
  refine works.bind (fun _ => id) fun value after run => ?_
  simp only [yields_newRegister, yields_emit, yields_pure]
  have ready := workable.steps run.1.steps
  have source := run.2.extend .newRegister ready.forward
  exact ⟨run.1.register.compute .length [value.1] _ [] .plain rfl rfl rfl (has_newRegister after)
    (List.forall_mem_singleton.mpr source) rfl,
    gives_emit (workable.steps run.1.register.steps).forward [value.1] [] rfl
      (has_newRegister after) rfl⟩

/-- A read of nothing breaks off. -/
theorem readField_missing {read : FieldRead} (missing : read.field? = none) :
    readField registry read = Gen.fail .fieldWithoutInfo := by
  unfold readField
  rw [missing]

theorem readReference_missing {read : FieldRead} (missing : read.field? = none) :
    readReference registry read = Gen.fail .referenceWithoutInfo := by
  unfold readReference
  rw [missing]

/-- The value-string table of a field. -/
theorem vals_works {definition : FunctionDef} {address : Address} (args : List Node)
    (named : definition.name = "vals") (workable : Workable code) :
    WorksValue plan (Node.valuePlan address (.call (some definition) args))
      (entity registry (.call (some definition) args)) code := by
  unfold entity Node.valuePlan
  simp only [named, if_neg (show ¬ "vals" = "len" by decide), if_true]
  split
  · rename_i read
    cases given : read.field? with
    | none =>
      rw [readField_missing given]
      trivial
    | some field =>
      exact withTable_works plan workable (by rw [given]; rfl) (readField_works plan read workable)
  · rename_i read
    cases given : read.field? with
    | none =>
      rw [readReference_missing given]
      trivial
    | some field =>
      exact withTable_works plan workable (by rw [given]; rfl)
        (readReference_works plan read workable)
  · trivial
  · trivial

/-- The level behind a plan of a value. -/
theorem run_valuePlan {plan : List Purpose} (free : (Level.ground.run plan).Free) (node : Node)
    (address : Address) :
    (Level.ground.run plan).run (Node.valuePlan address node) = Level.ground.run plan :=
  (Node.takes_valuePlan node address free).2

/-- The code with a call. -/
def called (code : Code) (function register : Handle) (count : Nat) : Code :=
  (code.newOperand (.count count)).2.emit .callFunction
    [function, register, (code.newOperand (.count count)).1]

/-- The code with a call and the removal of its arguments. -/
def returned (code : Code) (function register : Handle) (count : Nat) : Code :=
  ((called code function register count).newOperand (.count count)).2.emit .stackPop
    [((called code function register count).newOperand (.count count)).1]

section Calls

variable {before : Code} {function register : Handle} {number : Int} {count : Nat}

/-- The result of a call, behind the removal of its arguments and its branch. -/
theorem gives_returned (forward : code.ForwardFrom 0)
    (waits : code.Has register (.register number)) :
    (returned code function register count).emitJump.2.Gives register := by
  have counted : code.Extends (code.newOperand (.count count)).2 := .newOperand _
  have calling : (code.newOperand (.count count)).2.Extends (called code function register count) :=
    .emit _ _
  have removing : (called code function register count).Extends
      (returned code function register count) := (Extends.newOperand _).trans (.emit _ _)
  have ready : (code.newOperand (.count count)).2.ForwardFrom 0 :=
    (Step.operand (.count count) rfl rfl : Step (code, []) _).forward forward
  have writes : (called code function register count).WritesTo code.instructions.size number :=
    writesTo_emit rfl rfl (waits.extend counted)
  have there : (called code function register count).instructions[code.instructions.size]? =
      some (.of code.instructions.size .callFunction _) := Array.getElem?_push_size
  have size : (returned code function register count).instructions.size =
      code.instructions.size + 2 :=
    (Array.size_push _).trans (congrArg (· + 1) (Array.size_push _))
  refine (alive_guarded ready (calling.trans removing)
    (writes.keep removing.keeps removing.continues) (removing.instruction there) rfl size
    fun index instruction new found => ?_).gives
    (waits.extend (((counted.trans calling).trans removing).trans (.emitJump _)))
  rcases getElem?_of_push found with old | ⟨_, rfl⟩
  · rcases getElem?_of_push old with older | ⟨_, rfl⟩
    · have inside := (Array.getElem?_eq_some_iff.mp older).1
      have behind : code.instructions.size ≤ index := new
      have early : index < code.instructions.size := inside
      omega
    · rfl
  · rfl

/-- A call behind its arguments: the call, the removal of the arguments and the branch. -/
theorem returned_works {plan added : List Purpose} {address : Address} {args : List Node}
    (works : Works plan before added [] [number] code) (names : code.Gives function)
    (waits : code.Has register (.register number)) (forward : code.ForwardFrom 0)
    (returns : (Level.ground.run plan).run
      (added ++ [.call address args, .pop address args, .plain]) = Level.ground.run plan) :
    Works plan before (added ++ [.call address args, .pop address args, .plain])
      [(returned code function register args.length).emitJump.1] []
      (returned code function register args.length).emitJump.2 := by
  have passed := has_newOperand code (.count args.length)
  have counted := works.operand (.count args.length) rfl rfl
  have calls := counted.compute .callFunction [function] register [_] (.call address args) rfl rfl
    rfl (waits.extend (.newOperand _)) (List.forall_mem_cons.mpr
      ⟨names.extend (.newOperand _) forward, List.forall_mem_singleton.mpr (passed.gives rfl rfl)⟩)
    ⟨rfl, passed⟩
  have popped := has_newOperand (called code function register args.length) (.count args.length)
  have removed := (calls.operand (.count args.length) rfl rfl).emit .stackPop [_]
    (.pop address args) rfl rfl rfl (List.forall_mem_singleton.mpr (popped.gives rfl rfl))
    ⟨rfl, popped⟩
  rw [Level.run_append] at returns
  have branched := removed.branch .ifFalseGoto rfl (by
    rw [Level.run_append, Level.run_append]
    exact returns)
  rw [List.append_assoc, List.append_assoc] at branched
  exact branched

end Calls

/-- A call through the argument stack. -/
theorem call_works {definition : FunctionDef} {address : Address} (args : List Node)
    (notLen : definition.name ≠ "len") (notVals : definition.name ≠ "vals")
    (free : (Level.ground.run plan).Free) (workable : Workable code)
    (works : ∀ code : Code, Workable code →
      WorksTest plan (Node.argumentsPlan address 0 args) (arguments registry args) code) :
    WorksValue plan (Node.valuePlan address (.call (some definition) args))
      (entity registry (.call (some definition) args)) code := by
  have returns := run_valuePlan free (.call (some definition) args) address
  unfold WorksValue entity
  unfold Node.valuePlan at returns ⊢
  simp only [notLen, notVals, if_false, yields_newOperand, yields_newRegister] at returns ⊢
  have start := ((Works.refl plan code).operand (.function definition.name) rfl rfl).register
  have ready := workable.steps start.steps
  refine (works _ ready).bind (fun _ => id) fun _ after run => ?_
  simp only [yields_newOperand, yields_emit, yields_emitJump, yields_pure]
  have pushed := start.append (by rw [List.append_nil]; exact run) rfl
  have grown := run.steps.extends.1
  have function := ((has_newOperand code (.function definition.name)).extend .newRegister).extend
    grown
  have waits := (has_newRegister (code.newOperand (.function definition.name)).2).extend grown
  have forward := (ready.steps run.steps).forward
  exact ⟨returned_works pushed (function.gives rfl rfl) waits forward returns,
    gives_returned forward waits⟩

theorem arithmetic_works (operator : Operator) {left right : Node} {address : Address}
    (free : (Level.ground.run plan).Free) (workable : Workable code)
    (leftWorks : WorksValue plan (Node.valuePlan (0 :: address) left) (entity registry left) code)
    (rightWorks : ∀ code : Code, Workable code → WorksValue
      (plan ++ Node.valuePlan (0 :: address) left) (Node.valuePlan (1 :: address) right)
      (entity registry right) code) :
    WorksValue plan (Node.valuePlan address (.arithmetic operator left right))
      (entity registry (.arithmetic operator left right)) code := by
  unfold WorksValue entity Node.valuePlan
  split
  · trivial
  · rename_i opcode chosen
    obtain ⟨plain, count⟩ := arithmeticOpcode?_plain chosen
    obtain ⟨slot, sure, serves⟩ := arithmeticOpcode?_result chosen
    refine leftWorks.bind (fun _ => id) fun value after run => ?_
    have ready := workable.steps run.1.steps
    dsimp only
    split
    · rename_i negates
      rw [if_pos negates] at count slot
      split
      · trivial
      · simp only [yields_newRegister, yields_emit, yields_pure]
        have source := run.2.extend .newRegister ready.forward
        exact ⟨run.1.register.compute opcode [value.1] _ [] .plain plain count.symm slot
          (has_newRegister after) (List.forall_mem_singleton.mpr source) serves,
          gives_emit (workable.steps run.1.register.steps).forward [value.1] [] slot
            (has_newRegister after) sure⟩
    · rename_i binary
      rw [if_neg binary] at count slot
      refine (rightWorks after ready).bind (fun _ => id) fun other last more => ?_
      simp only [yields_newRegister, yields_emit, yields_pure]
      have both := (run.1.append more.1 (run_valuePlan free _ _)).register
      have first := run.2.extend (more.1.steps.extends.1.trans .newRegister) ready.forward
      have second := more.2.extend .newRegister (ready.steps more.1.steps).forward
      exact ⟨both.compute opcode [value.1, other.1] _ [] .plain plain count.symm slot
        (has_newRegister last) (List.forall_mem_cons.mpr ⟨first,
          List.forall_mem_singleton.mpr second⟩) serves,
        gives_emit (workable.steps both.steps).forward [value.1, other.1] [] slot
          (has_newRegister last) sure⟩

/-- A value according to a plan, with the operand that stands for it. -/
theorem WorksValue.valueOf {plan : List Purpose} {node : Node} {address : Address}
    (works : WorksValue plan (Node.valuePlan address node) (entity registry node) code)
    (workable : Workable code) :
    Yields (entity registry node) code
      (fun value after => Works plan code (Node.valuePlan address node) value.2 [] after ∧
        after.Gives value.1 ∧
        after.ValueOf node code.instructions.size after.instructions.size value.1)
      (fun _ => True) := by
  refine (Yields.and works (entity_leaves node code workable.caches)).imp (fun value after run => ?_)
    fun _ _ => trivial
  obtain ⟨⟨made, gives⟩, result, -⟩ := run
  exact ⟨made, gives, result⟩

/-- An argument is pushed behind its resolved jumps. -/
theorem argument_works {argument : Node} {rest : List Node} {call : Address} {position : Nat}
    (free : (Level.ground.run plan).Free) (workable : Workable code)
    (works : WorksValue plan (Node.valuePlan (position :: call) argument)
      (entity registry argument) code)
    (restWorks : ∀ code : Code, Workable code → WorksTest
      (plan ++ (Node.valuePlan (position :: call) argument ++ [.push ⟨call, position, argument⟩]))
      (Node.argumentsPlan call (position + 1) rest) (arguments registry rest) code) :
    WorksTest plan (Node.argumentsPlan call position (argument :: rest))
      (arguments registry (argument :: rest)) code := by
  unfold WorksTest arguments Node.argumentsPlan
  refine (works.valueOf workable).bind (fun _ => id) fun value after run => ?_
  obtain ⟨made, gives, result⟩ := run
  have steps := made.steps
  simp only [steps.yields_fixup, yields_emit]
  have delivers : (after.resolve value.2).Delivers (position :: call) argument
      (after.resolve value.2).instructions.size value.1 := by
    rw [resolve_instructions]
    exact (made.delivers result).keep steps.keepsResults (Nat.le_refl _)
  have pushed := (made.settled (run_valuePlan free _ _)).push ⟨call, position, argument⟩
    (gives.1.resolve value.2) delivers
  exact (restWorks _ (workable.steps pushed.steps)).imp (fun _ _ more => pushed.andThen more)
    fun _ => id

mutual

/-- **The code for a value follows its plan.** -/
theorem entity_works (node : Node) (address : Address) (plan : List Purpose) (code : Code)
    (free : (Level.ground.run plan).Free) (workable : Workable code) :
    WorksValue plan (Node.valuePlan address node) (entity registry node) code := by
  match node with
  | .missing => trivial
  | .field read =>
    unfold entity Node.valuePlan
    exact readField_works plan read workable
  | .reference read =>
    unfold entity Node.valuePlan
    exact readReference_works plan read workable
  | .value constant =>
    unfold entity
    exact ⟨(Works.refl plan code).operand (.constant _) rfl rfl,
      (has_newOperand code _).gives rfl rfl⟩
  | .pattern none => trivial
  | .pattern (some pattern) =>
    unfold entity
    exact ⟨(Works.refl plan code).operand (.pattern _) rfl rfl,
      (has_newOperand code _).gives rfl rfl⟩
  | .slice inner range? =>
    exact slice_works plan range? workable (entity_works inner _ plan code free workable)
  | .call none args => trivial
  | .call (some definition) args =>
    by_cases len : definition.name = "len"
    · match args with
      | [] =>
        rw [entity_length len (by simp)]
        trivial
      | [argument] =>
        exact length_works plan len workable (entity_works argument _ plan code free workable)
      | _ :: _ :: _ =>
        rw [entity_length len (by simp)]
        trivial
    by_cases vals : definition.name = "vals"
    · exact vals_works plan args vals workable
    · exact call_works plan args len vals free workable fun code workable =>
        arguments_works args address 0 plan code free workable
  | .arithmetic operator left right =>
    refine arithmetic_works plan operator free workable
      (entity_works left _ plan code free workable) fun code workable => ?_
    refine entity_works right _ _ code ?_ workable
    rw [Level.run_append, run_valuePlan free]
    exact free
  | .test operator quantifier left right => trivial
  | .set elements => trivial

/-- The arguments of a call are pushed according to their plan. -/
theorem arguments_works (args : List Node) (call : Address) (position : Nat) (plan : List Purpose)
    (code : Code) (free : (Level.ground.run plan).Free) (workable : Workable code) :
    WorksTest plan (Node.argumentsPlan call position args) (arguments registry args) code := by
  match args with
  | [] => exact Works.refl plan code
  | argument :: rest =>
    refine argument_works plan free workable (entity_works argument _ plan code free workable)
      fun code workable => ?_
    refine arguments_works rest call (position + 1) _ code ?_ workable
    rw [Level.run_append, Level.run_append, run_valuePlan free]
    exact free

end

end Compile

end DisplayFilter
