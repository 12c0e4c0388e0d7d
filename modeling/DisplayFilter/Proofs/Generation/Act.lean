/-
**Code generation step by step, with what it owes.**

The steps of code generation are told once more, together with what they are done for. A `Stage` is
code with its pending jump targets, the registers that were made and still wait for their
instruction, and the plan of the instructions emitted so far. An `Act` says of each kind of step what
it needs: an instruction reads registers that are alive, a result goes to the register made last, a
plain read is one with its branch, and a pending target is resolved at a level that its branch may
lead to.

* `Purpose.Serves`: an instruction does what it is there for.
* `Act`, `Acts`: one act, and a run of them.
* `Act.steps`: an act is made of steps of code generation.
* `Act.grows`: what an act does to the code, the plan and the pending targets.
* `Code.Works`: a run that leaves pending targets of its own and owes some registers.
-/

import DisplayFilter.Proofs.Generation.Delivery

namespace DisplayFilter

open Relation (ReflTransGen)

/-- The instruction at an index does what it is there for. What is pushed or added is the value whose
code stands right before. -/
def Purpose.Serves (purpose : Purpose) (code : Code) (index : Nat) (instruction : Instruction) :
    Prop :=
  match purpose with
  | .plain => instruction.opcode.duty = .other
  | .push argument =>
    instruction.opcode.duty = .push ∧
      code.Delivers (argument.position :: argument.call) argument.value index instruction.first
  | .call _ arguments =>
    instruction.opcode.duty = .call ∧ code.Has instruction.third (.count arguments.length)
  | .pop _ arguments =>
    instruction.opcode.duty = .pop ∧ code.Has instruction.first (.count arguments.length)
  | .add test position (.single low) =>
    instruction.opcode = .setAdd ∧
      code.Delivers (0 :: position :: 1 :: test) low index instruction.first
  | .add test position (.between low high) =>
    instruction.opcode = .setAddRange ∧ ∃ middle,
      code.Delivers (0 :: position :: 1 :: test) low middle instruction.first ∧
      middle + (Node.valuePlan (1 :: position :: 1 :: test) high).length = index ∧
      code.ValueOf high middle index instruction.second
  | .decide _ => instruction.opcode.duty = .decide
  | .clear _ => instruction.opcode.duty = .clear

theorem Purpose.Serves.keep {purpose : Purpose} {before after : Code} {index : Nat}
    {instruction : Instruction} (serves : purpose.Serves before index instruction)
    (kept : before.KeepsResults after index) : purpose.Serves after index instruction := by
  cases purpose with
  | push argument => exact ⟨serves.1, serves.2.keep kept (Nat.le_refl _)⟩
  | call _ arguments => exact ⟨serves.1, serves.2.keep kept.keeps rfl⟩
  | pop _ arguments => exact ⟨serves.1, serves.2.keep kept.keeps rfl⟩
  | add test position element =>
    cases element with
    | single low => exact ⟨serves.1, serves.2.keep kept (Nat.le_refl _)⟩
    | between low high =>
      obtain ⟨adds, middle, first, length, second⟩ := serves
      exact ⟨adds, middle, first.keep kept (by omega), length, second.keep kept (Nat.le_refl _)⟩
  | _ => exact serves

namespace Code

/-- The code with a register for the plain reads of a field. -/
def withRegister (code : Code) (field : Field) (raw : Bool) : Code :=
  code.newRegister.2.cacheRegister field raw code.newRegister.1

/-- The code with a plain read of a field into a register. -/
def withRead (code : Code) (field : Field) (raw : Bool) (register : Handle) : Code :=
  (code.newOperand (.field field raw)).2.emit .readTree
    [(code.newOperand (.field field raw)).1, register]

end Code

/-- Code in the making, with what is pending, reserved and planned. -/
structure Stage where
  code : Code
  /-- The pending jump targets, each with the level of its branch. -/
  pending : List (Handle × Level)
  /-- The numbers of the registers that wait for their instruction, the last one first. -/
  reserved : List Int
  plan : List Purpose

namespace Stage

/-- The level behind the instructions emitted so far. -/
def level (stage : Stage) : Level :=
  Level.ground.run stage.plan

/-- The pending jump targets. -/
def targets (stage : Stage) : List Handle :=
  stage.pending.map Prod.fst

end Stage

/-- One act of code generation. -/
inductive Act : Stage → Stage → Prop
  | operand {code : Code} {pending : List (Handle × Level)} {reserved : List Int}
      {plan : List Purpose} (operand : Operand) (noTarget : operand.isTarget = false)
      (noRegister : operand.isRegister = false) :
      Act ⟨code, pending, reserved, plan⟩ ⟨(code.newOperand operand).2, pending, reserved, plan⟩
  | register {code : Code} {pending : List (Handle × Level)} {reserved : List Int}
      {plan : List Purpose} :
      Act ⟨code, pending, reserved, plan⟩
        ⟨code.newRegister.2, pending, code.registers :: reserved, plan⟩
  /-- An instruction without result. -/
  | emit {code : Code} {pending : List (Handle × Level)} {reserved : List Int}
      {plan : List Purpose} (opcode : Opcode) (operands : List Handle) (purpose : Purpose)
      (plain : opcode.isPlain = true) (count : operands.length = opcode.operandCount)
      (none : opcode.resultSlot? = none) (given : ∀ handle ∈ operands, code.Gives handle)
      (serves : purpose.Serves code code.instructions.size
        (.of code.instructions.size opcode operands)) :
      Act ⟨code, pending, reserved, plan⟩
        ⟨code.emit opcode operands, pending, reserved, plan ++ [purpose]⟩
  /-- An argument may be absent when it is pushed. -/
  | push {code : Code} {pending : List (Handle × Level)} {reserved : List Int}
      {plan : List Purpose} (value : Handle) (argument : Argument) (held : code.HoldsValue value)
      (delivers : code.Delivers (argument.position :: argument.call) argument.value
        code.instructions.size value) :
      Act ⟨code, pending, reserved, plan⟩
        ⟨code.emit .stackPush [value], pending, reserved, plan ++ [.push argument]⟩
  /-- An instruction whose result goes to the register made last. -/
  | compute {code : Code} {pending : List (Handle × Level)} {reserved : List Int}
      {plan : List Purpose} {number : Int} (opcode : Opcode) (before : List Handle)
      (register : Handle) (behind : List Handle) (purpose : Purpose) (plain : opcode.isPlain = true)
      (count : (before ++ register :: behind).length = opcode.operandCount)
      (slot : opcode.resultSlot? = some before.length)
      (waits : code.Has register (.register number))
      (given : ∀ handle ∈ before ++ behind, code.Gives handle)
      (serves : purpose.Serves code code.instructions.size
        (.of code.instructions.size opcode (before ++ register :: behind))) :
      Act ⟨code, pending, number :: reserved, plan⟩
        ⟨code.emit opcode (before ++ register :: behind), pending, reserved, plan ++ [purpose]⟩
  /-- The first plain read of a field, and the branch behind it. -/
  | load {code : Code} {pending : List (Handle × Level)} {reserved : List Int}
      {plan : List Purpose} (field : Field) (raw : Bool)
      (first : code.cachedRegister? field raw = none) :
      Act ⟨code, pending, reserved, plan⟩
        ⟨((code.withRegister field raw).withRead field raw code.newRegister.1).emitJump.2,
          pending ++ [(((code.withRegister field raw).withRead field raw
            code.newRegister.1).emitJump.1, Level.ground.run plan)],
          reserved, plan ++ [.plain, .plain]⟩
  /-- Another plain read of a field, and the branch behind it. -/
  | reload {code : Code} {pending : List (Handle × Level)} {reserved : List Int}
      {plan : List Purpose} (field : Field) (raw : Bool) (register : Handle)
      (cached : code.cachedRegister? field raw = some register) :
      Act ⟨code, pending, reserved, plan⟩
        ⟨(code.withRead field raw register).emitJump.2,
          pending ++ [((code.withRead field raw register).emitJump.1, Level.ground.run plan)],
          reserved, plan ++ [.plain, .plain]⟩
  | branch {code : Code} {pending : List (Handle × Level)} {reserved : List Int}
      {plan : List Purpose} (opcode : Opcode) (branches : opcode.isBranch = true) :
      Act ⟨code, pending, reserved, plan⟩
        ⟨code.newTarget.2.emit opcode [code.newTarget.1],
          pending ++ [(code.newTarget.1, Level.ground.run plan)], reserved, plan ++ [.plain]⟩
  /-- Targets are resolved where their branches may lead to. -/
  | resolve {code : Code} {pending : List (Handle × Level)} {reserved : List Int}
      {plan : List Purpose} (resolved : List (Handle × Level))
      (opens : ∀ target ∈ resolved, target.2.Opens (Level.ground.run plan)) :
      Act ⟨code, pending ++ resolved, reserved, plan⟩
        ⟨code.resolve (resolved.map Prod.fst), pending, reserved, plan⟩
  | note {code : Code} {pending : List (Handle × Level)} {reserved : List Int}
      {plan : List Purpose} (interesting references rawReferences : List Field) :
      Act ⟨code, pending, reserved, plan⟩
        ⟨{ code with interesting, references, rawReferences }, pending, reserved, plan⟩

/-- A run of acts. -/
abbrev Acts : Stage → Stage → Prop :=
  ReflTransGen Act

/-! ### Acts are made of steps -/

open Code (Step Steps)

/-- A plain read and its branch, once the register is known. -/
theorem Code.steps_withRead {code : Code} {pending : List Handle} (field : Field) (raw : Bool)
    {register : Handle} (cached : code.cachedRegister? field raw = some register) :
    Steps (code, pending) ((code.withRead field raw register).emitJump.2,
      pending ++ [(code.withRead field raw register).emitJump.1]) :=
  ((ReflTransGen.refl.tail (.operand (.field field raw) rfl rfl)).tail
    (.read field raw _ register Array.getElem?_push_size cached)).tail (.branch .ifFalseGoto rfl)

theorem Code.withRegister_cachedRegister? (code : Code) (field : Field) (raw : Bool) :
    (code.withRegister field raw).cachedRegister? field raw = some code.newRegister.1 := by
  unfold withRegister
  rw [cacheRegister_cachedRegister?, if_pos rfl]

/-- **An act is made of steps of code generation.** -/
theorem Act.steps {start stop : Stage} (act : Act start stop) :
    Steps (start.code, start.targets) (stop.code, stop.targets) := by
  unfold Stage.targets
  cases act with
  | operand operand noTarget noRegister => exact .single (.operand operand noTarget noRegister)
  | register => exact .single .register
  | emit opcode operands purpose plain count none given serves =>
    exact .single (.emit opcode operands plain count fun handle member => (given handle member).1)
  | push value argument held delivers => exact .single (.emit_one rfl rfl held)
  | compute opcode before register behind purpose plain count slot waits given serves =>
    refine .single (.emit opcode _ plain count fun handle member => ?_)
    rcases List.mem_append.mp member with early | late
    · exact (given handle (List.mem_append_left _ early)).1
    rcases List.mem_cons.mp late with rfl | last
    · obtain ⟨position, same, found⟩ := waits
      exact ⟨position, _, same, found, rfl⟩
    · exact (given handle (List.mem_append_right _ last)).1
  | @load code pending reserved plan field raw first =>
    rw [List.map_append]
    exact .head (.load field raw first)
      (Code.steps_withRead field raw (code.withRegister_cachedRegister? field raw))
  | reload field raw register cached =>
    rw [List.map_append]
    exact Code.steps_withRead field raw cached
  | branch opcode branches =>
    rw [List.map_append]
    exact .single (.branch opcode branches)
  | resolve resolved opens =>
    rw [List.map_append]
    exact .single (.resolve _)
  | note interesting references rawReferences =>
    exact .single (.note interesting references rawReferences)

theorem Acts.steps {start stop : Stage} (acts : Acts start stop) :
    Steps (start.code, start.targets) (stop.code, stop.targets) := by
  induction acts with
  | refl => exact .refl
  | tail _ act ih => exact ih.trans act.steps

/-- What an act may do to the code, the plan and the pending targets. -/
inductive Grows (start stop : Stage) : Prop
  | nothing (grown : start.code.Extends stop.code)
      (instructions : stop.code.instructions = start.code.instructions)
      (plan : stop.plan = start.plan) (pending : stop.pending = start.pending)
  | one (instruction : Instruction) (purpose : Purpose) (grown : start.code.Extends stop.code)
      (instructions : stop.code.instructions = start.code.instructions.push instruction)
      (plan : stop.plan = start.plan ++ [purpose]) (pending : start.pending <+: stop.pending)
      (serves : purpose.Serves start.code start.code.instructions.size instruction)
      (differs : instruction.opcode ≠ .readTree)
      (waits : instruction.opcode.isBranch = true →
        (instruction.first, start.level) ∈ stop.pending)
  /-- A plain read and its branch. -/
  | read (read guard : Instruction) (grown : start.code.Extends stop.code)
      (instructions : stop.code.instructions = (start.code.instructions.push read).push guard)
      (plan : stop.plan = start.plan ++ [.plain, .plain]) (pending : start.pending <+: stop.pending)
      (reads : read.opcode = .readTree) (guards : guard.opcode = .ifFalseGoto)
      (waits : (guard.first, start.level) ∈ stop.pending)
  | resolve (resolved : List (Handle × Level)) (plan : stop.plan = start.plan)
      (pending : start.pending = stop.pending ++ resolved)
      (code : stop.code = start.code.resolve (resolved.map Prod.fst))
      (opens : ∀ target ∈ resolved, target.2.Opens start.level)

namespace Opcode

theorem ne_readTree {opcode : Opcode} (plain : opcode.isPlain = true) : opcode ≠ .readTree := by
  rintro rfl
  cases plain

theorem duty_of_isBranch {opcode : Opcode} (branches : opcode.isBranch = true) :
    opcode.duty = .other := by
  cases opcode <;> first | rfl | cases branches

end Opcode

theorem Code.extends_withRegister (code : Code) {field : Field} {raw : Bool}
    (first : code.cachedRegister? field raw = none) :
    code.Extends (code.withRegister field raw) := by
  have step : Step (code, []) (code.withRegister field raw, []) := .load field raw first
  exact (step.extends (.refl _) (List.forall_mem_nil _)).1

theorem Code.extends_withRead (code : Code) (field : Field) (raw : Bool) (register : Handle) :
    code.Extends (code.withRead field raw register).emitJump.2 :=
  ((Extends.newOperand _).trans (.emit _ _)).trans (.emitJump _)

section WithRead

variable {code : Code} {field : Field} {raw : Bool} {register : Handle}

/-- The read that a plain read and its branch start with. -/
theorem Code.withRead_found :
    (code.withRead field raw register).emitJump.2.instructions[code.instructions.size]? =
      some (.of code.instructions.size .readTree [(code.arena.size : Int), register]) :=
  (Extends.emitJump _).instruction Array.getElem?_push_size

/-- The field that is read. -/
theorem Code.has_withRead :
    (code.withRead field raw register).emitJump.2.Has code.arena.size (.field field raw) := by
  have operand := (has_newOperand code (.field field raw)).extend
    (.emit .readTree [(code.arena.size : Int), register])
  exact operand.extend (.emitJump _)

end WithRead

/-- An emitted instruction other than a branch. -/
theorem grows_emit {code : Code} {pending : List (Handle × Level)} {reserved left : List Int}
    {plan : List Purpose} {opcode : Opcode} {operands : List Handle} {purpose : Purpose}
    (plain : opcode.isPlain = true)
    (serves : purpose.Serves code code.instructions.size
      (.of code.instructions.size opcode operands)) :
    Grows ⟨code, pending, reserved, plan⟩
      ⟨code.emit opcode operands, pending, left, plan ++ [purpose]⟩ := by
  refine .one _ purpose (.emit _ _) rfl rfl List.prefix_rfl serves (Opcode.ne_readTree plain) ?_
  intro branches
  cases (Opcode.isBranch_of_isPlain plain).symm.trans branches

/-- **What an act does to the code, the plan and the pending targets.** -/
theorem Act.grows {start stop : Stage} (act : Act start stop) : Grows start stop := by
  cases act with
  | operand operand noTarget noRegister => exact .nothing (.newOperand _) rfl rfl rfl
  | register => exact .nothing .newRegister rfl rfl rfl
  | emit opcode operands purpose plain count none given serves => exact grows_emit plain serves
  | push value argument held delivers => exact grows_emit rfl ⟨rfl, delivers⟩
  | compute opcode before register behind purpose plain count slot waits given serves =>
    exact grows_emit plain serves
  | @load code pending reserved plan field raw first =>
    exact .read _ _ ((code.extends_withRegister first).trans (Code.extends_withRead _ _ _ _)) rfl rfl
      (List.prefix_append _ _) rfl rfl (List.mem_append_right _ (List.mem_singleton_self _))
  | @reload code pending reserved plan field raw register cached =>
    exact .read _ _ (code.extends_withRead _ _ _) rfl rfl (List.prefix_append _ _) rfl rfl
      (List.mem_append_right _ (List.mem_singleton_self _))
  | @branch code pending reserved plan opcode branches =>
    refine .one _ .plain ((Code.Extends.newOperand _).trans (.emit _ _)) rfl rfl
      (List.prefix_append _ _) (Opcode.duty_of_isBranch branches) ?_
      fun _ => List.mem_append_right _ (List.mem_singleton_self _)
    rintro (rfl : opcode = .readTree)
    cases branches
  | resolve resolved opens => exact .resolve resolved rfl rfl rfl opens
  | note interesting references rawReferences =>
    exact .nothing ⟨id, id, Nat.le_refl _, id⟩ rfl rfl rfl

/-- An act emits an instruction for each purpose that it adds to the plan. -/
theorem Act.size (act : Act start stop) : stop.code.instructions.size + start.plan.length =
    start.code.instructions.size + stop.plan.length := by
  cases act.grows with
  | nothing grown instructions plan pending => rw [instructions, plan]
  | one instruction purpose grown instructions plan pending serves differs waits =>
    rw [instructions, plan, Array.size_push, List.length_append, List.length_singleton]
    omega
  | read read guard grown instructions plan pending reads guards waits =>
    rw [instructions, plan, Array.size_push, Array.size_push, List.length_append]
    simp only [List.length_cons, List.length_nil]
    omega
  | resolve resolved plan pending code opens => rw [code, plan, Code.resolve_instructions]

theorem Acts.size (acts : Acts start stop) : stop.code.instructions.size + start.plan.length =
    start.code.instructions.size + stop.plan.length := by
  induction acts with
  | refl => rfl
  | tail _ act ih =>
    have one := act.size
    omega

/-- An act does not look at targets that were pending before. -/
theorem Act.frame {start stop : Stage} (act : Act start stop) (earlier : List (Handle × Level)) :
    Act { start with pending := earlier ++ start.pending }
      { stop with pending := earlier ++ stop.pending } := by
  cases act with
  | operand operand noTarget noRegister => exact .operand operand noTarget noRegister
  | register => exact .register
  | emit opcode operands purpose plain count none given serves =>
    exact .emit opcode operands purpose plain count none given serves
  | push value argument held delivers => exact .push value argument held delivers
  | compute opcode before register behind purpose plain count slot waits given serves =>
    exact .compute opcode before register behind purpose plain count slot waits given serves
  | load field raw first =>
    rw [← List.append_assoc]
    exact .load field raw first
  | reload field raw register cached =>
    rw [← List.append_assoc]
    exact .reload field raw register cached
  | branch opcode branches =>
    rw [← List.append_assoc]
    exact .branch opcode branches
  | resolve resolved opens =>
    rw [← List.append_assoc]
    exact .resolve resolved opens
  | note interesting references rawReferences =>
    exact .note interesting references rawReferences

theorem Acts.frame {start stop : Stage} (acts : Acts start stop)
    (earlier : List (Handle × Level)) :
    Acts { start with pending := earlier ++ start.pending }
      { stop with pending := earlier ++ stop.pending } := by
  induction acts with
  | refl => exact .refl
  | tail _ act ih => exact ih.tail (act.frame earlier)

/-! ### Runs with pending targets of their own -/

namespace Code

/-- Jumps that are pending from a level. -/
def pendingFrom (level : Level) (jumps : List Handle) : List (Handle × Level) :=
  jumps.map fun jump => (jump, level)

theorem map_fst_pendingFrom (level : Level) (jumps : List Handle) :
    (pendingFrom level jumps).map Prod.fst = jumps := by
  unfold pendingFrom
  rw [List.map_map]
  exact List.map_id jumps

theorem pendingFrom_append (level : Level) (jumps others : List Handle) :
    pendingFrom level (jumps ++ others) = pendingFrom level jumps ++ pendingFrom level others :=
  List.map_append

/-- A run of acts behind a plan: it adds to the plan, leaves jumps pending from the level it starts
at, and leaves the registers it has taken waiting for their instruction. -/
def Works (plan : List Purpose) (before : Code) (added : List Purpose) (jumps : List Handle)
    (taken : List Int) (after : Code) : Prop :=
  ∀ reserved, Acts ⟨before, [], reserved, plan⟩
    ⟨after, pendingFrom (Level.ground.run plan) jumps, taken ++ reserved, plan ++ added⟩

namespace Works

variable {plan added more : List Purpose} {before middle code after : Code}
  {jumps others : List Handle} {taken : List Int}

theorem refl (plan : List Purpose) (code : Code) : Works plan code [] [] [] code := by
  intro reserved
  rw [List.append_nil]
  exact .refl

theorem steps (works : Works plan before added jumps taken after) :
    Steps (before, []) (after, jumps) := by
  have made := (works []).steps
  unfold Stage.targets at made
  rw [map_fst_pendingFrom] at made
  exact made

theorem size (works : Works plan before added jumps taken after) :
    before.instructions.size + added.length = after.instructions.size := by
  have sizes := (works []).size
  simp only [List.length_append] at sizes
  omega

/-- Behind a run for the plan of a value, the operand of the value can be handed over. -/
theorem delivers {address : Address} {node : Node} {handle : Handle}
    (works : Works plan before (Node.valuePlan address node) jumps taken after)
    (value : after.ValueOf node before.instructions.size after.instructions.size handle) :
    after.Delivers address node after.instructions.size handle :=
  ⟨before.instructions.size, works.size, value⟩

/-- **One run after another**, if the first one returns to its level. -/
theorem append {later : List Int} (works : Works plan before added jumps taken middle)
    (further : Works (plan ++ added) middle more others later after)
    (returns : (Level.ground.run plan).run added = Level.ground.run plan) :
    Works plan before (added ++ more) (jumps ++ others) (later ++ taken) after := by
  intro reserved
  have framed := (further (taken ++ reserved)).frame (pendingFrom (Level.ground.run plan) jumps)
  simp only [List.append_nil, Level.run_append, returns, List.append_assoc] at framed
  rw [pendingFrom_append, List.append_assoc]
  exact (works reserved).trans framed

/-- One run after another, where no jumps are pending in between. -/
theorem andThen {later : List Int} (works : Works plan before added [] taken middle)
    (further : Works (plan ++ added) middle more [] later after) :
    Works plan before (added ++ more) [] (later ++ taken) after := by
  intro reserved
  have rest := further (taken ++ reserved)
  rw [List.append_assoc] at rest
  rw [List.append_assoc]
  exact (works reserved).trans rest

/-- The jumps of a run are resolved behind it. -/
theorem resolved (works : Works plan before added jumps [] after)
    (opens : (Level.ground.run plan).Opens ((Level.ground.run plan).run added)) :
    Works plan before added [] [] (after.resolve jumps) := by
  intro reserved
  have resolving := @Act.resolve after [] reserved (plan ++ added)
    (pendingFrom (Level.ground.run plan) jumps) (fun target member => by
      obtain ⟨jump, _, rfl⟩ := List.mem_map.mp member
      rw [Level.run_append]
      exact opens)
  rw [map_fst_pendingFrom] at resolving
  exact (works reserved).tail resolving

/-- The jumps of a run that returns to its level are resolved behind it. -/
theorem settled (works : Works plan before added jumps [] after)
    (returns : (Level.ground.run plan).run added = Level.ground.run plan) :
    Works plan before added [] [] (after.resolve jumps) := by
  refine works.resolved ?_
  rw [returns]
  exact .refl _

section Tail

variable (works : Works plan before added jumps taken code)
include works

theorem operand (operand : Operand) (noTarget : operand.isTarget = false)
    (noRegister : operand.isRegister = false) :
    Works plan before added jumps taken (code.newOperand operand).2 :=
  fun reserved => (works reserved).tail (.operand operand noTarget noRegister)

theorem register :
    Works plan before added jumps (code.registers :: taken) code.newRegister.2 :=
  fun reserved => (works reserved).tail .register

theorem note (interesting references rawReferences : List Field) :
    Works plan before added jumps taken { code with interesting, references, rawReferences } :=
  fun reserved => (works reserved).tail (.note interesting references rawReferences)

theorem emit (opcode : Opcode) (operands : List Handle) (purpose : Purpose)
    (plain : opcode.isPlain = true) (count : operands.length = opcode.operandCount)
    (none : opcode.resultSlot? = none) (given : ∀ handle ∈ operands, code.Gives handle)
    (serves : purpose.Serves code code.instructions.size
      (.of code.instructions.size opcode operands)) :
    Works plan before (added ++ [purpose]) jumps taken (code.emit opcode operands) := by
  intro reserved
  rw [← List.append_assoc]
  exact (works reserved).tail (.emit opcode operands purpose plain count none given serves)

theorem push {value : Handle} (argument : Argument) (held : code.HoldsValue value)
    (delivers : code.Delivers (argument.position :: argument.call) argument.value
      code.instructions.size value) :
    Works plan before (added ++ [.push argument]) jumps taken (code.emit .stackPush [value]) := by
  intro reserved
  rw [← List.append_assoc]
  exact (works reserved).tail (.push value argument held delivers)

theorem branch (opcode : Opcode) (branches : opcode.isBranch = true)
    (returns : (Level.ground.run plan).run added = Level.ground.run plan) :
    Works plan before (added ++ [.plain]) (jumps ++ [code.newTarget.1]) taken
      (code.newTarget.2.emit opcode [code.newTarget.1]) := by
  intro reserved
  have branching := (works reserved).tail (.branch opcode branches)
  rw [Level.run_append, returns] at branching
  rw [← List.append_assoc, pendingFrom_append]
  exact branching

end Tail

/-- A result goes to the register made last. -/
theorem compute {number : Int} (works : Works plan before added jumps (number :: taken) code)
    (opcode : Opcode) (first : List Handle) (register : Handle) (behind : List Handle)
    (purpose : Purpose) (plain : opcode.isPlain = true)
    (count : (first ++ register :: behind).length = opcode.operandCount)
    (slot : opcode.resultSlot? = some first.length) (waits : code.Has register (.register number))
    (given : ∀ handle ∈ first ++ behind, code.Gives handle)
    (serves : purpose.Serves code code.instructions.size
      (.of code.instructions.size opcode (first ++ register :: behind))) :
    Works plan before (added ++ [purpose]) jumps taken
      (code.emit opcode (first ++ register :: behind)) := by
  intro reserved
  rw [← List.append_assoc]
  exact (works reserved).tail
    (.compute opcode first register behind purpose plain count slot waits given serves)

end Works

/-- The first plain read of a field. -/
theorem works_load (plan : List Purpose) (code : Code) (field : Field) (raw : Bool)
    (first : code.cachedRegister? field raw = none) :
    Works plan code [.plain, .plain] [((code.withRegister field raw).withRead field raw
        code.newRegister.1).emitJump.1] []
      ((code.withRegister field raw).withRead field raw code.newRegister.1).emitJump.2 :=
  fun _ => .single (.load field raw first)

/-- Another plain read of a field. -/
theorem works_reload (plan : List Purpose) (code : Code) (field : Field) (raw : Bool)
    {register : Handle} (cached : code.cachedRegister? field raw = some register) :
    Works plan code [.plain, .plain] [(code.withRead field raw register).emitJump.1] []
      (code.withRead field raw register).emitJump.2 :=
  fun _ => .single (.reload field raw register cached)

end Code

end DisplayFilter
