/-
**Code for truth values answers them.**

The code for a truth value goes on behind itself with the answer in the flag. If a value that is
tested is absent, the test is skipped, and the flag is still down from the jump that skipped it.

* `Packet.Decides`: code that leaves an answer in the flag.
* `Packet.Adds`: code that adds the members of a set.
* `Compile.predicate_decides`: the code for the truth value of any node.
-/

import DisplayFilter.Proofs.Meaning.Values

namespace DisplayFilter

namespace Packet

open Code
open Relation (ReflTransGen)

variable {V : Type} {packet : Packet V} {before code after final : Code} {jumps : List Handle}
  {present : Bool} {held : Code → Store V → Prop} {opcode : Opcode} {operands : List Handle}

/-- The code between two moments of its generation decides a test, if the set is empty before. -/
def Decides (packet : Packet V) (code : Code) (answer : Bool) (held : Code → Store V → Prop)
    (after : Code) : Prop :=
  ∀ (final : Code), after.PartOf final →
    ∀ (flag : Bool) (store : Store V), packet.Ready code store → store.members = [] →
    ∃ store' : Store V, packet.Ready after store' ∧ store.Keeps store' ∧ held final store' ∧
      packet.Goes final (code.instructions.size, flag, store)
        (after.instructions.size, answer, store')

theorem Decides.imp {answer : Bool} {held' : Code → Store V → Prop}
    (decides : packet.Decides code answer held after)
    (weaker : ∀ final store, held final store → held' final store) :
    packet.Decides code answer held' after := by
  intro final part flag store ready empty
  obtain ⟨store', ready', keeps, known, goes⟩ := decides final part flag store ready empty
  exact ⟨store', ready', keeps, weaker final store' known, goes⟩

/-- The code between two moments of its generation adds members to the set. -/
def Adds (packet : Packet V) (code : Code) (added : List (Member V)) (after : Code) : Prop :=
  ∀ (final : Code), after.PartOf final →
    ∀ (flag : Bool) (store : Store V), packet.Ready code store →
    ∃ (flag' : Bool) (store' : Store V), packet.Ready after store' ∧ store.Grows store' ∧
      store'.stack = store.stack ∧ store'.members = store.members ++ added ∧
      packet.Goes final (code.instructions.size, flag, store)
        (after.instructions.size, flag', store')

/-! ### Instructions that are skipped without their values -/

/-- **What is absent skips the code up to its resolved jumps.** -/
theorem Prepares.skips (prepares : packet.Prepares before present jumps held code)
    (steps : Steps (before, []) (after, jumps)) (grown : code.Extends after)
    (part : (after.resolve jumps).PartOf final) (flag : Bool) {store : Store V}
    (ready : packet.Ready before store) :
    ∃ store' : Store V, packet.Ready code store' ∧ store.Keeps store' ∧ held final store' ∧
      packet.Goes final (before.instructions.size, flag, store)
        (if present then code.instructions.size else (after.resolve jumps).instructions.size,
          flagBehind present jumps flag, store') := by
  have waiting := steps.pending_unresolved.2
  rw [resolve_instructions]
  exact prepares final after.instructions.size ((part.of_resolve waiting).of_extends grown)
    (fun _ member => part.target_of_resolve waiting member) flag store ready

/-- **A test is made of what was prepared, if that is there.** -/
theorem Prepares.test {α : Type} {found? : Option α} {test : α → Bool}
    (prepares : packet.Prepares before found?.isSome jumps held code) (sound : before.Sound [])
    (steps : Steps (before, []) (code, jumps))
    (emits : Step (code, jumps) (code.emit opcode operands, jumps))
    (runs : ∀ (final : Code) (flag : Bool) (store : Store V) (found : α), found? = some found →
      held final store →
      packet.run opcode (final.operand (operands[0]?.getD noOperand))
        (final.operand (operands[1]?.getD noOperand)) (final.operand (operands[2]?.getD noOperand))
        flag store = some (test found, store)) :
    packet.Decides before (found?.any test) held ((code.emit opcode operands).resolve jumps) := by
  intro final part flag store ready empty
  have tested : Steps (before, []) (code.emit opcode operands, jumps) := steps.tail emits
  obtain ⟨store', ready', keeps, known, goes⟩ :=
    prepares.skips tested (.emit _ _) part flag ready
  refine ⟨store', ready'.extend (steps.sound sound)
    ((ReflTransGen.refl.tail emits).tail (@Step.resolve _ [] _)), keeps, known, ?_⟩
  cases found? with
  | none => exact goes
  | some found =>
    rw [resolve_instructions]
    exact goes.emit rfl (part.of_resolve tested.pending_unresolved.2)
      (runs final _ store' found rfl known)

/-- **A member is made of what was prepared, if that is there.** -/
theorem Prepares.add {α : Type} {found? : Option α} {member : α → Member V}
    (prepares : packet.Prepares before found?.isSome jumps held code) (sound : before.Sound [])
    (steps : Steps (before, []) (code, jumps))
    (emits : Step (code, jumps) (code.emit opcode operands, jumps))
    (runs : ∀ (final : Code) (flag : Bool) (store : Store V) (found : α), found? = some found →
      held final store →
      packet.run opcode (final.operand (operands[0]?.getD noOperand))
        (final.operand (operands[1]?.getD noOperand)) (final.operand (operands[2]?.getD noOperand))
        flag store = some (flag, { store with members := store.members ++ [member found] })) :
    packet.Adds before (found?.toList.map member) ((code.emit opcode operands).resolve jumps) := by
  intro final part flag store ready
  have added : Steps (before, []) (code.emit opcode operands, jumps) := steps.tail emits
  obtain ⟨store', ready', keeps, known, goes⟩ := prepares.skips added (.emit _ _) part flag ready
  have later : packet.Ready ((code.emit opcode operands).resolve jumps) store' :=
    ready'.extend (steps.sound sound)
      ((ReflTransGen.refl.tail emits).tail (@Step.resolve _ [] _))
  cases found? with
  | none =>
    refine ⟨_, store', later, keeps.grows, keeps.stack, ?_, goes⟩
    rw [keeps.members]
    exact (List.append_nil _).symm
  | some found =>
    refine ⟨flagBehind true jumps flag,
      { store' with members := store'.members ++ [member found] }, later.congr rfl, keeps.grows,
      keeps.stack, ?_, ?_⟩
    · rw [keeps.members]
      rfl
    · rw [resolve_instructions]
      exact goes.emit rfl (part.of_resolve added.pending_unresolved.2)
        (runs final _ store' found rfl known)

/-- Members are added one after the other. -/
theorem Adds.trans {added more : List (Member V)} (first : packet.Adds before added code)
    (second : packet.Adds code more after) (steps : Steps (code, []) (after, [])) :
    packet.Adds before (added ++ more) after := by
  intro final part flag store ready
  obtain ⟨flag₁, store₁, ready₁, grows₁, stack₁, members₁, goes₁⟩ :=
    first final (part.of_steps steps) flag store ready
  obtain ⟨flag₂, store₂, ready₂, grows₂, stack₂, members₂, goes₂⟩ :=
    second final part flag₁ store₁ ready₁
  refine ⟨flag₂, store₂, ready₂, grows₁.trans grows₂, stack₂.trans stack₁, ?_, goes₁.trans goes₂⟩
  rw [members₂, members₁, List.append_assoc]

theorem adds_nil : packet.Adds code [] code := by
  intro final part flag store ready
  exact ⟨flag, store, ready, (Store.Keeps.refl store).grows, rfl, (List.append_nil _).symm,
    .refl _ _⟩

/-! ### Tests put together -/

/-- An instruction that answers by itself. -/
theorem decides_emit {prep : Code} {answer : Bool} (sound : code.Sound [])
    (steps : Steps (code, []) (prep, []))
    (size : prep.instructions.size = code.instructions.size)
    (emits : Step (prep, []) (prep.emit opcode operands, []))
    (runs : ∀ (final : Code) (flag : Bool) (store : Store V), prep.PartOf final →
      packet.run opcode (final.operand (operands[0]?.getD noOperand))
        (final.operand (operands[1]?.getD noOperand)) (final.operand (operands[2]?.getD noOperand))
        flag store = some (answer, store))
    (notes : Step (prep.emit opcode operands, []) (after, []))
    (same : after.instructions = (prep.emit opcode operands).instructions) :
    packet.Decides code answer (fun _ _ => True) after := by
  intro final part flag store ready empty
  have emitted : (prep.emit opcode operands).PartOf final :=
    part.of_steps (ReflTransGen.refl.tail notes)
  refine ⟨store, ready.extend sound ((steps.tail emits).tail notes), .refl store, trivial, ?_⟩
  rw [same, ← size]
  exact (Goes.refl final _).emit rfl emitted (runs final flag store (emitted.of_extends (.emit _ _)))

/-- **A value is tested for membership behind the members of the set**, and the set is emptied. If
the value is absent, all of that is skipped. -/
theorem Computes.belongs {value : Compile.Value} {value? : Option V} {added : List (Member V)}
    {cleared : Code} (computes : packet.Computes before value? value code)
    (adds : packet.Adds code added after) (sound : before.Sound [])
    (steps : Steps (before, []) (code, value.2)) (more : Steps (code, []) (after, []))
    (clears : cleared = (after.emit opcode [value.1]).emit .setClear [])
    (emits : Steps (after, []) (cleared, []))
    (runs : ∀ (final : Code) (flag : Bool) (store : Store V) (found : V), value? = some found →
      packet.Holds value.1 value? final store →
      packet.run opcode (final.operand value.1) (final.operand noOperand) (final.operand noOperand)
        flag store = some (packet.membership opcode found store.members, store)) :
    packet.Decides before (value?.any fun found => packet.membership opcode found added)
      (fun _ _ => True) (cleared.resolve value.2) := by
  intro final part flag store ready empty
  have tested : Steps (code, []) (cleared, []) := more.trans emits
  have all : Steps (before, []) (cleared, value.2) := by
    have both := steps.append tested
    rwa [List.append_nil] at both
  have whole : cleared.PartOf final := part.of_resolve all.pending_unresolved.2
  obtain ⟨store₁, ready₁, keeps₁, held₁, goes₁⟩ :=
    Prepares.skips computes all tested.extends.1 part flag ready
  have soundCode := (steps.sound sound).clear
  have resolves : Steps (cleared, value.2) (cleared.resolve value.2, []) :=
    ReflTransGen.refl.tail (@Step.resolve _ [] _)
  cases value? with
  | none =>
    exact ⟨store₁, (ready₁.extend soundCode tested).extend (all.sound sound) resolves, keeps₁,
      trivial, goes₁⟩
  | some found =>
    obtain ⟨flag₂, store₂, ready₂, grows₂, stack₂, members₂, goes₂⟩ :=
      adds final (whole.of_steps emits) _ store₁ ready₁
    rw [keeps₁.members, empty, List.nil_append] at members₂
    have known : packet.Holds value.1 (some found) final store₂ := value?_of_grows grows₂ held₁
    have answered := runs final flag₂ store₂ found rfl known
    rw [members₂] at answered
    have last : packet.Goes final (before.instructions.size, flag, store)
        (cleared.instructions.size, packet.membership opcode found added,
          { store₂ with members := [] }) := by
      rw [clears] at whole ⊢
      exact ((goes₁.trans goes₂).emit rfl (whole.of_extends (.emit _ _)) answered).emit rfl whole rfl
    refine ⟨{ store₂ with members := [] }, ?_, ⟨keeps₁.grows.trans grows₂, ?_, empty.symm⟩, trivial,
      ?_⟩
    · have later : packet.Ready cleared { store₂ with members := [] } :=
        (ready₂.extend (Steps.sound more soundCode) emits).congr rfl
      exact later.extend (all.sound sound) resolves
    · exact stack₂.trans keeps₁.stack
    · rw [resolve_instructions]
      exact last

/-- **The length of a value is tested**, if the value is there, and the value is kept. -/
theorem Computes.measures {value : Compile.Value} {value? : Option V} {measured tested : Code}
    (computes : packet.Computes before value? value code) (sound : before.Sound [])
    (steps : Steps (before, []) (code, value.2))
    (measures : measured = code.newRegister.2.emit .length [value.1, code.newRegister.1])
    (tests : tested = measured.emit .notAllZero [code.newRegister.1])
    (emits : Steps (code.newRegister.2, []) (measured, []))
    (last : Step (measured, []) (tested, [])) :
    packet.Decides before (value?.any fun found => packet.notAllZero (packet.length found))
      (packet.Holds value.1 value?) (tested.resolve value.2) := by
  intro final part flag store ready empty
  have more : Steps (code, []) (tested, []) :=
    ((ReflTransGen.refl.tail .register).trans emits).tail last
  have all : Steps (before, []) (tested, value.2) := by
    have both := steps.append more
    rwa [List.append_nil] at both
  have whole : tested.PartOf final := part.of_resolve all.pending_unresolved.2
  obtain ⟨store₁, ready₁, keeps₁, held₁, goes₁⟩ :=
    Prepares.skips computes all more.extends.1 part flag ready
  have soundCode := (steps.sound sound).clear
  have resolves : Steps (tested, value.2) (tested.resolve value.2, []) :=
    ReflTransGen.refl.tail (@Step.resolve _ [] _)
  cases value? with
  | none =>
    exact ⟨store₁, (ready₁.extend soundCode more).extend (all.sound sound) resolves, keeps₁, held₁,
      goes₁⟩
  | some found =>
    have measuredPart : measured.PartOf final := whole.of_steps (ReflTransGen.refl.tail last)
    have register := operand_newRegister emits measuredPart
    have keeps₂ : store₁.Keeps (store₁.set code.registers (some (packet.length found))) :=
      (Store.Keeps.refl store₁).set (.inl (ready₁.fresh _ (Int.le_refl _)))
    have length : packet.Goes final (before.instructions.size, flag, store)
        (measured.instructions.size, flagBehind true value.2 flag,
          store₁.set code.registers (some (packet.length found))) := by
      rw [measures] at measuredPart ⊢
      refine goes₁.emit rfl measuredPart ?_
      show packet.run .length (final.operand value.1) (final.operand code.newRegister.1) _ _ _ = _
      rw [register]
      exact run_length held₁
    refine ⟨store₁.set code.registers (some (packet.length found)), ?_, keeps₁.trans keeps₂,
      value?_of_grows keeps₂.grows held₁, ?_⟩
    · exact (ready₁.newRegister soundCode (emits.tail last) _).extend (all.sound sound) resolves
    · rw [resolve_instructions]
      rw [tests] at whole ⊢
      refine length.emit rfl whole (run_notAllZero ?_)
      show packet.value? _ (final.operand code.newRegister.1) = _
      rw [register]
      exact Store.set_registers_self _ _ _

/-- The answer of a test is inverted. -/
theorem Decides.not {answer : Bool} (decides : packet.Decides before answer held code)
    (sound : code.Sound []) : packet.Decides before (!answer) held (code.emit .not []) := by
  intro final part flag store ready empty
  obtain ⟨store', ready', keeps, known, goes⟩ :=
    decides final (part.of_extends (.emit _ _)) flag store ready empty
  have emits : Steps (code, []) (code.emit .not [], []) :=
    ReflTransGen.refl.tail (.emit .not [] rfl rfl (List.forall_mem_nil _))
  exact ⟨store', ready'.extend sound emits, keeps, known, goes.emit rfl part rfl⟩

/-- **A test is skipped if the test before it settles the answer.** -/
theorem Decides.shortCircuit {left right : Bool} {branch : Opcode} {branched : Code}
    {held' : Code → Store V → Prop} (first : packet.Decides before left held code)
    (second : packet.Decides branched right held' after) (branches : branch.isBranch = true)
    (sound : before.Sound []) (steps : Steps (before, []) (code, []))
    (jumps : branched = code.newTarget.2.emit branch [code.newTarget.1])
    (more : Steps (branched, []) (after, [])) :
    packet.Decides before (if branch.takes left then left else right) (fun _ _ => True)
      (after.resolve [code.newTarget.1]) := by
  intro final part flag store ready empty
  have jump : Steps (code, []) (branched, [code.newTarget.1]) := by
    rw [jumps]
    exact ReflTransGen.refl.tail (.branch branch branches)
  have rest : Steps (code, []) (after, [code.newTarget.1]) := jump.append more
  have waiting := rest.pending_unresolved.2
  have whole : after.PartOf final := part.of_resolve waiting
  have branchPart := whole.of_steps more
  rw [jumps] at branchPart
  obtain ⟨store₁, ready₁, keeps₁, _, goes₁⟩ := first final (whole.of_steps rest) flag store ready empty
  have soundCode : code.Sound [] := Steps.sound steps sound
  rw [resolve_instructions]
  by_cases takes : branch.takes left = true
  · rw [if_pos takes]
    exact ⟨store₁, ready₁.extend soundCode rest.resolved, keeps₁, trivial, goes₁.trans
      (goes_jump branchPart takes (part.target_of_resolve waiting List.mem_cons_self))⟩
  · rw [if_neg takes]
    have size : branched.instructions.size = code.instructions.size + 1 := by
      rw [jumps]
      exact Array.size_push _
    obtain ⟨store₂, ready₂, keeps₂, _, goes₂⟩ := second final whole left store₁
      (ready₁.extend soundCode jump) (keeps₁.members.trans empty)
    rw [size] at goes₂
    have resolves : Steps (after, [code.newTarget.1]) (after.resolve [code.newTarget.1], []) :=
      ReflTransGen.refl.tail (@Step.resolve _ [] _)
    exact ⟨store₂, ready₂.extend (rest.sound soundCode) resolves, keeps₁.trans keeps₂, trivial,
      goes₁.trans ((goes_next branchPart branches (Bool.eq_false_iff.mpr takes)).trans goes₂)⟩

end Packet

namespace Compile

open Gen Code Packet
open Relation (ReflTransGen)

variable {V : Type} {packet : Packet V} {registry : Registry} {code : Code}

/-! ### Relations and sets -/

/-- The opcode of a relation compares the values of its operands. -/
theorem run_relation {operator : Operator} {quantifier : Quantifier} {opcode : Opcode}
    (relates : operator.isRelation = true) (chosen : selectOpcode operator quantifier = .ok opcode)
    {first second third : Operand} {flag : Bool} {store : Store V} {left right : V}
    (held : packet.value? store first = some left) (also : packet.value? store second = some right) :
    packet.run opcode first second third flag store =
      some (packet.relation opcode left right, store) := by
  have runs : packet.run opcode first second third flag store =
      (packet.value? store first).bind fun left => (packet.value? store second).bind fun right =>
        some (packet.relation opcode left right, store) := by
    cases operator <;> cases relates <;> cases quantifier <;> cases chosen <;> rfl
  rw [runs, held, also]
  rfl

/-- The opcode of a membership test compares the value of its operand with the members. -/
theorem run_membership {operator : Operator} {quantifier : Quantifier} {opcode : Opcode}
    (tests : operator.isMembership = true) (chosen : selectOpcode operator quantifier = .ok opcode)
    {first second third : Operand} {flag : Bool} {store : Store V} {value : V}
    (held : packet.value? store first = some value) :
    packet.run opcode first second third flag store =
      some (packet.membership opcode value store.members, store) := by
  have runs : packet.run opcode first second third flag store =
      (packet.value? store first).bind fun value =>
        some (packet.membership opcode value store.members, store) := by
    cases operator <;> cases tests <;> cases quantifier <;> cases chosen <;> rfl
  rw [runs, held]
  rfl

/-- A step that ends in a result leaves code that decides a test. -/
def DecidesTest {α : Type} (packet : Packet V) (answer : Bool) (held : α → Code → Store V → Prop)
    (step : Gen α) (code : Code) : Prop :=
  Yields step code
    (fun result after => Steps (code, []) (after, []) ∧
      packet.Decides code answer (held result) after)
    (fun _ => True)

/-- The run that leaves a test is known already. -/
theorem RunsTest.decides {α : Type} {accepted answer : Bool} {step : Gen α}
    {result : α → Code → Prop} {held : α → Code → Store V → Prop}
    (runs : RunsTest accepted step code result)
    (decides : Yields step code (fun result after => packet.Decides code answer (held result) after)
      (fun _ => True)) : DecidesTest packet answer held step code :=
  (runs.and decides).imp (fun _ _ both => ⟨both.1.2.1, both.2⟩) fun _ _ => trivial

theorem relation_decides {operator : Operator} {quantifier : Quantifier} {opcode : Opcode}
    (left right : Node) (relates : operator.isRelation = true)
    (chosen : selectOpcode operator quantifier = .ok opcode) (sound : code.Sound []) :
    DecidesTest packet (Node.related packet registry opcode left right) (fun _ _ _ => True)
      (relation registry operator quantifier left right) code := by
  refine (relation_runs quantifier left right relates sound.numbered.caches).decides ?_
  unfold relation
  refine (entity_computes packet left code sound).bind (fun _ => id) fun value after run => ?_
  obtain ⟨steps, held, computed⟩ := run
  have middle := (steps.sound sound).clear
  refine (entity_computes packet right after middle).bind (fun _ => id) fun other last more => ?_
  obtain ⟨steps', held', computed'⟩ := more
  refine yields_lift (fun opcode' found => ?_) fun _ _ => trivial
  cases chosen.symm.trans found
  obtain ⟨plain, count⟩ := selectOpcode_relation relates chosen
  have emits : Step (last, value.2 ++ other.2)
      (last.emit opcode [value.1, other.1], value.2 ++ other.2) := by
    refine .emit_two plain count (steps'.extends.1.holdsValue held) held'
  have both := steps.append steps'
  rw [yields_emit, Steps.yields_fixup_last (both.tail emits)]
  have answer : Node.related packet registry opcode left right =
      ((left.value? packet registry).bind fun leftValue =>
        (right.value? packet registry).map fun rightValue => (leftValue, rightValue)).any
          fun values => packet.relation opcode values.1 values.2 := by
    unfold Node.related
    cases left.value? packet registry <;> cases right.value? packet registry <;> rfl
  rw [answer]
  refine (Prepares.test (computed.both computed' middle steps' rfl) sound both emits
    fun final flag store found given known => ?_).imp fun _ _ _ => trivial
  obtain ⟨leftHeld, rightHeld⟩ := known found given
  exact run_relation relates chosen leftHeld rightHeld

/-- **The code for a set adds its members**, but for those that are absent. -/
theorem setElements_adds (packet : Packet V) (elements : List Element) (code : Code)
    (sound : code.Sound []) :
    Yields (setElements registry elements) code
      (fun _ after => Steps (code, []) (after, []) ∧
        packet.Adds code (Node.members packet registry elements) after)
      (fun _ => True) := by
  match elements with
  | [] => exact ⟨.refl, adds_nil⟩
  | .single low :: rest =>
    unfold setElements Node.members
    refine (entity_computes packet low code sound).bind (fun _ => id) fun value after run => ?_
    obtain ⟨steps, held, computed⟩ := run
    have emits : Step (after, value.2) (after.emit .setAdd [value.1], value.2) := by
      refine .emit_one rfl rfl held
    have added : Steps (code, []) (after.emit .setAdd [value.1], value.2) := steps.tail emits
    simp only [yields_emit, added.yields_fixup]
    refine (setElements_adds packet rest _ (Steps.sound added.resolved sound)).imp
      (fun _ _ more => ?_) fun _ => id
    refine ⟨added.resolved.trans more.1, Adds.trans ?_ more.2 more.1⟩
    exact Prepares.add computed sound steps emits
      fun final flag store found given known => run_setAdd (known.trans given)
  | .between low high :: rest =>
    unfold setElements Node.members
    refine (entity_computes packet low code sound).bind (fun _ => id) fun value after run => ?_
    obtain ⟨steps, held, computed⟩ := run
    have middle := (steps.sound sound).clear
    refine (entity_computes packet high after middle).bind (fun _ => id) fun other last run' => ?_
    obtain ⟨steps', held', computed'⟩ := run'
    have both := steps.append steps'
    have emits : Step (last, value.2 ++ other.2)
        (last.emit .setAddRange [value.1, other.1], value.2 ++ other.2) := by
      refine .emit_two rfl rfl (steps'.extends.1.holdsValue held) held'
    have added : Steps (code, [])
        (last.emit .setAddRange [value.1, other.1], value.2 ++ other.2) := both.tail emits
    simp only [yields_emit, added.yields_fixup]
    refine (setElements_adds packet rest _ (Steps.sound added.resolved sound)).imp
      (fun _ _ more => ?_) fun _ => id
    refine ⟨added.resolved.trans more.1, Adds.trans ?_ more.2 more.1⟩
    have member : ((low.value? packet registry).bind fun lowValue =>
        (high.value? packet registry).map fun highValue =>
          Member.between lowValue highValue).toList =
        ((low.value? packet registry).bind fun lowValue =>
          (high.value? packet registry).map fun highValue => (lowValue, highValue)).toList.map
            fun values => Member.between values.1 values.2 := by
      cases low.value? packet registry <;> cases high.value? packet registry <;> rfl
    rw [member]
    refine Prepares.add (computed.both computed' middle steps' rfl) sound both emits
      fun final flag store found given known => ?_
    obtain ⟨lowHeld, highHeld⟩ := known found given
    exact run_setAddRange lowHeld highHeld

theorem membership_decides {operator : Operator} {quantifier : Quantifier} {opcode : Opcode}
    (left : Node) (elements : List Element) (tests : operator.isMembership = true)
    (chosen : selectOpcode operator quantifier = .ok opcode) (sound : code.Sound []) :
    DecidesTest packet (Node.belongs packet registry opcode left elements) (fun _ _ _ => True)
      (membership registry operator quantifier left (.set elements)) code := by
  refine (membership_runs quantifier left elements tests sound.numbered.caches).decides ?_
  unfold membership
  refine yields_lift (fun opcode' found => ?_) fun _ _ => trivial
  cases chosen.symm.trans found
  obtain ⟨plain, count⟩ := selectOpcode_membership tests chosen
  refine (entity_computes packet left code sound).bind (fun _ => id) fun value after run => ?_
  obtain ⟨steps, held, computed⟩ := run
  refine (setElements_adds packet elements after (steps.sound sound).clear).bind (fun _ => id)
    fun _ last more => ?_
  obtain ⟨steps', adds⟩ := more
  have emits : Steps (last, []) ((last.emit opcode [value.1]).emit .setClear [], []) := by
    refine (ReflTransGen.refl.tail (.emit_one plain count (steps'.extends.1.holdsValue held))).tail
      (.emit .setClear [] rfl rfl (List.forall_mem_nil _))
  have tested : Steps (code, []) ((last.emit opcode [value.1]).emit .setClear [], value.2) := by
    have both := steps.append (steps'.trans emits)
    rwa [List.append_nil] at both
  rw [yields_emit, yields_emit, tested.yields_fixup_last]
  exact computed.belongs adds sound steps steps' rfl emits
    fun final flag store found given known => run_membership tests chosen (known.trans given)

/-! ### Single values -/

theorem existence_decides (packet : Packet V) (read : FieldRead) (sound : code.Sound []) :
    DecidesTest packet (Node.holds packet registry (.field read)) (fun _ _ _ => True)
      (existence registry read) code := by
  refine (existence_runs read).decides ?_
  unfold existence Node.holds
  split
  · trivial
  · rename_i written given
    have start : Steps (code, []) ((code.newOperand (.field (registry.canonical written)
        false)).2, []) := ReflTransGen.refl.tail (.operand (.field _ _) rfl rfl)
    rw [given, Option.any_some]
    simp only [yields_newOperand]
    split
    · rename_i whole
      simp only [yields_emit, yields_modify_last]
      rw [List.isEmpty_iff.mp whole]
      refine decides_emit sound start rfl (.emit_one rfl rfl (.newOperand_self rfl))
        (fun final flag store part => ?_) (.note _ _ _) rfl
      have first : final.operand code.arena.size = .field (registry.canonical written) false :=
        part.operand_eq Array.getElem?_push_size rfl
      show packet.run .checkExists (final.operand code.arena.size) _ _ flag store = _
      rw [first]
      rfl
    · simp only [yields_newOperand, yields_emit, yields_modify_last]
      refine decides_emit sound (start.tail (.operand (.range _) rfl rfl)) rfl
        (.emit_two rfl rfl ((HoldsValue.newOperand_self rfl).newOperand _) (.newOperand_self rfl))
        (fun final flag store part => ?_) (.note _ _ _) rfl
      have first : final.operand code.arena.size = .field (registry.canonical written) false :=
        part.operand_eq (getElem?_push_of_some Array.getElem?_push_size _) rfl
      have second : final.operand (code.newOperand (.field (registry.canonical written)
          false)).2.arena.size = .range (windows read.range?) :=
        part.operand_eq Array.getElem?_push_size rfl
      show packet.run .checkExistsRange (final.operand code.arena.size) (final.operand
        (code.newOperand (.field (registry.canonical written) false)).2.arena.size) _ flag store = _
      rw [first, second]
      rfl

/-- What is returned by a test: an operand with the given value, or nothing. -/
def Returned (packet : Packet V) (result? : Option (Option V)) (result : Handle) (final : Code)
    (store : Store V) : Prop :=
  match result? with
  | none => result = noOperand
  | some value? => result ≠ noOperand ∧ packet.Holds result value? final store

theorem HoldsValue.ne_noOperand {handle : Handle} (held : code.HoldsValue handle) :
    handle ≠ noOperand := by
  obtain ⟨position, _, rfl, _⟩ := held
  show (position : Int) ≠ -1
  omega

/-- The truth value of a computed value, which is returned. -/
theorem notZero_decides (packet : Packet V) (node : Node) (sound : code.Sound []) :
    DecidesTest packet ((node.value? packet registry).any packet.notAllZero)
      (Returned packet (some (node.value? packet registry))) (notZero registry node) code := by
  refine (notZero_runs node sound.numbered.caches).decides ?_
  unfold notZero
  refine (entity_computes packet node code sound).bind (fun _ => id) fun value after run => ?_
  obtain ⟨steps, held, computed⟩ := run
  have emits : Step (after, value.2) (after.emit .notAllZero [value.1], value.2) := by
    refine .emit_one rfl rfl held
  have tested : Steps (code, []) (after.emit .notAllZero [value.1], value.2) := steps.tail emits
  simp only [yields_emit, tested.yields_fixup, yields_pure]
  refine (Prepares.test computed sound steps emits fun final flag store found given known =>
    run_notAllZero (known.trans given)).imp fun _ _ known => ⟨HoldsValue.ne_noOperand held, known⟩

/-- The truth value of a slice, which is returned. -/
theorem notEmpty_decides (packet : Packet V) (node : Node) (sound : code.Sound []) :
    DecidesTest packet
      ((node.value? packet registry).any fun value => packet.notAllZero (packet.length value))
      (Returned packet (some (node.value? packet registry))) (notEmpty registry node) code := by
  refine (notEmpty_runs node sound.numbered.caches).decides ?_
  unfold notEmpty
  refine (entity_computes packet node code sound).bind (fun _ => id) fun value after run => ?_
  obtain ⟨steps, held, computed⟩ := run
  have measures : Step (after.newRegister.2, []) (after.newRegister.2.emit .length [value.1,
      after.newRegister.1], []) := by
    refine .emit_two rfl rfl held.newRegister .newRegister_self
  have tests : Step (after.newRegister.2.emit .length [value.1, after.newRegister.1], [])
      ((after.newRegister.2.emit .length [value.1, after.newRegister.1]).emit .notAllZero
        [after.newRegister.1], []) := by
    refine .emit_one rfl rfl HoldsValue.newRegister_self
  have tested : Steps (code, []) ((after.newRegister.2.emit .length [value.1,
      after.newRegister.1]).emit .notAllZero [after.newRegister.1], value.2) := by
    have both := steps.append (((ReflTransGen.refl.tail .register).tail measures).tail tests)
    rwa [List.append_nil] at both
  simp only [yields_newRegister, yields_emit, tested.yields_fixup, yields_pure]
  exact (computed.measures sound steps rfl rfl (ReflTransGen.refl.tail measures) tests).imp
    fun _ _ known => ⟨HoldsValue.ne_noOperand held, known⟩

/-- The read of a field may be absent. -/
theorem readField_jumps (read : FieldRead) :
    Yields (readField registry read) code (fun value _ => value.2 ≠ []) (fun _ => True) := by
  have table : ∀ (wanted : Bool) (field : Field) (register jump : Handle) (code : Code),
      Yields (withValueString wanted field (register, [jump])) code (fun value _ => value.2 ≠ [])
        (fun _ => True) := by
    intro wanted field register jump code
    cases wanted <;> exact List.cons_ne_nil _ _
  unfold readField
  split
  · trivial
  · dsimp only
    split
    · refine (plainRegister_runs _ _).bind (fun _ => False.elim) fun register middle _ => ?_
      exact table _ _ _ _ _
    · exact table _ _ _ _ _

/-- A field that is loaded is returned. -/
theorem load_decides (packet : Packet V) (read : FieldRead) (sound : code.Sound []) :
    DecidesTest packet (Node.value? packet registry (.field read)).isSome
      (Returned packet (some (Node.value? packet registry (.field read))))
      (predicate registry true (.field read)) code := by
  refine (field_runs read true sound.numbered.caches).decides ?_
  unfold predicate
  simp only [if_true]
  have computes := @readField_computes V packet registry code read sound
  refine (((readField_runs read sound.numbered.caches).computes computes).and
    (readField_jumps read)).bind (fun _ _ => trivial) fun value after run => ?_
  obtain ⟨⟨steps, held, computed⟩, jumps⟩ := run
  simp only [steps.yields_fixup, yields_pure]
  intro final part flag store ready empty
  obtain ⟨store', ready', keeps, known, goes⟩ := computed.resolved sound steps part flag ready
  refine ⟨store', ready', keeps, ⟨HoldsValue.ne_noOperand held, known⟩, ?_⟩
  rw [flagBehind_of_ne_nil _ jumps] at goes
  exact goes

/-! ### All truth values -/

/-- Nothing is left to say of a step that is refused. -/
theorem RunsTest.refused {α : Type} {answer : Bool} {step : Gen α} {result : α → Code → Prop}
    {held : α → Code → Store V → Prop} (runs : RunsTest false step code result) :
    DecidesTest packet answer held step code :=
  runs.imp (fun _ _ run => Bool.noConfusion run.1) fun _ _ => trivial

/-- A test that only leaves its answer in the flag returns no operand. -/
theorem DecidesTest.unit {answer : Bool} {step : Gen Unit}
    (decides : DecidesTest packet answer (fun _ _ _ => True) step code) :
    DecidesTest packet answer (Returned packet none) (do step; return noOperand) code := by
  refine decides.bind (fun _ => id) fun _ after run => ?_
  exact ⟨run.1, run.2.imp fun _ _ _ => rfl⟩

/-- The truth value of a comparison. -/
theorem holds_comparison {operator : Operator} {quantifier : Quantifier} {opcode : Opcode}
    {left right : Node} (logical : operator.isLogical = false)
    (chosen : selectOpcode operator quantifier = .ok opcode) :
    Node.holds packet registry (.test operator quantifier left right) =
      match right with
      | .set elements => Node.belongs packet registry opcode left elements
      | _ => Node.related packet registry opcode left right := by
  cases operator <;> first
    | unfold Node.holds
      rw [chosen]
      cases right <;> rfl
    | cases logical

/-- A relation or a membership test. -/
theorem comparison_decides (packet : Packet V) {operator : Operator} (quantifier : Quantifier)
    (left right : Node) (returnValues : Bool) (logical : operator.isLogical = false)
    (sound : code.Sound []) :
    DecidesTest packet (Node.holds packet registry (.test operator quantifier left right))
      (Returned packet none) (predicate registry returnValues (.test operator quantifier left right))
      code := by
  have runs := @comparison_runs registry code operator quantifier left right returnValues
    sound.numbered.caches logical
  cases accepted : Node.isPredicate (.test operator quantifier left right) with
  | false =>
    rw [accepted] at runs
    exact runs.refused
  | true =>
    obtain relates | tests | ⟨relates, tests⟩ := operator.comparison_cases
    · rw [isPredicate_relation _ _ _ relates, Bool.and_eq_true, Bool.and_eq_true] at accepted
      cases chosen : selectOpcode operator quantifier with
      | error violation =>
        rw [chosen] at accepted
        cases accepted.1.1
      | ok opcode =>
        rw [predicate_relation _ _ _ _ relates, holds_comparison logical chosen]
        split
        · cases accepted.2
        · exact (relation_decides left right relates chosen sound).unit
    · by_cases set : ∃ elements, right = .set elements
      · obtain ⟨elements, rfl⟩ := set
        rw [isPredicate_membership _ _ tests, Bool.and_eq_true, Bool.and_eq_true] at accepted
        cases chosen : selectOpcode operator quantifier with
        | error violation =>
          rw [chosen] at accepted
          cases accepted.1.1
        | ok opcode =>
          rw [predicate_membership _ _ _ _ tests, holds_comparison logical chosen]
          exact (membership_decides left elements tests chosen sound).unit
      · rw [isPredicate_notASet _ _ _ tests fun elements same => set ⟨elements, same⟩] at accepted
        cases accepted
    · rw [isPredicate_notATest _ _ _ logical relates tests] at accepted
      cases accepted

theorem answer_false (node : Node) :
    node.answer packet registry false = node.holds packet registry := by
  cases node <;> rfl

/-- Two truth values of which the second one may be skipped. -/
theorem shortCircuit_decides {branch : Opcode} {left right : Node}
    (branches : branch.isBranch = true) (sound : code.Sound [])
    (leftDecides : DecidesTest packet (left.holds packet registry)
      (Returned packet (left.result? packet registry false)) (predicate registry false left) code)
    (rightDecides : ∀ code : Code, code.Sound [] → DecidesTest packet (right.holds packet registry)
      (Returned packet (right.result? packet registry false)) (predicate registry false right)
      code) :
    DecidesTest packet (if branch.takes (left.holds packet registry) then left.holds packet registry
        else right.holds packet registry) (Returned packet none) (do
      let _ ← predicate registry false left
      let target ← Gen.newTarget
      Gen.emit branch [target]
      let _ ← predicate registry false right
      Gen.fixup [target]
      return noOperand) code := by
  refine leftDecides.bind (fun _ => id) fun _ after run => ?_
  obtain ⟨steps, first⟩ := run
  simp only [yields_newTarget, yields_emit]
  have branched : Steps (code, [])
      (after.newTarget.2.emit branch [after.newTarget.1], [after.newTarget.1]) :=
    steps.tail (.branch branch branches)
  refine (rightDecides _ (branched.sound sound).clear).bind (fun _ => id) fun _ last more => ?_
  obtain ⟨steps', second⟩ := more
  have both : Steps (code, []) (last, [after.newTarget.1]) := branched.append steps'
  rw [both.yields_fixup]
  exact ⟨both.resolved, (first.shortCircuit second branches sound steps rfl steps').imp
    fun _ _ _ => rfl⟩

/-- **The code for a truth value decides it.** -/
theorem predicate_decides (packet : Packet V) (node : Node) (returnValues : Bool) (code : Code)
    (sound : code.Sound []) :
    DecidesTest packet (node.answer packet registry returnValues)
      (Returned packet (node.result? packet registry returnValues))
      (predicate registry returnValues node) code := by
  match node with
  | .missing => trivial
  | .test operator quantifier left right =>
    have leftDecides := predicate_decides packet left false code sound
    rw [answer_false] at leftDecides
    have rightDecides : ∀ code : Code, code.Sound [] →
        DecidesTest packet (right.holds packet registry)
          (Returned packet (right.result? packet registry false)) (predicate registry false right)
          code := by
      intro code sound
      have decides := predicate_decides packet right false code sound
      rwa [answer_false] at decides
    by_cases logical : operator.isLogical = true
    · obtain rfl | rfl | rfl := Operator.eq_of_isLogical logical
      · unfold predicate
        refine leftDecides.bind (fun _ => id) fun _ after run => ?_
        obtain ⟨steps, decides⟩ := run
        simp only [yields_emit, yields_pure]
        exact ⟨steps.tail (.emit .not [] rfl rfl (List.forall_mem_nil _)),
          (decides.not (Steps.sound steps sound)).imp fun _ _ _ => rfl⟩
      · have answer : Node.answer packet registry returnValues (.test .and quantifier left right) =
            if Opcode.ifFalseGoto.takes (left.holds packet registry) then left.holds packet registry
            else right.holds packet registry := by
          show (left.holds packet registry && right.holds packet registry) = _
          cases left.holds packet registry <;> rfl
        unfold predicate
        rw [answer]
        exact shortCircuit_decides rfl sound leftDecides rightDecides
      · have answer : Node.answer packet registry returnValues (.test .or quantifier left right) =
            if Opcode.ifTrueGoto.takes (left.holds packet registry) then left.holds packet registry
            else right.holds packet registry := by
          show (left.holds packet registry || right.holds packet registry) = _
          cases left.holds packet registry <;> rfl
        unfold predicate
        rw [answer]
        exact shortCircuit_decides rfl sound leftDecides rightDecides
    · rw [Bool.not_eq_true] at logical
      exact comparison_decides packet quantifier left right returnValues logical sound
  | .field read => 
    cases returnValues with
    | false => 
      unfold predicate
      exact (existence_decides packet read sound).unit
    | true => exact load_decides packet read sound
  | .arithmetic operator left right => exact notZero_decides packet (.arithmetic operator left right) sound
  | .call definition? args => exact notZero_decides packet (.call definition? args) sound
  | .slice inner range? => exact notEmpty_decides packet (.slice inner range?) sound
  | .reference read => trivial
  | .value constant => trivial
  | .pattern pattern? => trivial
  | .set elements => trivial

end Compile

end DisplayFilter
