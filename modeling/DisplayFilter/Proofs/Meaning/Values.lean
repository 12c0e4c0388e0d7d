/-
**Code for values computes them.**

* `Compile.readField_computes`, `Compile.readReference_computes`: reads, with their tables.
* `Compile.entity_computes`: the code for the value of any node.
* `Compile.arguments_pushes`: the code for the arguments of a call.
-/

import DisplayFilter.Proofs.Generation.Trace
import DisplayFilter.Proofs.Meaning.Denotation
import DisplayFilter.Proofs.Meaning.Fragments

namespace DisplayFilter

namespace Compile

open Gen Code Packet
open Relation (ReflTransGen)

variable {V : Type} {packet : Packet V} {registry : Registry} {before code : Code}
  {value : Value} {value? : Option V}

/-! ### Reads -/

/-- The value-string table is applied to a value that was read, if that is wanted. -/
theorem withValueString_computes (wanted : Bool) (field : Field) (sound : before.Sound [])
    (steps : Steps (before, []) (code, value.2)) (held : code.HoldsValue value.1)
    (computes : packet.Computes before value? value code) :
    Yields (withValueString wanted field value) code
      (fun result after => packet.Computes before
        (if wanted then value?.bind (packet.valueString field) else value?) result after)
      (fun _ => True) := by
  unfold withValueString
  cases wanted with
  | false => exact computes
  | true =>
    unfold valueString
    simp only [if_true, bind_assoc, yields_newRegister, yields_newOperand, yields_emit,
      yields_emitJump, pure_bind, yields_pure]
    have register : (code.newRegister.2.newOperand (.field field false)).2.HoldsValue
        code.arena.size := HoldsValue.newRegister_self.newOperand _
    refine computes.bind (steps.sound sound).clear
      (ReflTransGen.refl.tail (.operand (.field field false) rfl rfl)) rfl
      (fun final flag store found part known => ?_)
      (.emit_three rfl rfl (.newOperand_self rfl) (held.newRegister.newOperand _) register)
    have first : final.operand (code.newRegister.2.arena.size : Nat) = .field field false :=
      part.operand_eq Array.getElem?_push_size rfl
    have third := operand_newRegister
      (ReflTransGen.refl.tail (.operand (.field field false) rfl rfl)) part
    show packet.run .valueString (final.operand (code.newRegister.2.arena.size : Nat))
      (final.operand value.1) (final.operand code.newRegister.1) flag store = _
    rw [first, third]
    exact run_valueString field known

/-- What a read of a known field gives. -/
theorem lookup?_eq {read : FieldRead} {written : Field} (given : read.field? = some written)
    (wanted : Bool) (find : Field → Bool → ByteRange → Option V) :
    read.lookup? packet registry wanted find =
      if wanted then (find (registry.canonical written) read.raw (windows read.range?)).bind
        (packet.valueString written)
      else find (registry.canonical written) read.raw (windows read.range?) := by
  unfold FieldRead.lookup?
  rw [given]
  cases wanted with
  | true => rfl
  | false => simp

/-- What follows the read of a field applies the value-string table if it is wanted. -/
theorem afterRead_computes (wanted : Bool) (written : Field) {noted : Code} {register : Handle}
    (sound : before.Sound []) (steps : Steps (before, []) (code, []))
    (held : code.HoldsValue register)
    (note : Step (code.emitJump.2, [code.emitJump.1]) (noted, [code.emitJump.1]))
    (computes : packet.Computes before value? (register, [code.emitJump.1]) noted) :
    Yields (withValueString wanted written (register, [code.emitJump.1])) noted
      (fun result after => packet.Computes before
        (if wanted then value?.bind (packet.valueString written) else value?) result after)
      (fun _ => True) := by
  have jump : Steps (code, []) (noted, [code.emitJump.1]) :=
    (ReflTransGen.refl.tail (.branch .ifFalseGoto rfl)).tail note
  exact withValueString_computes wanted written sound (steps.append jump)
    (jump.extends.1.holdsValue held) computes

/-- A plain read loads the register of the field. -/
theorem plainRead_computes {middle : Code} {field : Field} {raw : Bool} {position : Nat}
    (sound : code.Sound []) (steps : Steps (code, []) (middle, []))
    (same : middle.instructions = code.instructions)
    (cached : middle.cachedRegister? field raw = some (position : Int)) :
    packet.Computes code (packet.readTree field raw [])
      ((position : Int), [((middle.newOperand (.field field raw)).2.emit .readTree
        [(middle.arena.size : Int), (position : Int)]).emitJump.1])
      ((middle.newOperand (.field field raw)).2.emit .readTree
        [(middle.arena.size : Int), (position : Int)]).emitJump.2 := by
  have later : middle.Sound [] := Steps.sound steps sound
  obtain ⟨place, number, equal, register⟩ := later.numbered.caches _ _ _ cached
  cases Int.ofNat.inj equal
  have loads : middle.Loads field raw number := ⟨position, cached, register⟩
  have held : (middle.newOperand (.field field raw)).2.arena[position]? =
      some (.register number) := getElem?_push_of_some register _
  refine computes_load (congrArg Array.size same) held (fun final flag store part => ?_)
    (fun store ready => (ready.extend sound steps).loaded _ _ _ loads) fun store ready => ?_
  · have first : final.operand (middle.arena.size : Nat) = .field field raw :=
      part.operand_eq Array.getElem?_push_size rfl
    have second : final.operand (position : Nat) = .register number := part.operand_eq held rfl
    show packet.run .readTree (final.operand (middle.arena.size : Nat))
      (final.operand (position : Nat)) _ flag store = _
    rw [first, second]
    rfl
  · have emits := (ReflTransGen.refl.tail (.operand (.field field raw) rfl rfl)).tail
      (@Step.read (middle.newOperand (.field field raw)).2 [] field raw middle.arena.size position
        Array.getElem?_push_size cached)
    exact ((ready.extend sound steps).load later.numbered loads).extend later
      (emits.tail (.branch .ifFalseGoto rfl))

/-- A read of some bytes loads a new register. -/
theorem rangedRead_computes {opcode : Opcode} {field : Field} {raw : Bool} {range : ByteRange}
    (plain : opcode.isPlain = true) (count : opcode.operandCount = 3) (sound : code.Sound [])
    (loads : ∀ (flag : Bool) (store : Store V) (register : Int),
      packet.run opcode (.field field raw) (.register register) (.range range) flag store =
        some (store.load register value?)) :
    packet.Computes code value? (code.newRegister.1,
      [((((code.newRegister.2.newOperand (.field field raw)).2.newOperand (.range range)).2.emit
        opcode [(code.newRegister.2.arena.size : Int), code.newRegister.1,
          ((code.newRegister.2.newOperand (.field field raw)).2.arena.size : Int)])).emitJump.1])
      ((((code.newRegister.2.newOperand (.field field raw)).2.newOperand (.range range)).2.emit
        opcode [(code.newRegister.2.arena.size : Int), code.newRegister.1,
          ((code.newRegister.2.newOperand (.field field raw)).2.arena.size : Int)])).emitJump.2 := by
  have steps : Steps (code.newRegister.2, [])
      (((code.newRegister.2.newOperand (.field field raw)).2.newOperand (.range range)).2, []) :=
    (ReflTransGen.refl.tail (.operand (.field _ _) rfl rfl)).tail (.operand (.range _) rfl rfl)
  refine computes_newRegister sound steps rfl (fun final flag store part => ?_)
    (.emit_three plain count ((HoldsValue.newOperand_self rfl).newOperand _)
      ((HoldsValue.newRegister_self.newOperand _).newOperand _) (.newOperand_self rfl))
  have first : final.operand (code.newRegister.2.arena.size : Nat) = .field field raw :=
    part.operand_eq (getElem?_push_of_some Array.getElem?_push_size _) rfl
  have third : final.operand ((code.newRegister.2.newOperand (.field field raw)).2.arena.size : Nat)
      = .range range := part.operand_eq Array.getElem?_push_size rfl
  show packet.run opcode (final.operand (code.newRegister.2.arena.size : Nat))
    (final.operand code.newRegister.1) (final.operand
      ((code.newRegister.2.newOperand (.field field raw)).2.arena.size : Nat)) flag store = _
  rw [first, operand_newRegister steps part, third]
  exact loads flag store _

/-- **Reading a field computes its value.** -/
theorem readField_computes (read : FieldRead) (sound : code.Sound []) :
    Yields (readField registry read) code
      (fun result after => packet.Computes code
        (read.lookup? packet registry read.valueString packet.readTree) result after)
      (fun _ => True) := by
  unfold readField
  split
  · trivial
  · rename_i written given
    dsimp only
    split
    · rename_i whole
      rw [lookup?_eq given, List.isEmpty_iff.mp whole]
      refine (plainRegister_runs _ _).bind (fun _ => False.elim) fun register middle run => ?_
      obtain ⟨steps, cached, same⟩ := run
      simp only [yields_newOperand, yields_emit, yields_pure_bind, yields_emitJump, yields_modify]
      have held := (Steps.sound steps sound).numbered.caches.holdsValue cached
      obtain ⟨position, _, rfl, _⟩ := held
      have emits : Steps (middle, []) ((middle.newOperand (.field (registry.canonical written)
          read.raw)).2.emit .readTree [(middle.arena.size : Int), (position : Int)], []) :=
        (ReflTransGen.refl.tail (.operand (.field _ _) rfl rfl)).tail
          (.read _ _ _ _ Array.getElem?_push_size cached)
      refine afterRead_computes _ _ sound (steps.trans emits) (emits.extends.1.holdsValue ?_)
        (.note _ _ _) ((plainRead_computes sound steps same cached).note rfl rfl rfl rfl)
      exact (Steps.sound steps sound).numbered.caches.holdsValue cached
    · simp only [yields_newRegister, yields_newOperand, yields_emit, yields_pure_bind,
        yields_emitJump, yields_modify]
      rw [lookup?_eq given]
      have register : (code.newRegister.2.newOperand (.field (registry.canonical written)
          read.raw)).2.HoldsValue code.arena.size := HoldsValue.newRegister_self.newOperand _
      refine afterRead_computes _ _ sound ?_ (register.newOperand _) (.note _ _ _)
        ((rangedRead_computes rfl rfl sound fun _ _ _ => rfl).note rfl rfl rfl rfl)
      refine (((ReflTransGen.refl.tail .register).tail (.operand (.field _ _) rfl rfl)).tail
        (.operand (.range _) rfl rfl)).tail (.emit_three rfl rfl
          ((HoldsValue.newOperand_self rfl).newOperand _) (register.newOperand _)
          (.newOperand_self rfl))

/-- Notes about references do not matter either. -/
theorem addReference_computes {after : Code} (field : Field) (raw : Bool)
    (computes : packet.Computes before value? value after) :
    packet.Computes before value? value
      ((after.addReference field raw).markInteresting registry field) := by
  cases raw <;> exact computes.note rfl rfl rfl rfl

/-- **Reading a field of an earlier packet computes its value.** -/
theorem readReference_computes (read : FieldRead) (sound : code.Sound []) :
    Yields (readReference registry read) code
      (fun result after => packet.Computes code
        (read.lookup? packet registry read.valueString packet.readReference) result after)
      (fun _ => True) := by
  unfold readReference
  split
  · trivial
  · rename_i written given
    have register : (code.newRegister.2.newOperand (.field (registry.canonical written)
        read.raw)).2.HoldsValue code.arena.size := HoldsValue.newRegister_self.newOperand _
    have steps : Steps (code.newRegister.2, []) ((code.newRegister.2.newOperand (.field
        (registry.canonical written) read.raw)).2, []) :=
      ReflTransGen.refl.tail (.operand (.field _ _) rfl rfl)
    have start := (ReflTransGen.refl.tail (@Step.register code [])).trans steps
    simp only [yields_newRegister, yields_newOperand]
    split
    · rename_i whole
      simp only [yields_emit, yields_emitJump, yields_modify]
      rw [lookup?_eq given, List.isEmpty_iff.mp whole]
      have emits := @Step.emit_two (code.newRegister.2.newOperand (.field (registry.canonical
        written) read.raw)).2 [] .readReference _ _ rfl rfl (.newOperand_self rfl) register
      refine afterRead_computes _ _ sound (start.tail emits) register (note_reference _ _ _)
        (addReference_computes _ _ (computes_newRegister sound steps rfl (fun final flag store part => ?_)
          emits))
      have first : final.operand (code.newRegister.2.arena.size : Nat) =
          .field (registry.canonical written) read.raw :=
        part.operand_eq Array.getElem?_push_size rfl
      show packet.run .readReference (final.operand (code.newRegister.2.arena.size : Nat))
        (final.operand code.newRegister.1) _ flag store = _
      rw [first, operand_newRegister steps part]
      rfl
    · simp only [yields_newOperand, yields_emit, yields_emitJump, yields_modify]
      rw [lookup?_eq given]
      exact afterRead_computes _ _ sound ((start.tail (.operand (.range _) rfl rfl)).tail
        (.emit_three rfl rfl ((HoldsValue.newOperand_self rfl).newOperand _)
          (register.newOperand _) (.newOperand_self rfl))) (register.newOperand _)
        (note_reference _ _ _) (addReference_computes _ _ (rangedRead_computes rfl rfl sound
          fun _ _ _ => rfl))

/-! ### Values made from other values -/

/-- A step that ends in a result leaves a value that its code computes. -/
def ComputesValue (packet : Packet V) (value? : Option V) (step : Gen Value) (code : Code) : Prop :=
  Yields step code
    (fun value after => Steps (code, []) (after, value.2) ∧ after.HoldsValue value.1 ∧
      packet.Computes code value? value after)
    (fun _ => True)

/-- The run that leaves a value is known already. -/
theorem RunsValue.computes {accepted : Bool} {step : Gen Value} (runs : RunsValue accepted step code)
    (computes : Yields step code (fun value after => packet.Computes code value? value after)
      (fun _ => True)) : ComputesValue packet value? step code :=
  (runs.and computes).imp (fun _ _ both => ⟨both.1.2.1, both.1.2.2, both.2⟩) fun _ _ => trivial

/-- A table applied to what a read gave. -/
theorem withTable_computes {read : FieldRead} {reading : Gen Value}
    {find : Field → Bool → ByteRange → Option V} (sound : code.Sound [])
    (computes : ComputesValue packet (read.lookup? packet registry read.valueString find) reading
      code) :
    Yields (do withTable read (← reading)) code
      (fun result after =>
        packet.Computes code (read.lookup? packet registry true find) result after)
      (fun _ => True) := by
  refine computes.bind (fun _ => id) fun value after run => ?_
  obtain ⟨steps, held, computed⟩ := run
  unfold withTable
  split
  · rename_i absent
    have same : read.lookup? packet registry true find =
        read.lookup? packet registry read.valueString find := by
      simp [FieldRead.lookup?, absent]
    rw [same]
    exact computed
  · rename_i written given
    have table := withValueString_computes (!read.valueString) written sound steps held computed
    rw [lookup?_eq given] at table ⊢
    cases wanted : read.valueString with
    | true =>
      rw [wanted] at table
      exact table
    | false =>
      rw [wanted] at table
      exact table

/-- **A value is made from another one by an instruction with two operands.** -/
theorem unary_computes {opcode : Opcode} {change : V → V} (plain : opcode.isPlain = true)
    (count : opcode.operandCount = 2) (sound : code.Sound []) (held : code.HoldsValue value.1)
    (runs : ∀ {first third : Operand} {flag : Bool} {store : Store V} {register : Int} {found : V},
      packet.value? store first = some found →
      packet.run opcode first (.register register) third flag store =
        some (flag, store.set register (some (change found))))
    (computes : packet.Computes before value? value code) :
    packet.Computes before (value?.map change) (code.newRegister.1, value.2)
      (code.newRegister.2.emit opcode [value.1, code.newRegister.1]) := by
  refine Prepares.map computes sound .refl rfl (fun final flag store found part given known => ?_)
    (.emit_two plain count held.newRegister .newRegister_self)
  show packet.run opcode (final.operand value.1) (final.operand code.newRegister.1) _ flag store = _
  rw [operand_newRegister .refl part]
  exact runs (known.trans given)

theorem slice_computes {inner : Node} (range? : Option ByteRange) (sound : code.Sound [])
    (computes : ComputesValue packet (inner.value? packet registry) (entity registry inner) code) :
    Yields (entity registry (.slice inner range?)) code
      (fun result after => packet.Computes code
        (Node.value? packet registry (.slice inner range?)) result after)
      (fun _ => True) := by
  unfold entity Node.value?
  dsimp only
  split
  · trivial
  · refine computes.bind (fun _ => id) fun value after run => ?_
    obtain ⟨steps, held, computed⟩ := run
    simp only [yields_newRegister, yields_newOperand, yields_emit, yields_pure]
    have bytes : Steps (after.newRegister.2, [])
        ((after.newRegister.2.newOperand (.range (windows range?))).2, []) :=
      ReflTransGen.refl.tail (.operand (.range _) rfl rfl)
    refine Prepares.map computed (steps.sound sound).clear bytes rfl
      (fun final flag store found part given known => ?_) (.emit_three rfl rfl
        (held.newRegister.newOperand _) (HoldsValue.newRegister_self.newOperand _)
        (.newOperand_self rfl))
    have third : final.operand (after.newRegister.2.arena.size : Nat) =
        .range (windows range?) := part.operand_eq Array.getElem?_push_size rfl
    show packet.run .slice (final.operand value.1) (final.operand after.newRegister.1)
      (final.operand (after.newRegister.2.arena.size : Nat)) flag store = _
    rw [operand_newRegister bytes part, third]
    exact run_slice _ (known.trans given)

/-- The length of a value. -/
theorem length_computes {argument : Node} {definition : FunctionDef}
    (named : definition.name = "len") (sound : code.Sound [])
    (computes : ComputesValue packet (argument.value? packet registry) (entity registry argument)
      code) :
    Yields (entity registry (.call (some definition) [argument])) code
      (fun result after => packet.Computes code
        (Node.value? packet registry (.call (some definition) [argument])) result after)
      (fun _ => True) := by
  unfold entity Node.value?
  simp only [named, if_true]
  refine computes.bind (fun _ => id) fun value after run => ?_
  obtain ⟨steps, held, computed⟩ := run
  simp only [yields_newRegister, yields_emit, yields_pure]
  exact unary_computes rfl rfl (steps.sound sound).clear held run_length computed

/-- The value-string table of a field. -/
theorem vals_computes {definition : FunctionDef} (args : List Node)
    (named : definition.name = "vals") (sound : code.Sound []) :
    Yields (entity registry (.call (some definition) args)) code
      (fun result after => packet.Computes code
        (Node.value? packet registry (.call (some definition) args)) result after)
      (fun _ => True) := by
  unfold entity Node.value?
  simp only [named, if_neg (show ¬ "vals" = "len" by decide), if_true]
  split
  · exact withTable_computes sound
      ((readField_runs _ sound.numbered.caches).computes (readField_computes _ sound))
  · exact withTable_computes sound
      ((readReference_runs _).computes (readReference_computes _ sound))
  · trivial
  · trivial

theorem arithmetic_computes (operator : Operator) {left right : Node} (sound : code.Sound [])
    (leftComputes : ComputesValue packet (left.value? packet registry) (entity registry left) code)
    (rightComputes : ∀ code : Code, code.Sound [] →
      ComputesValue packet (right.value? packet registry) (entity registry right) code) :
    Yields (entity registry (.arithmetic operator left right)) code
      (fun result after => packet.Computes code
        (Node.value? packet registry (.arithmetic operator left right)) result after)
      (fun _ => True) := by
  unfold entity Node.value?
  cases chosen : operator.arithmeticOpcode? with
  | none => trivial
  | some opcode =>
    obtain ⟨plain, count⟩ := arithmeticOpcode?_plain chosen
    refine leftComputes.bind (fun _ => id) fun value after run => ?_
    obtain ⟨steps, held, computed⟩ := run
    have middle := (steps.sound sound).clear
    dsimp only
    split
    · rename_i negates
      subst negates
      cases chosen
      split
      · trivial
      · simp only [yields_newRegister, yields_emit, yields_pure]
        exact unary_computes rfl rfl middle held run_negate computed
    · rename_i binary
      rw [if_neg binary] at count
      refine (rightComputes after middle).bind (fun _ => id) fun other last more => ?_
      obtain ⟨steps', held', computed'⟩ := more
      have sound' := (steps'.sound middle).clear
      simp only [yields_newRegister, yields_emit, yields_pure]
      have emits : Step (last.newRegister.2, []) (last.newRegister.2.emit opcode
          [value.1, other.1, last.newRegister.1], []) :=
        .emit_three plain count (steps'.extends.1.holdsValue held).newRegister held'.newRegister
          .newRegister_self
      have pair : ((left.value? packet registry).bind fun leftValue =>
          (right.value? packet registry).map fun rightValue =>
            packet.arithmetic opcode leftValue rightValue) =
          ((left.value? packet registry).bind fun leftValue =>
            (right.value? packet registry).map fun rightValue => (leftValue, rightValue)).map
              fun values => packet.arithmetic opcode values.1 values.2 := by
        simp [Option.map_bind, Function.comp_def]
      rw [pair]
      refine (computed.both computed' middle steps' rfl).map sound' .refl rfl
        (fun final flag store found part given known => ?_) emits
      obtain ⟨leftHeld, rightHeld⟩ := known found given
      show packet.run opcode (final.operand value.1) (final.operand other.1)
        (final.operand last.newRegister.1) flag store = _
      rw [operand_newRegister .refl part]
      exact run_arithmetic chosen binary leftHeld rightHeld

/-! ### Calls -/

/-- **An argument is pushed behind its resolved jumps**, whether it is there or not. -/
theorem argument_pushes {argument : Node} {rest : List Node} (sound : code.Sound [])
    (computes : ComputesValue packet (argument.value? packet registry) (entity registry argument)
      code)
    (restPushes : ∀ code : Code, code.Sound [] →
      Yields (arguments registry rest) code
        (fun _ after => Steps (code, []) (after, []) ∧
          packet.Pushes code (Node.values packet registry rest) after)
        (fun _ => True)) :
    Yields (arguments registry (argument :: rest)) code
      (fun _ after => Steps (code, []) (after, []) ∧
        packet.Pushes code (Node.values packet registry (argument :: rest)) after)
      (fun _ => True) := by
  unfold arguments Node.values
  refine computes.bind (fun _ => id) fun value after run => ?_
  obtain ⟨steps, held, computed⟩ := run
  simp only [steps.yields_fixup, yields_emit]
  have pushes : Step (after.resolve value.2, [])
      ((after.resolve value.2).emit .stackPush [value.1], []) := by
    refine .emit_one rfl rfl (held.resolve value.2)
  have pushed := steps.resolved.tail pushes
  refine (restPushes _ (Steps.sound pushed sound)).imp (fun _ last more => ?_) fun _ => id
  refine ⟨pushed.trans more.1, fun final part flag store ready => ?_⟩
  have emitted := part.of_steps more.1
  have resolved := emitted.of_extends (.emit _ _)
  obtain ⟨store₁, ready₁, keeps₁, held₁, goes₁⟩ :=
    computed.resolved sound steps resolved flag ready
  have ready₂ : packet.Ready ((after.resolve value.2).emit .stackPush [value.1])
      { store₁ with stack := argument.value? packet registry :: store₁.stack } :=
    (ready₁.extend (Steps.sound steps.resolved sound) (ReflTransGen.refl.tail pushes)).congr rfl
  obtain ⟨flag₃, store₃, ready₃, grows₃, members₃, stack₃, goes₃⟩ := more.2 final part _ _ ready₂
  refine ⟨flag₃, store₃, ready₃, keeps₁.grows.trans grows₃, members₃.trans keeps₁.members, ?_,
    (goes₁.emit rfl emitted (run_stackPush held₁)).trans goes₃⟩
  rw [stack₃, keeps₁.stack]
  simp

theorem length_values (args : List Node) :
    (Node.values packet registry args).length = args.length := by
  induction args with
  | nil => rfl
  | cons argument rest ih => exact congrArg Nat.succ ih

/-- A call through the argument stack. -/
theorem call_computes {definition : FunctionDef} (args : List Node)
    (notLen : definition.name ≠ "len") (notVals : definition.name ≠ "vals") (sound : code.Sound [])
    (pushes : ∀ code : Code, code.Sound [] →
      Yields (arguments registry args) code
        (fun _ after => Steps (code, []) (after, []) ∧
          packet.Pushes code (Node.values packet registry args) after)
        (fun _ => True)) :
    Yields (entity registry (.call (some definition) args)) code
      (fun result after => packet.Computes code
        (Node.value? packet registry (.call (some definition) args)) result after)
      (fun _ => True) := by
  unfold entity Node.value?
  simp only [notLen, notVals, if_false, yields_newOperand, yields_newRegister]
  have start : Steps (code, []) ((code.newOperand (.function definition.name)).2, []) :=
    ReflTransGen.refl.tail (.operand (.function _) rfl rfl)
  have named : (code.newOperand (.function definition.name)).2.Sound [] := Steps.sound start sound
  refine (pushes _ (Step.sound (@Step.register _ []) named)).bind (fun _ => id) fun _ after run => ?_
  obtain ⟨steps, pushed⟩ := run
  simp only [yields_newOperand, yields_emit, yields_emitJump, yields_pure]
  have function : after.HoldsValue code.arena.size :=
    steps.extends.1.holdsValue (HoldsValue.newOperand_self rfl).newRegister
  have register : after.HoldsValue (code.newOperand (.function definition.name)).2.newRegister.1 :=
    steps.extends.1.holdsValue HoldsValue.newRegister_self
  exact (pushed.call named steps Array.getElem?_push_size (length_values args) rfl rfl
    ((((ReflTransGen.refl.tail (.operand (.count _) rfl rfl)).tail (.emit_three rfl rfl
      (function.newOperand _) (register.newOperand _) (.newOperand_self rfl))).tail
      (.operand (.count _) rfl rfl)).tail
      (.emit_one rfl rfl (.newOperand_self rfl)))).earlier sound start rfl

/-! ### All values -/

mutual

/-- **The code for a value computes it.** -/
theorem entity_computes (packet : Packet V) (node : Node) (code : Code) (sound : code.Sound []) :
    ComputesValue packet (node.value? packet registry) (entity registry node) code := by
  refine (entity_runs node code sound.numbered.caches).computes ?_
  match node with
  | .missing => trivial
  | .field read =>
    unfold entity Node.value?
    exact readField_computes read sound
  | .reference read =>
    unfold entity Node.value?
    exact readReference_computes read sound
  | .value constant =>
    unfold entity
    exact computes_operand sound (.constant _) rfl rfl fun _ => rfl
  | .pattern none => trivial
  | .pattern (some pattern) =>
    unfold entity
    exact computes_operand sound (.pattern _) rfl rfl fun _ => rfl
  | .slice inner range? => exact slice_computes range? sound (entity_computes packet inner code sound)
  | .call none args => trivial
  | .call (some definition) args =>
    by_cases len : definition.name = "len"
    · match args with
      | [] =>
        rw [entity_length len (by simp)]
        trivial
      | [argument] => exact length_computes len sound (entity_computes packet argument code sound)
      | _ :: _ :: _ =>
        rw [entity_length len (by simp)]
        trivial
    by_cases vals : definition.name = "vals"
    · exact vals_computes args vals sound
    · exact call_computes args len vals sound (arguments_pushes packet args)
  | .arithmetic operator left right =>
    exact arithmetic_computes operator sound (entity_computes packet left code sound)
      (entity_computes packet right)
  | .test operator quantifier left right => trivial
  | .set elements => trivial

/-- The code for arguments pushes them. -/
theorem arguments_pushes (packet : Packet V) (args : List Node) (code : Code) (sound : code.Sound []) :
    Yields (arguments registry args) code
      (fun _ after => Steps (code, []) (after, []) ∧
        packet.Pushes code (Node.values packet registry args) after)
      (fun _ => True) := by
  match args with
  | [] => exact ⟨.refl, fun final _ flag store ready =>
      ⟨flag, store, ready, (Store.Keeps.refl store).grows, rfl, rfl, .refl _ _⟩⟩
  | argument :: rest =>
    exact argument_pushes sound (entity_computes packet argument code sound) (arguments_pushes packet rest)

end

end Compile

end DisplayFilter
