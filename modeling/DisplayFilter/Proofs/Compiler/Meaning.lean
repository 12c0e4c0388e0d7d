/-
**Compiled programs mean what their trees mean.**

The program of a tree is run for a packet, from any flag and with nothing stored. It returns with
the answer of the tree in the flag and with the value of the tree in the operand that it returns, if
it returns one. Nothing is left on the stack or in the set. The machine's memory is never lost, so no
instruction was run without the values it needs. All of this holds of plain and of optimized
programs.

* `generated_returns`: the program before optimization.
* `compileTree_meaning`: the program of a tree.
-/

import DisplayFilter.Proofs.Compiler.WellFormed
import DisplayFilter.Proofs.Machine.Optimized
import DisplayFilter.Proofs.Meaning.Truth

namespace DisplayFilter

variable {V : Type} {config : CompileConfig} {root : Node} {code : Code} {registry : Registry}
  {returnValues : Bool}

/-- How a program returns for a packet with the answer and the value of a tree. -/
def Packet.ReturnsMeaning (packet : Packet V) (registry : Registry) (returnValues : Bool)
    (root : Node) (program : Program) (flag : Bool) : Prop :=
  ∃ (store : Store V) (result : Handle),
    packet.machine.Returns program ⟨flag, some .empty⟩
      ⟨root.answer packet registry returnValues, some store⟩ result ∧
    store.stack = [] ∧ store.members = [] ∧
    match root.result? packet registry returnValues with
    | none => result = noOperand
    | some value? =>
      result ≠ noOperand ∧ packet.value? store (program.operand result) = value?

/-- **The program before optimization means what the tree means.** -/
theorem generated_returns (packet : Packet V)
    (made : generated registry returnValues root = .ok code) (flag : Bool) :
    packet.ReturnsMeaning registry returnValues root code.toProgram flag := by
  have decides : Gen.Yields (generate registry returnValues root) .empty
      (fun _ code => ∃ (body : Code) (result : Handle), code = body.emit .halt [result] ∧
        packet.Decides .empty (root.answer packet registry returnValues)
          (Compile.Returned packet (root.result? packet registry returnValues) result) body)
      (fun _ => True) := by
    unfold generate
    refine (Compile.predicate_decides packet root returnValues .empty Code.sound_empty).bind
      (fun _ => id) fun result body run => ?_
    exact ⟨body, result, rfl, run.2⟩
  obtain ⟨body, result, rfl, decided⟩ := (generated_yields decides).1 code made
  have part : body.PartOf (body.emit .halt [result]) :=
    Code.PartOf.of_extends ⟨fun found => found, fun found _ => found⟩ (.emit _ _)
  obtain ⟨store, _, keeps, returned, goes⟩ :=
    decided _ part flag .empty Packet.ready_empty rfl
  refine ⟨store, result, ⟨body.instructions.size, _, goes, Array.getElem?_push_size, rfl, rfl⟩,
    keeps.stack, keeps.members, ?_⟩
  unfold Compile.Returned at returned
  exact returned

/-- Optimized programs return as plain ones do. -/
theorem optimizedCode_returns (packet : Packet V) (wanted : Bool)
    (made : generated registry returnValues root = .ok code) (flag : Bool) :
    packet.ReturnsMeaning registry returnValues root (optimizedCode wanted code).1.toProgram
      flag := by
  have meaning := generated_returns packet made flag
  cases wanted with
  | false => exact meaning
  | true =>
    obtain ⟨store, result, returns, stack, members, returned⟩ := meaning
    obtain ⟨_, last, other, finished⟩ := generated_ok made
    obtain ⟨final, plain, optimized⟩ := Machine.finished_returns finished
      packet.machine_rereadsIdly ⟨flag, some .empty⟩
    obtain ⟨rfl, rfl⟩ := returns.unique plain
    have operand : code.optimize.1.toProgram.operand result = code.toProgram.operand result :=
      finished.operand_optimize finished.result
    refine ⟨store, result, optimized, stack, members, ?_⟩
    show match root.result? packet registry returnValues with
      | none => result = noOperand
      | some value? => result ≠ noOperand ∧
        packet.value? store (code.optimize.1.toProgram.operand result) = value?
    rw [operand]
    exact returned

/-! ### Main result -/

/-- **Compilation preserves meaning.** -/
theorem compileTree_meaning (packet : Packet V) (config : CompileConfig) (root : Node) {code : Code}
    {events : List CompileEvent} (compiled : compileTree config root = .ok (code, events))
    (flag : Bool) :
    packet.ReturnsMeaning config.registry config.returnValues root code.toProgram flag := by
  obtain ⟨_, original, made, rfl⟩ := compileTree_ok_iff.mp ⟨events, compiled⟩
  exact optimizedCode_returns packet config.optimize made flag

/-- A packet with a single field, the one with number zero, which is worth 80. -/
def singleField : Packet Int where
  readTree field _ _ := if field.id = 0 then some 80 else none
  readReference _ _ _ := none
  presence field _ := field.id == 0
  valueString _ _ := none
  slice _ value := value
  length _ := 8
  negate value := -value
  arithmetic opcode left right := if opcode = .add then left + right else left - right
  call _ _ := none
  relation opcode left right := if opcode = .anyEq then left == right else left != right
  membership _ _ _ := false
  notAllZero value := value != 0
  constant _ := 0
  pattern _ := 0

/-- Whether a field differs from itself or from another field. -/
def differences : Node :=
  let field (id : Nat) : Node :=
    .field ⟨some ⟨id, .empty, .empty, .empty⟩, none, false, false⟩
  .test .or .baseline (.test .not .baseline (.test .anyEq .baseline (field 0) (field 0)) .missing)
    (.test .not .baseline (.test .anyEq .baseline (field 0) (field 1)) .missing)

/-- The second comparison is skipped for want of its field, so its negation is true. -/
theorem differences_meaning :
    ∃ code events, compileTree ⟨.identity, true, false, false⟩ differences = .ok (code, events) ∧
      ∃ store, singleField.machine.Returns code.toProgram ⟨true, some .empty⟩ ⟨true, some store⟩
        noOperand ∧ store.stack = [] ∧ store.members = [] := by
  obtain ⟨⟨code, events⟩, compiled⟩ := (@compiles_iff ⟨.identity, true, false, false⟩
    differences).mpr ⟨.inr rfl, rfl⟩
  obtain ⟨store, result, returns, stack, members, rfl⟩ := compileTree_meaning singleField
    ⟨.identity, true, false, false⟩ differences compiled true
  exact ⟨code, events, compiled, store, returns, stack, members⟩

end DisplayFilter
