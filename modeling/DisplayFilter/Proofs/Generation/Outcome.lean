/-
**Outcomes of code generation.**

A step of code generation ends in a result with new code or breaks off with a violation.
`Gen.Yields step code post broken` says of a step started in `code` that the first way of ending
satisfies `post` and the second one `broken`. The rules below follow the way steps are put together,
so that a function of the generator is described by describing its parts.

* `Gen.Yields.bind`: one step after another.
* `Gen.Yields.imp`: weaker conditions.
* `Gen.yields_emit` and its like: parts that cannot fail are carried out.
-/

import DisplayFilter.Code

namespace DisplayFilter.Gen

variable {α β : Type} {code : Code} {step : Gen α} {next : α → Gen β}
  {post : α → Code → Prop} {after : β → Code → Prop} {broken : Violation → Prop}

/-- How a step of code generation may end when it starts in the given code. -/
def Yields (step : Gen α) (code : Code) (post : α → Code → Prop) (broken : Violation → Prop) :
    Prop :=
  match step code with
  | .ok (result, code') => post result code'
  | .error violation => broken violation

namespace Yields

/-- **One step after another.** If the first one breaks off, so does the whole. -/
theorem bind {stopped : Violation → Prop} (first : Yields step code post stopped)
    (early : ∀ violation, stopped violation → broken violation)
    (rest : ∀ result code', post result code' → Yields (next result) code' after broken) :
    Yields (step >>= next) code after broken := by
  unfold Yields at first
  show match (step >>= next) code with
    | .ok (result, code') => after result code'
    | .error violation => broken violation
  simp only [Bind.bind, StateT.bind, Except.bind]
  cases ended : step code with
  | error violation =>
    rw [ended] at first
    exact early violation first
  | ok reached =>
    rw [ended] at first
    exact rest reached.1 reached.2 first

/-- Conditions may be weakened. -/
theorem imp {post' : α → Code → Prop} {broken' : Violation → Prop}
    (yields : Yields step code post broken)
    (done : ∀ result code', post result code' → post' result code')
    (stopped : ∀ violation, broken violation → broken' violation) :
    Yields step code post' broken' := by
  unfold Yields at yields ⊢
  split
  · rename_i result code' ended
    rw [ended] at yields
    exact done result code' yields
  · rename_i violation ended
    rw [ended] at yields
    exact stopped violation yields

/-- Two things known of a step are known together. -/
theorem and {post' : α → Code → Prop} {broken' : Violation → Prop}
    (first : Yields step code post broken) (second : Yields step code post' broken') :
    Yields step code (fun result code' => post result code' ∧ post' result code')
      (fun violation => broken violation ∧ broken' violation) := by
  unfold Yields at first second ⊢
  split
  · rename_i result code' ended
    rw [ended] at first second
    exact ⟨first, second⟩
  · rename_i violation ended
    rw [ended] at first second
    exact ⟨first, second⟩

/-- What is known of a step that has ended in a result. -/
theorem of_ok {result : α} {code' : Code} (yields : Yields step code post broken)
    (ended : step code = .ok (result, code')) : post result code' := by
  unfold Yields at yields
  rw [ended] at yields
  exact yields

/-- What is known of a step that has broken off. -/
theorem of_error {violation : Violation} (yields : Yields step code post broken)
    (ended : step code = .error violation) : broken violation := by
  unfold Yields at yields
  rw [ended] at yields
  exact yields

end Yields

/-! ### The parts of a step that cannot fail -/

@[simp] theorem yields_newOperand (operand : Operand) (next : Handle → Gen β) :
    Yields (newOperand operand >>= next) code after broken =
      Yields (next (code.newOperand operand).1) (code.newOperand operand).2 after broken := rfl

@[simp] theorem yields_newRegister (next : Handle → Gen β) :
    Yields (newRegister >>= next) code after broken =
      Yields (next code.newRegister.1) code.newRegister.2 after broken := rfl

@[simp] theorem yields_newTarget (next : Handle → Gen β) :
    Yields (newTarget >>= next) code after broken =
      Yields (next code.newTarget.1) code.newTarget.2 after broken := rfl

@[simp] theorem yields_emitJump (next : Handle → Gen β) :
    Yields (emitJump >>= next) code after broken =
      Yields (next code.emitJump.1) code.emitJump.2 after broken := rfl

@[simp] theorem yields_emit (opcode : Opcode) (operands : List Handle) (next : Unit → Gen β) :
    Yields (emit opcode operands >>= next) code after broken =
      Yields (next ()) (code.emit opcode operands) after broken := rfl

@[simp] theorem yields_emit_last (opcode : Opcode) (operands : List Handle)
    {last : Unit → Code → Prop} :
    Yields (emit opcode operands) code last broken = last () (code.emit opcode operands) := rfl

@[simp] theorem yields_modify (change : Code → Code) (next : PUnit → Gen β) :
    Yields ((modify change : Gen PUnit) >>= next) code after broken =
      Yields (next ⟨⟩) (change code) after broken := rfl

@[simp] theorem yields_modify_last (change : Code → Code) {last : PUnit → Code → Prop} :
    Yields (modify change : Gen PUnit) code last broken = last ⟨⟩ (change code) := rfl

@[simp] theorem yields_get (next : Code → Gen β) :
    Yields ((get : Gen Code) >>= next) code after broken = Yields (next code) code after broken :=
  rfl

@[simp] theorem yields_pure_bind (value : α) (next : α → Gen β) :
    Yields (Pure.pure value >>= next) code after broken =
      Yields (next value) code after broken := rfl

@[simp] theorem yields_pure (value : α) :
    Yields (Pure.pure value) code post broken = post value code := rfl

@[simp] theorem yields_fail (violation : Violation) :
    Yields (Gen.fail violation) code post broken = broken violation := rfl

/-! ### Answers that do not touch the code -/

/-- An answer found without the code, or the violation that there is none. -/
theorem yields_lift {answer : Except Violation α} (found : ∀ value, answer = .ok value →
      Yields (next value) code after broken)
    (missed : ∀ violation, answer = .error violation → broken violation) :
    Yields ((liftM answer : Gen α) >>= next) code after broken := by
  cases answer with
  | ok value => exact found value rfl
  | error violation => exact missed violation rfl

end DisplayFilter.Gen
