/-
**What instructions do for a packet.**

A `Packet` says what filters can ask of a packet: the values of fields, those of fields of packets
selected earlier, which fields are present, and how values are sliced, measured, computed, compared
and looked up. The machine for a packet has registers, a stack of arguments and the members of the
set at hand.

An instruction may need a value that its operand does not have, or arguments that are not on the
stack. The machine does not make one up: its memory is lost then, for good. So a program that
returns with its memory has never needed a value that was absent.

* `Packet.run`: what an instruction does.
* `Packet.machine`: the machine for a packet.
* `Packet.machine_rereadsIdly`: reading twice is like reading once.
-/

import DisplayFilter.Proofs.Machine.Run

namespace DisplayFilter

/-- A member of a set: a value, or the values between two. -/
inductive Member (V : Type) where
  | single (value : V)
  | between (low high : V)

/-- What filters can ask of a packet, with values of a given type. -/
structure Packet (V : Type) where
  /-- The value of a field, cooked or raw, or of some bytes of it. -/
  readTree : Field → (raw : Bool) → ByteRange → Option V
  /-- The value of a field of a packet selected earlier. -/
  readReference : Field → (raw : Bool) → ByteRange → Option V
  /-- Whether a field, or some bytes of it, are present. -/
  presence : Field → ByteRange → Bool
  /-- What the value-string table of a field says about a value. -/
  valueString : Field → V → Option V
  slice : ByteRange → V → V
  length : V → V
  negate : V → V
  arithmetic : Opcode → V → V → V
  /-- The result of a function; arguments may be absent. -/
  call : (function : String) → List (Option V) → Option V
  relation : Opcode → V → V → Bool
  membership : Opcode → V → List (Member V) → Bool
  notAllZero : V → Bool
  constant : Constant → V
  pattern : Pattern → V

/-- The memory of a machine: its registers, some of them empty, the arguments pushed, the last one
first, and the members of a set. -/
structure Store (V : Type) where
  registers : Int → Option V
  stack : List (Option V)
  members : List (Member V)

namespace Store

variable {V : Type}

/-- Nothing is stored at first. -/
def empty : Store V := ⟨fun _ => none, [], []⟩

/-- A value, or none, put into a register. -/
def set (store : Store V) (register : Int) (value? : Option V) : Store V :=
  { store with registers := fun other => if other = register then value? else store.registers other }

/-- A result that may be absent goes to a register, and the flag says whether it is there. -/
def load (store : Store V) (register : Int) (result? : Option V) : Bool × Store V :=
  (result?.isSome, store.set register result?)

theorem set_registers (store : Store V) (register other : Int) (value? : Option V) :
    (store.set register value?).registers other =
      if other = register then value? else store.registers other := rfl

@[simp] theorem set_registers_self (store : Store V) (register : Int) (value? : Option V) :
    (store.set register value?).registers register = value? := if_pos rfl

theorem set_set (store : Store V) (register : Int) (value? : Option V) :
    (store.set register value?).set register value? = store.set register value? := by
  unfold set
  congr 1
  funext other
  by_cases same : other = register <;> simp [same]

end Store

/-! ### Operands by kind -/

namespace Operand

/-- The field of an operand, and whether it is raw. -/
def toField? (operand : Operand) : Option (Field × Bool) :=
  match operand.content with
  | .field (some field) raw => some (field, raw)
  | _ => Option.none

/-- The byte range of an operand. -/
def toRange? (operand : Operand) : Option ByteRange :=
  match operand.content with
  | .range range? => range?
  | _ => Option.none

/-- The number of a register. -/
def toRegister? (operand : Operand) : Option Int :=
  match operand.content with
  | .register => some operand.number
  | _ => Option.none

/-- The name of a function. -/
def toFunction? (operand : Operand) : Option String :=
  match operand.content with
  | .function name => some name
  | _ => Option.none

/-- A number of arguments. -/
def toCount? (operand : Operand) : Option Nat :=
  match operand.content with
  | .count => operand.number.toNat?
  | _ => Option.none

end Operand

/-! ### Instructions -/

namespace Packet

variable {V : Type} (packet : Packet V)

/-- The value of an operand. -/
def value? (store : Store V) (operand : Operand) : Option V :=
  match operand.content with
  | .register => store.registers operand.number
  | .constant value => some (packet.constant value)
  | .pattern (some pattern) => some (packet.pattern pattern)
  | _ => none

/-- What an instruction does, given its opcode and the operands of its slots; nothing is said of an
instruction whose operands do not fit, or that needs a value that is not there. -/
def run (opcode : Opcode) (first second third : Operand) (flag : Bool) (store : Store V) :
    Option (Bool × Store V) := do
  match opcode with
  | .not => return (!flag, store)
  | .checkExists =>
    let (field, _) ← first.toField?
    return (packet.presence field [], store)
  | .checkExistsRange =>
    let (field, _) ← first.toField?
    let range ← second.toRange?
    return (packet.presence field range, store)
  | .readTree =>
    let (field, raw) ← first.toField?
    let register ← second.toRegister?
    return store.load register (packet.readTree field raw [])
  | .readTreeRange =>
    let (field, raw) ← first.toField?
    let register ← second.toRegister?
    let range ← third.toRange?
    return store.load register (packet.readTree field raw range)
  | .readReference =>
    let (field, raw) ← first.toField?
    let register ← second.toRegister?
    return store.load register (packet.readReference field raw [])
  | .readReferenceRange =>
    let (field, raw) ← first.toField?
    let register ← second.toRegister?
    let range ← third.toRange?
    return store.load register (packet.readReference field raw range)
  | .valueString =>
    let (field, _) ← first.toField?
    let value ← packet.value? store second
    let register ← third.toRegister?
    return store.load register (packet.valueString field value)
  | .allEq | .anyEq | .allNe | .anyNe | .allGt | .anyGt | .allGe | .anyGe | .allLt | .anyLt
  | .allLe | .anyLe | .allContains | .anyContains | .allMatches | .anyMatches =>
    let left ← packet.value? store first
    let right ← packet.value? store second
    return (packet.relation opcode left right, store)
  | .setAllIn | .setAnyIn | .setAllNotIn | .setAnyNotIn =>
    let value ← packet.value? store first
    return (packet.membership opcode value store.members, store)
  | .setAdd =>
    let value ← packet.value? store first
    return (flag, { store with members := store.members ++ [.single value] })
  | .setAddRange =>
    let low ← packet.value? store first
    let high ← packet.value? store second
    return (flag, { store with members := store.members ++ [.between low high] })
  | .setClear => return (flag, { store with members := [] })
  | .slice =>
    let value ← packet.value? store first
    let register ← second.toRegister?
    let range ← third.toRange?
    return (flag, store.set register (some (packet.slice range value)))
  | .length =>
    let value ← packet.value? store first
    let register ← second.toRegister?
    return (flag, store.set register (some (packet.length value)))
  | .negate =>
    let value ← packet.value? store first
    let register ← second.toRegister?
    return (flag, store.set register (some (packet.negate value)))
  | .bitAnd | .add | .subtract | .multiply | .divide | .modulo =>
    let left ← packet.value? store first
    let right ← packet.value? store second
    let register ← third.toRegister?
    return (flag, store.set register (some (packet.arithmetic opcode left right)))
  | .callFunction =>
    let function ← first.toFunction?
    let register ← second.toRegister?
    let count ← third.toCount?
    guard (count ≤ store.stack.length)
    return store.load register (packet.call function (store.stack.take count).reverse)
  | .stackPush => return (flag, { store with stack := packet.value? store first :: store.stack })
  | .stackPop =>
    let count ← first.toCount?
    guard (count ≤ store.stack.length)
    return (flag, { store with stack := store.stack.drop count })
  | .notAllZero =>
    let value ← packet.value? store first
    return (packet.notAllZero value, store)
  | .ifTrueGoto | .ifFalseGoto | .halt | .noOp | .putValue | .unknown _ => none

/-- The machine for a packet. Its memory is lost where nothing is said of an instruction. -/
def machine : Machine (Option (Store V)) where
  act opcode first second third state :=
    match state.memory with
    | none => state
    | some store =>
      match packet.run opcode first second third state.flag store with
      | none => ⟨state.flag, none⟩
      | some (flag, store) => ⟨flag, some store⟩

/-- What the machine does where something is said of an instruction. -/
theorem machine_act {opcode : Opcode} {first second third : Operand} {flag flag' : Bool}
    {store later : Store V}
    (runs : packet.run opcode first second third flag store = some (flag', later)) :
    packet.machine.act opcode first second third ⟨flag, some store⟩ = ⟨flag', some later⟩ := by
  unfold machine
  simp only [runs]

/-- **Reading twice is like reading once.** -/
theorem machine_rereadsIdly : packet.machine.RereadsIdly := by
  intro field raw register state
  obtain ⟨flag, memory⟩ := state
  cases memory with
  | none => rfl
  | some store =>
    show (⟨_, some ((store.set register _).set register _)⟩ : MachineState _) =
      ⟨_, some (store.set register _)⟩
    rw [Store.set_set]

/-! ### Instructions whose values are there -/

variable {packet} {store : Store V} {flag : Bool} {first second third : Operand} {value other : V}
  {register : Int}

theorem run_valueString (field : Field) (held : packet.value? store second = some value) :
    packet.run .valueString (.field field false) second (.register register) flag store =
      some (store.load register (packet.valueString field value)) := by
  show (packet.value? store second).bind _ = _
  rw [held]
  rfl

theorem run_slice (range : ByteRange) (held : packet.value? store first = some value) :
    packet.run .slice first (.register register) (.range range) flag store =
      some (flag, store.set register (some (packet.slice range value))) := by
  show (packet.value? store first).bind _ = _
  rw [held]
  rfl

theorem run_length (held : packet.value? store first = some value) :
    packet.run .length first (.register register) third flag store =
      some (flag, store.set register (some (packet.length value))) := by
  show (packet.value? store first).bind _ = _
  rw [held]
  rfl

theorem run_negate (held : packet.value? store first = some value) :
    packet.run .negate first (.register register) third flag store =
      some (flag, store.set register (some (packet.negate value))) := by
  show (packet.value? store first).bind _ = _
  rw [held]
  rfl

theorem run_arithmetic {operator : Operator} {opcode : Opcode}
    (chosen : operator.arithmeticOpcode? = some opcode) (binary : operator ≠ .negate)
    (held : packet.value? store first = some value)
    (also : packet.value? store second = some other) :
    packet.run opcode first second (.register register) flag store =
      some (flag, store.set register (some (packet.arithmetic opcode value other))) := by
  have runs : packet.run opcode first second (.register register) flag store =
      (packet.value? store first).bind fun left => (packet.value? store second).bind fun right =>
        some (flag, store.set register (some (packet.arithmetic opcode left right))) := by
    cases operator <;> cases chosen <;> first | exact absurd rfl binary | rfl
  rw [runs, held, also]
  rfl

theorem run_callFunction (function : String) {arguments rest : List (Option V)}
    (pushed : store.stack = arguments.reverse ++ rest) :
    packet.run .callFunction (.function function) (.register register) (.count arguments.length)
        flag store =
      some (store.load register (packet.call function arguments)) := by
  have enough : arguments.length ≤ store.stack.length := by simp [pushed]
  have passed : (store.stack.take arguments.length).reverse = arguments := by simp [pushed]
  show (guard (arguments.length ≤ store.stack.length) : Option Unit).bind (fun _ =>
    some (store.load register
      (packet.call function (store.stack.take arguments.length).reverse))) = _
  rw [guard, if_pos enough, passed]
  rfl

theorem run_stackPush {value? : Option V} (held : packet.value? store first = value?) :
    packet.run .stackPush first second third flag store =
      some (flag, { store with stack := value? :: store.stack }) := by
  rw [← held]
  rfl

theorem run_stackPop {arguments rest : List (Option V)}
    (pushed : store.stack = arguments.reverse ++ rest) :
    packet.run .stackPop (.count arguments.length) second third flag store =
      some (flag, { store with stack := rest }) := by
  have enough : arguments.length ≤ store.stack.length := by simp [pushed]
  have left : store.stack.drop arguments.length = rest := by simp [pushed]
  show (guard (arguments.length ≤ store.stack.length) : Option Unit).bind (fun _ =>
    some (flag, { store with stack := store.stack.drop arguments.length })) = _
  rw [guard, if_pos enough, left]
  rfl

theorem run_setAdd (held : packet.value? store first = some value) :
    packet.run .setAdd first second third flag store =
      some (flag, { store with members := store.members ++ [.single value] }) := by
  show (packet.value? store first).bind _ = _
  rw [held]
  rfl

theorem run_setAddRange (held : packet.value? store first = some value)
    (also : packet.value? store second = some other) :
    packet.run .setAddRange first second third flag store =
      some (flag, { store with members := store.members ++ [.between value other] }) := by
  show (packet.value? store first).bind (fun low => (packet.value? store second).bind fun high =>
    some (flag, { store with members := store.members ++ [Member.between low high] })) = _
  rw [held, also]
  rfl

theorem run_notAllZero (held : packet.value? store first = some value) :
    packet.run .notAllZero first second third flag store =
      some (packet.notAllZero value, store) := by
  show (packet.value? store first).bind _ = _
  rw [held]
  rfl

end Packet

end DisplayFilter
