/-
**Operands.**

Instructions do not hold their operands: each operand slot holds a handle, the position of an
operand in the program's arena. An operand has a content by kind and a number; registers, jump
targets and counts are told by their number.

* `Operand.text`: the operand in listings.
* `Operand.isResolved`: whether a jump target has its number.
-/

import DisplayFilter.Node

namespace DisplayFilter

/-- The position of an operand in the arena. A slot without operand holds `noOperand`. Handles have no
bound here; they fit into 32 bits with a sign for programs of fewer than 2³¹ operands. -/
abbrev Handle := Int

/-- The handle of an unused operand slot. -/
def noOperand : Handle := -1

/-- The number of a jump target that is not known yet. -/
def unresolved : Int := -1

/-- What an operand holds, besides its number. -/
inductive OperandContent where
  | empty
  | register
  | field (field? : Option Field) (raw : Bool)
  | range (range? : Option ByteRange)
  | constant (value : Constant)
  | function (name : String)
  | pattern (pattern? : Option Pattern)
  | target
  | count
  | unknown (kind : UInt8)

/-- One operand of the arena. -/
structure Operand where
  content : OperandContent
  number : Int

namespace Operand

/-- The operand that stands for none. -/
def none : Operand := ⟨.empty, 0⟩

/-- The operand of a register. -/
def register (number : Int) : Operand := ⟨.register, number⟩

/-- The operand of a field. -/
def field (field : Field) (raw : Bool) : Operand := ⟨.field (some field) raw, 0⟩

/-- The operand of a byte range. -/
def range (range : ByteRange) : Operand := ⟨.range (some range), 0⟩

/-- The operand of a constant. -/
def constant (value : Constant) : Operand := ⟨.constant value, 0⟩

/-- The operand of a function. -/
def function (name : String) : Operand := ⟨.function name, 0⟩

/-- The operand of a pattern. -/
def pattern (pattern : Pattern) : Operand := ⟨.pattern (some pattern), 0⟩

/-- A jump target. -/
def target (number : Int) : Operand := ⟨.target, number⟩

/-- A number of arguments. -/
def count (number : Int) : Operand := ⟨.count, number⟩

/-- Whether the operand is a jump target. -/
def isTarget (operand : Operand) : Bool :=
  match operand.content with
  | .target => true
  | _ => false

/-- Whether the operand's number is known: only a jump target's may not be. -/
def isResolved (operand : Operand) : Bool :=
  !operand.isTarget || operand.number ≠ unresolved

/-- The name of the operand's kind. -/
def kindName (operand : Operand) : String :=
  match operand.content with
  | .empty => "empty"
  | .register => "register"
  | .field .. => "field"
  | .range _ => "drange"
  | .constant _ => "fvalue"
  | .function _ => "function"
  | .pattern _ => "pattern"
  | .target => "insn_number"
  | .count => "uint"
  | .unknown kind => "kind(" ++ Number.decimal kind.toNat ++ ")"

/-- The operand in listings. -/
def text (operand : Operand) : String :=
  match operand.content with
  | .empty => ""
  | .register => "R" ++ Number.decimal operand.number
  | .field field? raw =>
    let name := match field? with
      | some field => field.abbreviation.shown
      | Option.none => "<nil>"
    if raw then "@" ++ name else name
  | .range range? => "[" ++ ByteRange.text (windows range?) ++ "]"
  | .constant value => value.literal
  | .function name => name ++ "()"
  | .pattern (some pattern) => "/" ++ pattern.source ++ "/"
  | .pattern Option.none => "//"
  | .target => if operand.number = unresolved then "?" else Number.decimal operand.number
  | .count => Number.decimal operand.number
  | .unknown _ => ""

end Operand

end DisplayFilter
