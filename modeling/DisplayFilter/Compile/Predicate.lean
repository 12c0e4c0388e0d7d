/-
**Generating code for truth values.**

The code for a node in a boolean position leaves the answer in the machine's flag. Absent values
skip the instruction that tests them, so that the flag keeps the failure of the read.

* `Compile.selectOpcode`: the opcode of a relation under its quantifier.
* `Compile.predicate`: the code for a truth value, and the operand it computed, if any.
-/

import DisplayFilter.Compile.Entity

namespace DisplayFilter.Compile

variable (registry : Registry)

/-- The opcode of a relation or membership operator under a quantifier. -/
def selectOpcode (operator : Operator) (quantifier : Quantifier) : Except Violation Opcode :=
  match operator.relationOpcode? with
  | none => .error (.notARelation operator)
  | some baseline =>
    match baseline.select? quantifier with
    | none => .error (.noQuantifiedForm operator quantifier)
    | some opcode => .ok opcode

/-- A relation between two values. If either is absent the relation is skipped. -/
def relation (operator : Operator) (quantifier : Quantifier) (left right : Node) : Gen Unit := do
  let (leftValue, leftJumps) ← entity registry left
  let (rightValue, rightJumps) ← entity registry right
  let opcode ← selectOpcode operator quantifier
  Gen.emit opcode [leftValue, rightValue]
  Gen.fixup (leftJumps ++ rightJumps)

/-- Adds the members of a set. A member that is absent is left out. -/
def setElements : List Element → Gen Unit
  | [] => return ()
  | .single low :: elements => do
    let (value, jumps) ← entity registry low
    Gen.emit .setAdd [value]
    Gen.fixup jumps
    setElements elements
  | .between low high :: elements => do
    let (lowValue, lowJumps) ← entity registry low
    let (highValue, highJumps) ← entity registry high
    Gen.emit .setAddRange [lowValue, highValue]
    Gen.fixup (lowJumps ++ highJumps)
    setElements elements

/-- A membership test. If the value is absent the whole test is skipped, otherwise the set is always
cleared behind it. -/
def membership (operator : Operator) (quantifier : Quantifier) (left right : Node) : Gen Unit := do
  match right with
  | .set elements =>
    let opcode ← selectOpcode operator quantifier
    let (value, jumps) ← entity registry left
    setElements registry elements
    Gen.emit opcode [value]
    Gen.emit .setClear []
    Gen.fixup jumps
  | _ => Gen.fail (.notASet operator right.describe)

/-- Whether a field is present. The bytes wanted count, their rawness does not. -/
def existence (read : FieldRead) : Gen Unit := do
  match read.field? with
  | none => Gen.fail .fieldWithoutInfo
  | some written =>
    let field := registry.canonical written
    let range := windows read.range?
    let operand ← Gen.newOperand (.field field false)
    if range.isEmpty then Gen.emit .checkExists [operand]
    else
      let bytes ← Gen.newOperand (.range range)
      Gen.emit .checkExistsRange [operand, bytes]
    modify fun code => code.markInteresting registry field

/-- Whether a computed value is not all zero. -/
def notZero (node : Node) : Gen Handle := do
  let (value, jumps) ← entity registry node
  Gen.emit .notAllZero [value]
  Gen.fixup jumps
  return value

/-- Whether a slice is not empty. -/
def notEmpty (node : Node) : Gen Handle := do
  let (value, jumps) ← entity registry node
  let length ← Gen.newRegister
  Gen.emit .length [value, length]
  Gen.emit .notAllZero [length]
  Gen.fixup jumps
  return value

/-- The code for a truth value. A bare field may be loaded and returned instead of being tested for
presence, if that is wanted of it; nothing below it is asked for its values. -/
def predicate (returnValues : Bool) : Node → Gen Handle
  | .missing => Gen.fail .missingPredicate
  | .test operator quantifier left right => do
    match operator with
    | .not =>
      let _ ← predicate false left
      Gen.emit .not []
    | .and =>
      let _ ← predicate false left
      let target ← Gen.newTarget
      Gen.emit .ifFalseGoto [target]
      let _ ← predicate false right
      Gen.fixup [target]
    | .or =>
      let _ ← predicate false left
      let target ← Gen.newTarget
      Gen.emit .ifTrueGoto [target]
      let _ ← predicate false right
      Gen.fixup [target]
    | _ =>
      if operator.isRelation then relation registry operator quantifier left right
      else if operator.isMembership then membership registry operator quantifier left right
      else Gen.fail (.notATest operator)
    return noOperand
  | .field read => do
    if returnValues then
      let (value, jumps) ← readField registry read
      Gen.fixup jumps
      return value
    else
      existence registry read
      return noOperand
  | .arithmetic operator left right => notZero registry (.arithmetic operator left right)
  | .call definition? args => notZero registry (.call definition? args)
  | .slice inner range? => notEmpty registry (.slice inner range?)
  | node => Gen.fail (.notAPredicate node.describe)

end DisplayFilter.Compile
