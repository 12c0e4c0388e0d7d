/-
**Generating code for values.**

The code for a node that produces a value leaves the value in an operand, which is returned together
with the targets of the jumps to take when the value is absent, in the order of their emission. The
caller resolves them behind the instruction that needs the value, so that an absent value skips
exactly that instruction.

A plain read of a field goes to the register of the field's earlier plain read, if there was one;
the read itself is emitted again. Every other value gets a fresh register.

* `Compile.entity`: the code for a value.
-/

import DisplayFilter.Code

namespace DisplayFilter.Compile

variable (registry : Registry)

/-- The operand of a value and the targets of the jumps to take when it is absent. -/
abbrev Value := Handle × List Handle

/-- The register for the plain read of a field: that of its earlier plain read, or a fresh one. -/
def plainRegister (field : Field) (raw : Bool) : Gen Handle := do
  match (← get).cachedRegister? field raw with
  | some register => return register
  | none =>
    let register ← Gen.newRegister
    modify fun code => code.cacheRegister field raw register
    return register

/-- Applies the value-string table of a field to a value. -/
def valueString (field : Field) (source : Handle) : Gen (Handle × Handle) := do
  let register ← Gen.newRegister
  let operand ← Gen.newOperand (.field field false)
  Gen.emit .valueString [operand, source, register]
  return (register, ← Gen.emitJump)

/-- Applies the value-string table of a field to a value that was read, if that is wanted. -/
def withValueString (wanted : Bool) (field : Field) (read : Value) : Gen Value := do
  if wanted then
    let (register, jump) ← valueString field read.1
    return (register, read.2 ++ [jump])
  else return read

/-- Reads a field of the packet. -/
def readField (read : FieldRead) : Gen Value := do
  match read.field? with
  | none => Gen.fail .fieldWithoutInfo
  | some written =>
    let field := registry.canonical written
    let range := windows read.range?
    let register ←
      if range.isEmpty then do
        let register ← plainRegister field read.raw
        let operand ← Gen.newOperand (.field field read.raw)
        Gen.emit .readTree [operand, register]
        pure register
      else do
        let register ← Gen.newRegister
        let operand ← Gen.newOperand (.field field read.raw)
        let bytes ← Gen.newOperand (.range range)
        Gen.emit .readTreeRange [operand, register, bytes]
        pure register
    let jump ← Gen.emitJump
    modify fun code => code.markInteresting registry field
    withValueString read.valueString written (register, [jump])

/-- Reads a field of a packet selected earlier. Such reads never share a register. -/
def readReference (read : FieldRead) : Gen Value := do
  match read.field? with
  | none => Gen.fail .referenceWithoutInfo
  | some written =>
    let field := registry.canonical written
    let range := windows read.range?
    let register ← Gen.newRegister
    let operand ← Gen.newOperand (.field field read.raw)
    if range.isEmpty then Gen.emit .readReference [operand, register]
    else
      let bytes ← Gen.newOperand (.range range)
      Gen.emit .readReferenceRange [operand, register, bytes]
    let jump ← Gen.emitJump
    modify fun code => (code.addReference field read.raw).markInteresting registry field
    withValueString read.valueString written (register, [jump])

/-- Applies the value-string table of a field to what a read of it gave, unless the read did so
itself. -/
def withTable (read : FieldRead) (value : Value) : Gen Value :=
  match read.field? with
  | none => return value
  | some field => withValueString (!read.valueString) field value

mutual

/-- The code for a value. -/
def entity : Node → Gen Value
  | .missing => Gen.fail .missingOperand
  | .field read => readField registry read
  | .reference read => readReference registry read
  | .value constant => do return (← Gen.newOperand (.constant constant), [])
  | .pattern none => Gen.fail .patternWithoutExpression
  | .pattern (some pattern) => do return (← Gen.newOperand (.pattern pattern), [])
  | .slice inner range? => do
    let range := windows range?
    if range.isEmpty then Gen.fail .sliceWithoutRange
    else
      let (value, jumps) ← entity inner
      let register ← Gen.newRegister
      let bytes ← Gen.newOperand (.range range)
      Gen.emit .slice [value, register, bytes]
      return (register, jumps)
  | .call none _ => Gen.fail .callWithoutDefinition
  | .call (some definition) args => do
    if definition.name = "len" then
      match args with
      | [argument] =>
        let (value, jumps) ← entity argument
        let register ← Gen.newRegister
        Gen.emit .length [value, register]
        return (register, jumps)
      | _ => Gen.fail (.oneArgument definition.name args.length)
    else if definition.name = "vals" then
      match args with
      | [.field read] => withTable read (← readField registry read)
      | [.reference read] => withTable read (← readReference registry read)
      | [argument] => Gen.fail (.valueStringArgument argument.describe)
      | _ => Gen.fail (.oneArgument definition.name args.length)
    else
      let function ← Gen.newOperand (.function definition.name)
      let register ← Gen.newRegister
      arguments args
      let passed ← Gen.newOperand (.count args.length)
      Gen.emit .callFunction [function, register, passed]
      let popped ← Gen.newOperand (.count args.length)
      Gen.emit .stackPop [popped]
      return (register, [← Gen.emitJump])
  | .arithmetic operator left right => do
    match operator.arithmeticOpcode? with
    | none => Gen.fail (.notArithmetic operator)
    | some opcode =>
      let (leftValue, leftJumps) ← entity left
      if operator = .negate then
        if right.isPresent then Gen.fail .negationWithTwoOperands
        else
          let register ← Gen.newRegister
          Gen.emit opcode [leftValue, register]
          return (register, leftJumps)
      else
        let (rightValue, rightJumps) ← entity right
        let register ← Gen.newRegister
        Gen.emit opcode [leftValue, rightValue, register]
        return (register, leftJumps ++ rightJumps)
  | .test operator quantifier left right =>
    Gen.fail (.noValue (Node.describe (.test operator quantifier left right)))
  | .set elements => Gen.fail (.noValue (Node.describe (.set elements)))

/-- Pushes the arguments of a call. An absent argument is pushed as an empty register and skips
nothing else. -/
def arguments : List Node → Gen Unit
  | [] => return ()
  | argument :: rest => do
    let (value, jumps) ← entity argument
    Gen.fixup jumps
    Gen.emit .stackPush [value]
    arguments rest

end

end DisplayFilter.Compile
