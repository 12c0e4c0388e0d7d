/-
**Validation of filter trees.**

A tree is validated before it is compiled, and every violation is reported: first those of what each
node holds, node by node from the root down, then those of where the nodes stand.

* `Node.payloadViolations`: the violations of what one node holds.
* `Node.predicateViolations`, `Node.entityViolations`: those of a node where a truth value, or a
  value, is wanted.
* `validate`: all violations of a tree.
-/

import DisplayFilter.Node.Traversal
import DisplayFilter.Violation

namespace DisplayFilter

namespace Node

/-- The violations of a call's own content. `vals` reads the value-string table of a field and so
takes exactly one field; `len` takes exactly one argument. -/
def callViolations (definition? : Option FunctionDef) (arguments : List Node) : List Violation :=
  match definition? with
  | none => [.callWithoutDefinition]
  | some definition =>
    let count := arguments.length
    if definition.name = "len" then
      if count = 1 then [] else [.oneArgument definition.name count]
    else if definition.name = "vals" then
      match arguments with
      | [.field _] => []
      | [.reference _] => []
      | [argument] => [.valueStringArgument argument.describe]
      | _ => [.oneArgument definition.name count]
    else if definition.accepts count then []
    else [.argumentCount definition.name count]

/-- The violations of an operator and quantifier in a test. -/
def testViolations (operator : Operator) (quantifier : Quantifier) : List Violation :=
  (if operator.isArithmetic || operator = .invalid then [.notATest operator] else []) ++
    (if quantifier = .baseline || operator.relationOpcode?.any Opcode.isQuantified then []
      else [.noQuantifiedForm operator quantifier])

/-- The violations of what a node holds, wherever it stands. -/
def payloadViolations : Node → List Violation
  | .field read => if read.field?.isNone then [.fieldWithoutInfo] else []
  | .reference read => if read.field?.isNone then [.referenceWithoutInfo] else []
  | .pattern pattern? => if pattern?.isNone then [.patternWithoutExpression] else []
  | .slice _ range? => if (windows range?).isEmpty then [.sliceWithoutRange] else []
  | .call definition? arguments => callViolations definition? arguments
  | .test operator quantifier _ _ => testViolations operator quantifier
  | .arithmetic operator _ _ =>
    if operator.arithmeticOpcode?.isNone then [.notArithmetic operator] else []
  | _ => []

mutual

/-- The violations of a node that stands where a value is wanted. -/
def entityViolations : Node → List Violation
  | .missing => [.missingOperand]
  | .slice entity _ => entity.entityViolations
  | .call _ arguments => entitiesViolations arguments
  | .arithmetic operator left right =>
    left.entityViolations ++
      (if operator = .negate then
        if right.isPresent then [.negationTakesOneOperand] else []
      else right.entityViolations)
  | .test operator quantifier left right =>
    [.noValue (describe (.test operator quantifier left right))]
  | .set _ => [.setOutOfPlace]
  | _ => []

/-- The violations of several nodes that stand where values are wanted. -/
def entitiesViolations : List Node → List Violation
  | [] => []
  | node :: nodes => node.entityViolations ++ entitiesViolations nodes

/-- The violations of the members of a set. -/
def elementViolations : List Element → List Violation
  | [] => []
  | .single low :: elements => low.entityViolations ++ elementViolations elements
  | .between low high :: elements =>
    low.entityViolations ++ (high.entityViolations ++ elementViolations elements)

end

/-- The violations of the right side of a membership test. -/
def membershipViolations (operator : Operator) (right : Node) : List Violation :=
  match right with
  | .set [] => [.emptySet]
  | .set elements => elementViolations elements
  | _ => [.notASet operator right.describe]

/-- The violations of a node that stands where a truth value is wanted. -/
def predicateViolations : Node → List Violation
  | .missing => [.missingPredicate]
  | .test operator _ left right =>
    if operator = .not then
      left.predicateViolations ++ (if right.isPresent then [.notTakesOneOperand] else [])
    else if operator.isLogical then left.predicateViolations ++ right.predicateViolations
    else if operator.isMembership then
      left.entityViolations ++ membershipViolations operator right
    else if operator.isRelation then left.entityViolations ++ right.entityViolations
    else []
  | .field _ => []
  | .arithmetic operator left right => entityViolations (.arithmetic operator left right)
  | .call definition? arguments => entityViolations (.call definition? arguments)
  | .slice entity range? => entityViolations (.slice entity range?)
  | node => [.notAPredicate node.describe]

end Node

/-- Every violation of a tree. -/
def validate (root : Node) : List Violation :=
  if root.isPresent then
    root.preorder.flatMap Node.payloadViolations ++ root.predicateViolations
  else [.nothingToCompile]

/-- The violations of a tree as one fault, if there are any. -/
def validationFault? (root : Node) : Option Fault :=
  match validate root with
  | [] => none
  | violations => some (.several (violations.map Violation.toFault))

end DisplayFilter
